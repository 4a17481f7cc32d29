import Mathlib.Data.List.Infix
import Switchyard.Machine.Program
import Switchyard.Proofs.Positions
import Switchyard.Proofs.Text.Upper

namespace Switchyard

namespace SecretPattern

/-- The texts that a pattern stands for: a star stands for any text, also for none, and each other
character for itself. -/
inductive Denotes : List Char → List Char → Prop where
  | nil : Denotes [] []
  | star {p run t} : Denotes p t → Denotes ('*' :: p) (run ++ t)
  | literal {c p t} : c ≠ '*' → Denotes p t → Denotes (c :: p) (c :: t)

variable {p q s t mid : List Char} {a b : Char}

theorem Denotes.append (hp : Denotes p s) (hq : Denotes q t) : Denotes (p ++ q) (s ++ t) := by
  induction hp with
  | nil => exact hq
  | @star p run s _ ih =>
    rw [List.append_assoc]
    exact .star ih
  | literal hc _ ih => exact .literal hc ih

theorem denotes_cons_star : Denotes ('*' :: p) t ↔ ∃ rest, rest <:+ t ∧ Denotes p rest := by
  constructor
  · intro h
    cases h with
    | @star _ run rest h => exact ⟨rest, List.suffix_append run rest, h⟩
    | literal hc _ => exact absurd rfl hc
  · rintro ⟨rest, ⟨run, rfl⟩, h⟩
    exact .star h

theorem denotes_star : Denotes ['*'] t :=
  denotes_cons_star.2 ⟨[], List.nil_suffix, .nil⟩

theorem denotes_self (hp : '*' ∉ p) : Denotes p p := by
  induction p with
  | nil => exact .nil
  | cons c p ih =>
    rw [List.mem_cons, not_or] at hp
    exact .literal (Ne.symm hp.1) (ih hp.2)

theorem denotes_append_iff (hp : '*' ∉ p) :
    Denotes (p ++ q) t ↔ ∃ rest, t = p ++ rest ∧ Denotes q rest := by
  constructor
  · intro h
    induction p generalizing t with
    | nil => exact ⟨t, rfl, h⟩
    | cons c p ih =>
      rw [List.mem_cons, not_or] at hp
      cases h with
      | star _ => exact absurd rfl hp.1
      | literal _ h =>
        obtain ⟨rest, rfl, hrest⟩ := ih hp.2 h
        exact ⟨rest, rfl, hrest⟩
  · rintro ⟨rest, rfl, h⟩
    exact (denotes_self hp).append h

theorem denotes_word (hp : '*' ∉ p) : Denotes p t ↔ t = p := by
  constructor
  · intro h
    rw [← List.append_nil p, denotes_append_iff hp] at h
    obtain ⟨rest, rfl, h⟩ := h
    cases h
    exact List.append_nil p
  · rintro rfl
    exact denotes_self hp

theorem denotes_ending (hp : '*' ∉ p) : Denotes ('*' :: p) t ↔ p <:+ t := by
  rw [denotes_cons_star]
  constructor
  · rintro ⟨rest, hsuffix, h⟩
    rwa [(denotes_word hp).1 h] at hsuffix
  · intro h
    exact ⟨p, h, denotes_self hp⟩

theorem denotes_beginning (hp : '*' ∉ p) : Denotes (p ++ ['*']) t ↔ p <+: t := by
  rw [denotes_append_iff hp]
  constructor
  · rintro ⟨rest, rfl, -⟩
    exact List.prefix_append p rest
  · rintro ⟨rest, rfl⟩
    exact ⟨rest, rfl, denotes_star⟩

theorem denotes_part (hp : '*' ∉ p) : Denotes ('*' :: (p ++ ['*'])) t ↔ p <:+: t := by
  rw [denotes_cons_star]
  constructor
  · rintro ⟨rest, hsuffix, h⟩
    exact ((denotes_beginning hp).1 h).isInfix.trans hsuffix.isInfix
  · rintro ⟨before, after, rfl⟩
    rw [List.append_assoc]
    exact ⟨p ++ after, List.suffix_append _ _, (denotes_beginning hp).2 (List.prefix_append _ _)⟩

theorem occursIn_iff : occursIn p t = true ↔ p <:+: t := by
  induction t with
  | nil =>
    rw [List.infix_nil]
    exact List.isEmpty_iff
  | cons c t ih =>
    rw [occursIn, Bool.or_eq_true, List.isPrefixOf_iff_prefix, ih, List.infix_cons_iff]

theorem accepts_eq {pattern : SecretPattern}
    (hp : Text.Upper.ofText pattern.text = a :: (mid ++ [b])) : pattern.accepts t =
      if a = '*' then if b = '*' then occursIn mid t else (mid ++ [b]).isSuffixOf t
      else if b = '*' then (a :: mid).isPrefixOf t else a :: (mid ++ [b]) == t := by
  have hlast : (a :: (mid ++ [b])).getLast? = some b := by
    rw [← List.cons_append, List.getLast?_concat]
  have hinit : (a :: (mid ++ [b])).dropLast = a :: mid := by
    rw [← List.cons_append, List.dropLast_concat]
  unfold accepts
  simp only [hp, hlast, hinit]
  by_cases ha : a = '*' <;> by_cases hb : b = '*' <;> simp [ha, hb]

/-- With stars at its ends only, it is compared with just the texts that it stands for. The cases
are which of the ends are stars. -/
theorem accepts_iff_denotes {pattern : SecretPattern}
    (hp : Text.Upper.ofText pattern.text = a :: (mid ++ [b])) (hmid : '*' ∉ mid) :
    pattern.accepts t = true ↔ Denotes (a :: (mid ++ [b])) t := by
  rw [accepts_eq hp]
  by_cases ha : a = '*'
  · rw [if_pos ha]
    subst ha
    by_cases hb : b = '*'
    · rw [if_pos hb, occursIn_iff, hb, denotes_part hmid]
    · have hword : '*' ∉ mid ++ [b] := by simp [hmid, Ne.symm hb]
      rw [if_neg hb, List.isSuffixOf_iff_suffix, denotes_ending hword]
  · rw [if_neg ha]
    have hword : '*' ∉ a :: mid := by simp [hmid, Ne.symm ha]
    by_cases hb : b = '*'
    · rw [if_pos hb, List.isPrefixOf_iff_prefix, hb, ← List.cons_append, denotes_beginning hword]
    · have hword' : '*' ∉ a :: (mid ++ [b]) := by simp [hmid, Ne.symm ha, Ne.symm hb]
      rw [if_neg hb, beq_iff_eq, denotes_word hword', eq_comm]

variable {pattern : SecretPattern}

theorem Denotes.ofText (h : Denotes p t) : Denotes (Text.Upper.ofText p) (Text.Upper.ofText t) := by
  induction h with
  | nil => exact .nil
  | @star p run t _ ih =>
    rw [Text.Upper.ofText_append]
    exact .star ih
  | @literal c p t hc _ ih =>
    have hstar : '*' ∉ Text.Upper.ofChar c := fun h => hc (Text.Upper.star_mem_ofChar.1 h)
    exact (denotes_self hstar).append ih

/-- A text whose only stars are at its ends is such a text in upper case, too. -/
theorem ofText_ends (h2 : 2 ≤ p.length) (hmid : '*' ∉ p.tail.dropLast) :
    ∃ a mid b, Text.Upper.ofText p = a :: (mid ++ [b]) ∧ '*' ∉ mid := by
  obtain ⟨c, m, d, rfl⟩ : ∃ c m d, p = c :: (m ++ [d]) := by
    match p with
    | c :: c' :: p =>
      obtain ⟨m, d, h⟩ := List.eq_nil_or_concat (c' :: p) |>.resolve_left (List.cons_ne_nil _ _)
      exact ⟨c, m, d, by rw [h, List.concat_eq_append]⟩
  rw [List.tail_cons, List.dropLast_concat] at hmid
  obtain ⟨a, as, ha⟩ := List.exists_cons_of_ne_nil (Text.Upper.ofChar_ne_nil c)
  obtain ⟨bs, b, hb⟩ :=
    (List.eq_nil_or_concat (Text.Upper.ofChar d)).resolve_left (Text.Upper.ofChar_ne_nil d)
  rw [List.concat_eq_append] at hb
  refine ⟨a, as ++ Text.Upper.ofText m ++ bs, b, ?_, ?_⟩
  · have he : Text.Upper.ofText (c :: (m ++ [d])) =
        Text.Upper.ofChar c ++ (Text.Upper.ofText m ++ Text.Upper.ofText [d]) := by
      rw [← Text.Upper.ofText_append]
      rfl
    rw [he, Text.Upper.ofText_singleton, ha, hb]
    simp
  · have has : '*' ∉ as := Text.Upper.star_not_mem_beside [] as ha
    have hbs : '*' ∉ bs := by
      have h := Text.Upper.star_not_mem_beside bs [] hb
      rwa [List.append_nil] at h
    rw [List.mem_append, List.mem_append, Text.Upper.star_mem_ofText]
    exact not_or.2 ⟨not_or.2 ⟨has, hmid⟩, hbs⟩

/-- Where its stars are at its ends, a pattern is compared with a name as it stands for texts, both
in upper case. -/
theorem accepts_ofText_iff (h2 : 2 ≤ pattern.text.length)
    (hmid : '*' ∉ pattern.text.tail.dropLast) :
    pattern.accepts t = true ↔ Denotes (Text.Upper.ofText pattern.text) t := by
  obtain ⟨a, mid, b, he, hm⟩ := ofText_ends h2 hmid
  rw [accepts_iff_denotes he hm, he]

end SecretPattern

namespace Environment

variable {name : String}

/-- Whether a name is in some letter case one of the names to withhold. -/
def Withheld (name : String) : Prop :=
  ∃ pattern ∈ secretPatterns, ∃ text,
    Text.Upper.SameLetters text name.toList ∧ SecretPattern.Denotes pattern.text text

theorem secretPatterns_form : ∀ pattern ∈ secretPatterns, 2 ≤ pattern.text.length ∧
    '*' ∉ pattern.text.tail.dropLast ∧ Text.Upper.ofText pattern.text = pattern.text := by
  decide +kernel

theorem isSecret_iff : isSecret name = true ↔ Withheld name := by
  unfold isSecret Withheld
  rw [List.any_eq_true]
  refine exists_congr fun pattern => and_congr_right fun hpattern => ?_
  obtain ⟨h2, hmid, hupper⟩ := secretPatterns_form pattern hpattern
  rw [SecretPattern.accepts_ofText_iff h2 hmid, hupper]
  constructor
  · intro h
    exact ⟨_, Text.Upper.sameLetters_ofText _, h⟩
  · rintro ⟨text, hsame, h⟩
    rw [← hsame, ← hupper]
    exact h.ofText

instance : DecidablePred Withheld := fun _ => decidable_of_iff _ isSecret_iff

theorem withoutSecrets_eq (env : Environment) :
    env.withoutSecrets = env.filter fun v => ¬ Withheld v.1 := by
  apply List.filter_congr
  intro v _
  rw [decide_not, Bool.not_inj_iff, Bool.eq_iff_iff, decide_eq_true_iff]
  exact isSecret_iff

/-- A server sees the variables that are not withheld, with the values that they have. -/
theorem lookup_withoutSecrets (env : Environment) (name : String) :
    env.withoutSecrets.lookup name = if Withheld name then none else env.lookup name := by
  rw [withoutSecrets, lookup_filter (fun key => !isSecret key)]
  simp only [← isSecret_iff, Bool.not_eq_true', ite_not, ← Bool.not_eq_true]

end Environment

namespace Machine

open Environment (Withheld)

variable {m : Machine} {env : Environment} {config : ServerConfig} {directory : Path}

/-- A command is looked up with the search path and the home directory, which are not withheld. -/
theorem which?_of_same (h : ∀ name, ¬ Withheld name → env.lookup name = m.environment.lookup name)
    (command : String) : { m with environment := env }.which? command = m.which? command := by
  have hpath := h "PATH" (by decide +kernel)
  have hhome := h "HOME" (by decide +kernel)
  simp only [which?, places, expandHome, home?, hpath, hhome]
  rfl

theorem contentError?_of_same_files {m' : Machine} (h : m'.files = m.files) (fuel : Nat)
    (content : List UInt8) :
    m'.contentError? directory fuel content = m.contentError? directory fuel content := by
  fun_induction contentError? m directory fuel content with
  | case6 | case7 => simp_all [contentError?]
  | _ => simp_all +zetaDelta [contentError?]

theorem startError?_of_same_files {m' : Machine} (h : m'.files = m.files) (program : Path) :
    m'.startError? program directory = m.startError? program directory := by
  simp only [startError?, h, contentError?_of_same_files h]

theorem launch_of_same (h : ∀ name, ¬ Withheld name → env.lookup name = m.environment.lookup name) :
    { m with environment := env }.launch config directory =
      (m.launch config directory).map fun l => { l with environment := env.withoutSecrets } := by
  unfold launch
  rw [which?_of_same h]
  cases m.which? config.command with
  | none => rfl
  | some found =>
    have hfiles : { m with environment := env }.files = m.files := rfl
    dsimp only
    rw [startError?_of_same_files hfiles]
    cases m.startError? (directory.join found) directory with
    | none => rfl
    | some e => rfl

theorem environment_of_launch {launch : Launch} (h : m.launch config directory = .ok launch) :
    launch.environment = m.environment.withoutSecrets := by
  unfold Machine.launch at h
  split at h
  · cases h
  · dsimp only at h
    split at h
    · cases h
    · cases h
      rfl

/-- Two starts that fail alike, or that alike start a server with the same variables. -/
inductive SameStart : Except ServerError Launch → Except ServerError Launch → Prop where
  | failed (e : ServerError) : SameStart (.error e) (.error e)
  | started (l : Launch) (env : Environment) :
    (∀ name, env.lookup name = l.environment.lookup name) →
      SameStart (.ok l) (.ok { l with environment := env })

/-- A pattern of two characters or more with stars at its ends only accepts just the names that it
stands for, both in upper case. So what a server sees of its parent's environment are the variables
whose names are in no letter case names to withhold, and from two environments that differ in other
variables only it is started alike and sees the same. -/
theorem launch_withholds_secrets :
    (∀ (pattern : SecretPattern) (name : List Char), 2 ≤ pattern.text.length →
      '*' ∉ pattern.text.tail.dropLast →
      (pattern.accepts (Text.Upper.ofText name) = true ↔
        SecretPattern.Denotes (Text.Upper.ofText pattern.text) (Text.Upper.ofText name))) ∧
    ∀ (m : Machine) (config : ServerConfig) (directory : Path),
      (∀ launch, m.launch config directory = .ok launch →
        launch.environment = m.environment.filter fun v => ¬ Withheld v.1) ∧
      ∀ env : Environment,
        (∀ name, ¬ Withheld name → env.lookup name = m.environment.lookup name) →
        SameStart (m.launch config directory)
          ({ m with environment := env }.launch config directory) := by
  refine ⟨fun pattern name h2 hmid => SecretPattern.accepts_ofText_iff h2 hmid, ?_⟩
  intro m config directory
  constructor
  · intro launch h
    rw [environment_of_launch h, Environment.withoutSecrets_eq]
  · intro env hsame
    rw [launch_of_same hsame]
    cases h : m.launch config directory with
    | error e => exact .failed e
    | ok launch =>
      refine .started launch env.withoutSecrets fun name => ?_
      rw [environment_of_launch h, Environment.lookup_withoutSecrets,
        Environment.lookup_withoutSecrets]
      split
      · rfl
      · rename_i hname
        exact hsame name hname

/-- A program in a directory of the search path, and a variable in mixed letter case. -/
def listing : Machine where
  files := FileTree.empty.put [Text.Utf8.ofString "bin", Text.Utf8.ofString "ls"]
    (.file programMark true)
  environment := [("PATH", "/bin"), ("OpenAI_Api_Key", "k"), ("LANG", "C")]
  current := .ofString "/"
  servers := []

theorem launch_withholds_secrets_listing :
    (2 ≤ "*_CREDENTIAL*".toList.length ∧ '*' ∉ "*_CREDENTIAL*".toList.tail.dropLast ∧
      SecretPattern.Denotes (Text.Upper.ofText "*_CREDENTIAL*".toList)
        (Text.Upper.ofText "Db_Credentials".toList)) ∧
    (∃ launch, listing.launch ⟨"ls", "", "ls", [], []⟩ (.ofString "/") = .ok launch ∧
      launch.environment = [("PATH", "/bin"), ("LANG", "C")]) ∧
    (∀ name, ¬ Withheld name →
      List.lookup name [("LANG", "C"), ("PATH", "/bin")] = listing.environment.lookup name) ∧
    SameStart (listing.launch ⟨"ls", "", "ls", [], []⟩ (.ofString "/"))
      ({ listing with environment := [("LANG", "C"), ("PATH", "/bin")] }.launch
        ⟨"ls", "", "ls", [], []⟩ (.ofString "/")) := by
  obtain ⟨hpattern, hlaunch⟩ := launch_withholds_secrets
  obtain ⟨hfilter, hsame⟩ := hlaunch listing ⟨"ls", "", "ls", [], []⟩ (.ofString "/")
  have h2 : 2 ≤ "*_CREDENTIAL*".toList.length := by decide +kernel
  have hmid : '*' ∉ "*_CREDENTIAL*".toList.tail.dropLast := by decide +kernel
  have hdenotes := (hpattern ⟨"*_CREDENTIAL*".toList⟩ "Db_Credentials".toList h2 hmid).1
    (by decide +kernel)
  have hstart : listing.launch ⟨"ls", "", "ls", [], []⟩ (.ofString "/") =
      .ok ⟨.ofString "/bin/ls", [], .ofString "/", [("PATH", "/bin"), ("LANG", "C")]⟩ := by
    decide +kernel
  have hnames : ∀ name, ¬ Withheld name →
      List.lookup name [("LANG", "C"), ("PATH", "/bin")] = listing.environment.lookup name := by
    intro name hname
    have hkey : name ≠ "OpenAI_Api_Key" := by
      rintro rfl
      exact hname (by decide +kernel)
    by_cases hpath : name = "PATH"
    · rw [hpath]
      decide +kernel
    · simp only [listing, List.lookup_cons, beq_false_of_ne hkey, beq_false_of_ne hpath]
  exact ⟨⟨h2, hmid, hdenotes⟩, ⟨_, hstart, (hfilter _ hstart).trans (by decide +kernel)⟩, hnames,
    hsame _ hnames⟩

end Machine
end Switchyard
