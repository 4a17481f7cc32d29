import Switchyard.Path.Absolute

namespace Switchyard

namespace Path

structure IsName (name : List UInt8) : Prop where
  nonempty : name ≠ []
  no_slash : slash ∉ name
  not_dot : name ≠ [dot]
  not_dots : name ≠ [dot, dot]

variable {name : List UInt8} {names : List (List UInt8)} {p : Path}

theorem segments_ne_nil (bytes : List UInt8) : segments bytes ≠ [] := by
  cases bytes with
  | nil => exact nofun
  | cons b bytes =>
    unfold segments
    split
    · exact nofun
    · split <;> exact nofun

theorem no_slash_of_mem_segments {bytes s : List UInt8} (h : s ∈ segments bytes) : slash ∉ s := by
  induction bytes generalizing s with
  | nil =>
    rw [segments, List.mem_singleton] at h
    rw [h]
    exact nofun
  | cons b bytes ih =>
    unfold segments at h
    split at h
    · obtain rfl | h := List.mem_cons.1 h
      · exact nofun
      · exact ih h
    · rename_i hb
      split at h
      · rename_i hs
        exact absurd hs (segments_ne_nil bytes)
      · rename_i s' ss hs
        obtain rfl | h := List.mem_cons.1 h
        · intro hm
          obtain heq | hm := List.mem_cons.1 hm
          · rw [heq] at hb
            exact hb (beq_self_eq_true _)
          · exact ih (hs ▸ List.mem_cons_self) hm
        · exact ih (hs ▸ List.mem_cons_of_mem _ h)

theorem segments_append (a b : List UInt8) :
    segments (a ++ slash :: b) = segments a ++ segments b := by
  induction a with
  | nil => rfl
  | cons c a ih =>
    rw [List.cons_append, segments, segments, ih]
    by_cases hc : (c == slash) = true
    · rw [if_pos hc, if_pos hc, List.cons_append]
    · rw [if_neg hc, if_neg hc]
      cases hs : segments a with
      | nil => exact absurd hs (segments_ne_nil a)
      | cons s ss => rfl

theorem segments_of_no_slash (hn : slash ∉ name) : segments name = [name] := by
  induction name with
  | nil => rfl
  | cons b name ih =>
    have hb : (b == slash) = false := by
      apply beq_false_of_ne
      intro heq
      apply hn
      rw [heq]
      exact List.mem_cons_self
    rw [segments, hb, ih fun hm => hn (List.mem_cons_of_mem _ hm)]
    rfl

def below (names : List (List UInt8)) : List UInt8 := names.flatMap fun name => slash :: name

theorem below_ne_nil (hne : names ≠ []) : below names ≠ [] := by
  obtain ⟨name, rest, rfl⟩ := List.exists_cons_of_ne_nil hne
  exact List.cons_ne_nil _ _

theorem segments_below (hne : names ≠ []) (hn : ∀ name ∈ names, slash ∉ name) :
    segments (below names) = [] :: names := by
  induction names with
  | nil => exact absurd rfl hne
  | cons name names ih =>
    have hname : segments name = [name] := segments_of_no_slash (hn name List.mem_cons_self)
    have hsplit : segments (below (name :: names)) = [] :: segments (name ++ below names) := rfl
    rw [hsplit]
    cases names with
    | nil => rw [below, List.flatMap_nil, List.append_nil, hname]
    | cons next names =>
      have ih := ih (List.cons_ne_nil _ _) fun x hx => hn x (List.mem_cons_of_mem _ hx)
      have hnext : below (next :: names) = slash :: (next ++ below names) := rfl
      rw [hnext, segments_append, hname]
      exact congrArg ([] :: name :: ·) (List.cons.inj ih).2

theorem innerComponents_cons (s : List UInt8) (ss : List (List UInt8)) :
    ((s = [] ∨ s = [dot]) ∧ innerComponents (s :: ss) = innerComponents ss) ∨
      (s = [dot, dot] ∧ innerComponents (s :: ss) = .up :: innerComponents ss) ∨
      (s ≠ [] ∧ s ≠ [dot] ∧ s ≠ [dot, dot] ∧
        innerComponents (s :: ss) = .named s :: innerComponents ss) := by
  by_cases h : (s.isEmpty || s == [dot]) = true
  · exact .inl ⟨by simpa using h, by rw [innerComponents, if_pos h]⟩
  by_cases h' : (s == [dot, dot]) = true
  · exact .inr (.inl ⟨by simpa using h', by rw [innerComponents, if_neg h, if_pos h']⟩)
  have hs : s ≠ [] ∧ s ≠ [dot] := by simpa using h
  exact .inr (.inr ⟨hs.1, hs.2, by simpa using h', by rw [innerComponents, if_neg h, if_neg h']⟩)

theorem innerComponents_append (ss ts : List (List UInt8)) :
    innerComponents (ss ++ ts) = innerComponents ss ++ innerComponents ts := by
  induction ss with
  | nil => rfl
  | cons s ss ih =>
    simp only [List.cons_append, innerComponents, ih]
    split
    · rfl
    · split <;> rfl

theorem innerComponents_names (hn : ∀ name ∈ names, IsName name) :
    innerComponents names = names.map .named := by
  induction names with
  | nil => rfl
  | cons name names ih =>
    have ih := ih fun x hx => hn x (List.mem_cons_of_mem _ hx)
    obtain ⟨h1, _, h3, h4⟩ := hn name List.mem_cons_self
    obtain ⟨h | h, _⟩ | ⟨h, _⟩ | ⟨_, _, _, heq⟩ := innerComponents_cons name names
    · exact absurd h h1
    · exact absurd h h3
    · exact absurd h h4
    · rw [heq, ih]
      rfl

theorem innerComponents_bytes (ss : List (List UInt8)) :
    innerComponents ((innerComponents ss).map Component.bytes) = innerComponents ss := by
  induction ss with
  | nil => rfl
  | cons s ss ih =>
    obtain ⟨_, heq⟩ | ⟨_, heq⟩ | ⟨h1, h2, h3, heq⟩ := innerComponents_cons s ss
    · rw [heq, ih]
    · rw [heq]
      exact congrArg (Component.up :: ·) ih
    · rw [heq, List.map_cons]
      obtain ⟨h | h, _⟩ | ⟨h, _⟩ | ⟨_, _, _, heq'⟩ :=
        innerComponents_cons s ((innerComponents ss).map Component.bytes)
      · exact absurd h h1
      · exact absurd h h2
      · exact absurd h h3
      · exact heq'.trans (congrArg (Component.named s :: ·) ih)

theorem mem_innerComponents {ss : List (List UInt8)} (hs : ∀ s ∈ ss, slash ∉ s) {c : Component}
    (hc : c ∈ innerComponents ss) : c = .up ∨ ∃ name, IsName name ∧ c = .named name := by
  induction ss with
  | nil => cases hc
  | cons s ss ih =>
    have ih := ih fun x hx => hs x (List.mem_cons_of_mem _ hx)
    obtain ⟨_, heq⟩ | ⟨_, heq⟩ | ⟨h1, h2, h3, heq⟩ := innerComponents_cons s ss
    · exact ih (heq ▸ hc)
    · rw [heq] at hc
      obtain rfl | hc := List.mem_cons.1 hc
      · exact .inl rfl
      · exact ih hc
    · rw [heq] at hc
      obtain rfl | hc := List.mem_cons.1 hc
      · exact .inr ⟨s, ⟨h1, hs s List.mem_cons_self, h2, h3⟩, rfl⟩
      · exact ih hc

theorem not_up_of_names {ss : List (List UInt8)} (hs : ∀ s ∈ ss, s = [] ∨ IsName s) :
    .up ∉ innerComponents ss := by
  induction ss with
  | nil => exact nofun
  | cons s ss ih =>
    obtain ⟨hhead, htail⟩ := List.forall_mem_cons.1 hs
    obtain ⟨_, heq⟩ | ⟨rfl, _⟩ | ⟨_, _, _, heq⟩ := innerComponents_cons s ss
    · rw [heq]
      exact ih htail
    · obtain h | hname := hhead
      · cases h
      · exact absurd rfl hname.not_dots
    · rw [heq]
      intro hm
      obtain hm | hm := List.mem_cons.1 hm
      · cases hm
      · exact ih htail hm

theorem components_of_segments {bytes : List UInt8} {ss : List (List UInt8)}
    (hs : segments (slash :: bytes) = [] :: ss) :
    (⟨slash :: bytes⟩ : Path).components = .root :: innerComponents ss := by
  unfold components
  simp only [hs]
  rfl

theorem components_slash (bytes : List UInt8) :
    (⟨slash :: bytes⟩ : Path).components = .root :: innerComponents (segments bytes) :=
  components_of_segments rfl

theorem components_append {a : List UInt8} (ha : a ≠ []) (b : List UInt8) :
    (⟨a ++ slash :: b⟩ : Path).components =
      (⟨a⟩ : Path).components ++ innerComponents (segments b) := by
  obtain ⟨c, a, rfl⟩ := List.exists_cons_of_ne_nil ha
  have habsolute : (⟨c :: a ++ slash :: b⟩ : Path).isAbsolute = (⟨c :: a⟩ : Path).isAbsolute := rfl
  unfold components
  rw [habsolute, segments_append]
  cases hs : segments (c :: a) with
  | nil => exact absurd hs (segments_ne_nil _)
  | cons s ss =>
    have hinner := innerComponents_append (s :: ss) (segments b)
    rw [List.cons_append] at hinner ⊢
    simp only [innerComponents_append ss, hinner]
    cases (⟨c :: a⟩ : Path).isAbsolute
    · split <;> split <;> rfl
    · split <;> split <;> rfl

theorem components_below (hne : names ≠ []) (hn : ∀ name ∈ names, slash ∉ name) :
    (⟨below names⟩ : Path).components = .root :: innerComponents names := by
  obtain ⟨name, rest, rfl⟩ := List.exists_cons_of_ne_nil hne
  exact components_of_segments (segments_below hne hn)

theorem exists_names {cs : List Component} (h : ∀ c ∈ cs, ∃ name, IsName name ∧ c = .named name) :
    ∃ names : List (List UInt8), (∀ name ∈ names, IsName name) ∧ cs = names.map .named := by
  induction cs with
  | nil => exact ⟨[], nofun, rfl⟩
  | cons c cs ih =>
    obtain ⟨hc, hcs⟩ := List.forall_mem_cons.1 h
    obtain ⟨name, hname, rfl⟩ := hc
    obtain ⟨names, hn, rfl⟩ := ih hcs
    exact ⟨name :: names, List.forall_mem_cons.2 ⟨hname, hn⟩, rfl⟩

theorem eq_slash_cons (ha : p.isAbsolute = true) : ∃ bytes, p = ⟨slash :: bytes⟩ := by
  obtain ⟨bytes⟩ := p
  cases bytes with
  | nil => cases ha
  | cons b bytes =>
    have hb : b = slash := by simpa [isAbsolute] using ha
    rw [hb]
    exact ⟨bytes, rfl⟩

theorem components_eq_root (ha : p.isAbsolute = true) :
    ∃ cs, p.components = .root :: cs ∧ innerComponents (cs.map Component.bytes) = cs ∧
      ∀ c ∈ cs, c = .up ∨ ∃ name, IsName name ∧ c = .named name := by
  obtain ⟨bytes, rfl⟩ := eq_slash_cons ha
  exact ⟨_, components_slash bytes, innerComponents_bytes _,
    fun c hc => mem_innerComponents (fun s hs => no_slash_of_mem_segments hs) hc⟩

/-- Only an absolute path has the root among its components, and has it first. -/
theorem isAbsolute_iff : p.isAbsolute = true ↔ ∃ cs, p.components = .root :: cs := by
  constructor
  · intro ha
    obtain ⟨cs, hc, -⟩ := components_eq_root ha
    exact ⟨cs, hc⟩
  · rintro ⟨cs, hc⟩
    have hroot (ss : List (List UInt8)) (hs : ∀ s ∈ ss, slash ∉ s) :
        innerComponents ss ≠ .root :: cs := by
      intro heq
      obtain h | ⟨name, _, h⟩ := mem_innerComponents hs (heq ▸ List.mem_cons_self)
      · cases h
      · cases h
    apply eq_true_of_ne_false
    intro ha
    unfold components at hc
    split at hc
    · cases hc
    · rename_i s ss heq
      have hs (x : List UInt8) (hx : x ∈ s :: ss) : slash ∉ x :=
        no_slash_of_mem_segments (heq ▸ hx)
      have hss (x : List UInt8) (hx : x ∈ ss) : slash ∉ x := hs x (List.mem_cons_of_mem _ hx)
      split at hc
      · rw [ha] at hc
        exact hroot ss hss hc
      · split at hc
        · cases hc
        · exact hroot (s :: ss) hs hc

theorem isAbsolute_congr {q : Path} (h : p.components = q.components) :
    p.isAbsolute = q.isAbsolute :=
  Bool.eq_iff_iff.2 (by rw [isAbsolute_iff, isAbsolute_iff, h])

theorem components_eq_names (ha : p.isAbsolute = true) (hup : .up ∉ p.components) :
    ∃ names : List (List UInt8), (∀ name ∈ names, IsName name) ∧
      p.components = .root :: names.map .named := by
  obtain ⟨cs, hc, -, hcs⟩ := components_eq_root ha
  rw [hc] at hup ⊢
  obtain ⟨names, hn, rfl⟩ := exists_names fun c hm => (hcs c hm).resolve_left fun heq =>
    hup (List.mem_cons_of_mem _ (heq ▸ hm))
  exact ⟨names, hn, rfl⟩

theorem names_eq (h : p.components = .root :: names.map .named) : p.names = names := by
  unfold Path.names
  rw [h, List.foldl_cons, List.foldl_map]
  exact List.foldl_append_eq_append.trans (List.flatMap_singleton' names)

/-- Absolute paths without `..` have the same components if they have the same names. -/
theorem components_congr {q : Path} (hp : p.isAbsolute = true) (hq : q.isAbsolute = true)
    (hup : .up ∉ p.components) (hup' : .up ∉ q.components) (h : p.names = q.names) :
    p.components = q.components := by
  obtain ⟨names, -, hnames⟩ := components_eq_names hp hup
  obtain ⟨names', -, hnames'⟩ := components_eq_names hq hup'
  rw [names_eq hnames, names_eq hnames'] at h
  rw [hnames, hnames', h]

def between (names : List (List UInt8)) : List UInt8 := [slash].intercalate names

theorem below_eq (hne : names ≠ []) : below names = slash :: between names := by
  induction names with
  | nil => exact absurd rfl hne
  | cons name names ih =>
    have hcons : below (name :: names) = slash :: (name ++ below names) := rfl
    rw [hcons]
    cases names with
    | nil => simp [below, between]
    | cons next names =>
      rw [ih (List.cons_ne_nil _ _), between, between, List.intercalate_cons_cons,
        List.append_assoc,
        List.singleton_append]

theorem segments_between (hne : names ≠ []) (hn : ∀ name ∈ names, slash ∉ name) :
    segments (between names) = names := by
  have hsegments := segments_below hne hn
  rw [below_eq hne] at hsegments
  exact (List.cons.inj hsegments).2

theorem innerComponents_between (hn : ∀ name ∈ names, IsName name) :
    innerComponents (segments (between names)) = names.map .named := by
  by_cases hne : names = []
  · rw [hne]
    rfl
  · rw [segments_between hne fun name hm => (hn name hm).no_slash, innerComponents_names hn]

theorem between_not_absolute (hn : ∀ name ∈ names, IsName name) :
    (⟨between names⟩ : Path).isAbsolute = false := by
  by_cases hne : names = []
  · rw [hne]
    rfl
  · apply eq_false_of_ne_true
    intro ha
    obtain ⟨bytes, hb⟩ := eq_slash_cons ha
    have hbytes : between names = slash :: bytes := congrArg Path.bytes hb
    have hsegments := segments_between hne fun name hm => (hn name hm).no_slash
    rw [hbytes] at hsegments
    have hempty : [] ∈ names := hsegments ▸ List.mem_cons_self
    exact (hn [] hempty).nonempty rfl

theorem components_separated {a : List UInt8} (hlast : a.getLast? = some slash) (b : List UInt8) :
    (⟨a ++ b⟩ : Path).components = (⟨a⟩ : Path).components ++ innerComponents (segments b) := by
  obtain ⟨a, rfl⟩ := List.getLast?_eq_some_iff.1 hlast
  rw [List.append_assoc, List.singleton_append]
  by_cases ha : a = []
  · subst ha
    exact components_slash b
  · have hend : (⟨a ++ [slash]⟩ : Path).components = (⟨a⟩ : Path).components :=
      (components_append ha []).trans (List.append_nil _)
    rw [components_append ha, hend]

theorem components_join {dir file : Path} (hdir : dir.isAbsolute = true)
    (hfile : file.isAbsolute = false) :
    (dir.join file).components = dir.components ++ innerComponents (segments file.bytes) := by
  obtain ⟨bytes, rfl⟩ := eq_slash_cons hdir
  unfold join
  rw [hfile, if_neg Bool.false_ne_true]
  split
  · rename_i h
    have hlast : (slash :: bytes).getLast? = some slash := by simpa using h
    exact components_separated hlast file.bytes
  · exact components_append (List.cons_ne_nil _ _) file.bytes

theorem isAbsolute_join {dir : Path} (hdir : dir.isAbsolute = true) (file : Path) :
    (dir.join file).isAbsolute = true := by
  cases hfile : file.isAbsolute with
  | true =>
    unfold join
    rw [if_pos hfile, hfile]
  | false =>
    obtain ⟨cs, hcs⟩ := isAbsolute_iff.1 hdir
    exact isAbsolute_iff.2 ⟨_, by rw [components_join hdir hfile, hcs, List.cons_append]⟩

section Prefix

variable {α : Type} [DecidableEq α] {xs ys zs : List α}

theorem afterPrefix?_eq_some : afterPrefix? xs ys = some zs ↔ ys = xs ++ zs := by
  fun_induction afterPrefix? xs ys with
  | case1 ys => rw [Option.some_inj, List.nil_append]
  | case2 x xs ys ih => rw [ih, List.cons_append, List.cons_inj_right]
  | case3 x xs y ys hne => exact iff_of_false nofun fun h => hne (List.cons.inj h).1.symm
  | case4 => exact iff_of_false nofun nofun

end Prefix

theorem startsWith_iff {base : Path} :
    p.startsWith base = true ↔ ∃ cs, p.components = base.components ++ cs := by
  unfold startsWith
  rw [Option.isSome_iff_exists]
  exact exists_congr fun _ => afterPrefix?_eq_some

theorem startsWith_congr {q : Path} (h : p.components = q.components) (base : Path) :
    p.startsWith base = q.startsWith base := by
  unfold startsWith
  rw [h]

theorem relativeName_congr {q base base' : Path} (h : p.components = q.components)
    (hbase : base.components = base'.components) :
    p.relativeName base = q.relativeName base' := by
  unfold relativeName
  rw [h, hbase]

end Path

end Switchyard
