import Mathlib.Data.List.Infix
import Switchyard.Config.Environment

namespace Switchyard

/-- Two characters stand side by side in a text that is put together: in one of its parts, or where
these meet. -/
theorem pair_infix_append {x y : Char} {a b : List Char} :
    [x, y] <:+: a ++ b ↔
      [x, y] <:+: a ∨ [x, y] <:+: b ∨ (a.getLast? = some x ∧ b.head? = some y) := by
  induction a with
  | nil => simp
  | cons z a ih =>
    rw [List.cons_append, List.infix_cons_iff, List.infix_cons_iff, ih]
    cases a with
    | nil =>
      cases b with
      | nil => simp [List.cons_prefix_cons]
      | cons w b => simp [List.cons_prefix_cons, or_comm, @eq_comm _ x, @eq_comm _ y]
    | cons w a => simp [List.cons_prefix_cons, or_assoc]

namespace Environment

variable {env : Environment} {s a b before name rest tail : List Char} {c : Char}

def opener : List Char := ['$', '\x7b']

/-- A reference to a variable, with the text before it. -/
structure Reference where
  before : List Char
  name : List Char

namespace Reference

def written (x : Reference) : List Char := x.before ++ opener ++ x.name ++ ['\x7d']

/-- The reference with the value of its variable in its place; where the variable is not set, or has
no name, there is nothing. -/
def expanded (env : Environment) (x : Reference) : List Char :=
  x.before ++ if x.name = [] then [] else ((env.lookup (String.ofList x.name)).getD "").toList

/-- A reference is opened by the first opener there is, and closed by the first brace after it. -/
structure First (x : Reference) : Prop where
  before : ¬ opener <:+: x.before ++ ['$']
  name : '\x7d' ∉ x.name

end Reference

def Unclosed (s : List Char) : Prop :=
  ∀ before after, s = before ++ '\x7d' :: after → ¬ opener <:+: before

/-- A text is split at its references, from left to right. -/
structure Splits (s : List Char) (references : List Reference) (tail : List Char) : Prop where
  text : s = references.flatMap Reference.written ++ tail
  first : ∀ x ∈ references, x.First
  tail : Unclosed tail

def AllClosed (s : List Char) : Prop :=
  ∃ references tail, Splits s references tail ∧ ¬ opener <:+: tail

def expansion (env : Environment) (references : List Reference) (tail : List Char) : List Char :=
  references.flatMap (Reference.expanded env) ++ tail

theorem splitBrace?_append (h : '\x7d' ∉ name) (rest : List Char) :
    splitBrace? (name ++ '\x7d' :: rest) = some (name, rest) := by
  induction name with
  | nil => rfl
  | cons c name ih =>
    rw [List.mem_cons, not_or] at h
    have hc : (c == '\x7d') = false := beq_false_of_ne (Ne.symm h.1)
    simp [splitBrace?, hc, ih h.2]

theorem splitBrace?_eq_none (h : '\x7d' ∉ s) : splitBrace? s = none := by
  induction s with
  | nil => rfl
  | cons c s ih =>
    rw [List.mem_cons, not_or] at h
    have hc : (c == '\x7d') = false := beq_false_of_ne (Ne.symm h.1)
    simp [splitBrace?, hc, ih h.2]

theorem expand_cons (h : ¬ opener <+: c :: s) (env : Environment) :
    env.expand (c :: s) = c :: env.expand s := by
  rw [expand]
  rintro s' rfl rfl
  exact h ⟨s', rfl⟩

theorem expand_append (h : ¬ opener <:+: before ++ ['$']) (env : Environment) (rest : List Char) :
    env.expand (before ++ '$' :: rest) = before ++ env.expand ('$' :: rest) := by
  induction before with
  | nil => rfl
  | cons c before ih =>
    rw [List.cons_append, List.infix_cons_iff, not_or] at h
    have hc : ¬ opener <+: c :: (before ++ '$' :: rest) := by
      refine fun hp => h.1 ?_
      cases before with
      | nil => simp [opener, List.cons_prefix_cons] at hp
      | cons d before => simpa [opener, List.cons_prefix_cons] using hp
    rw [List.cons_append, expand_cons hc, ih h.2, List.cons_append]

theorem expand_written {x : Reference} (h : x.First) (env : Environment) (rest : List Char) :
    env.expand (x.written ++ rest) = x.expanded env ++ env.expand rest := by
  have hname : env.expand ('$' :: '\x7b' :: (x.name ++ '\x7d' :: rest)) =
      (env.value (String.ofList x.name)).toList ++ env.expand rest := by
    rw [expand]
    split
    · rename_i hn
      rw [splitBrace?_append h.name] at hn
      cases hn
    · rename_i hn
      rw [splitBrace?_append h.name] at hn
      cases hn
      rfl
  have htext : x.written ++ rest = x.before ++ '$' :: '\x7b' :: (x.name ++ '\x7d' :: rest) := by
    simp [Reference.written, opener]
  rw [htext, expand_append h.before, hname, Reference.expanded, List.append_assoc, value]
  by_cases hn : x.name = [] <;> simp [hn]

theorem expand_unclosed (h : Unclosed s) (env : Environment) : env.expand s = s := by
  induction s with
  | nil => rw [expand]
  | cons c s ih =>
    by_cases hp : opener <+: c :: s
    · obtain ⟨after, hs⟩ := hp
      have hn : splitBrace? after = none := by
        refine splitBrace?_eq_none fun hm => ?_
        obtain ⟨name, rest, rfl⟩ := List.append_of_mem hm
        have htext : c :: s = (opener ++ name) ++ '\x7d' :: rest := by rw [← hs, List.append_assoc]
        exact h _ _ htext (List.prefix_append opener name).isInfix
      rw [← hs]
      simp only [opener, List.cons_append, List.nil_append]
      rw [expand]
      split
      · rfl
      · rename_i hn'
        rw [hn] at hn'
        cases hn'
    · rw [expand_cons hp, ih]
      intro before after hs ho
      exact h (c :: before) after (congrArg (c :: ·) hs) (List.infix_cons ho)

theorem Splits.expand_eq {references : List Reference} (h : Splits s references tail)
    (env : Environment) : env.expand s = env.expansion references tail := by
  obtain ⟨rfl, hfirst, htail⟩ := h
  induction references with
  | nil => exact expand_unclosed htail env
  | cons x references ih =>
    have hx := hfirst x List.mem_cons_self
    have hrest := ih fun y hy => hfirst y (List.mem_cons_of_mem x hy)
    rw [List.flatMap_cons, List.append_assoc, expand_written hx, hrest]
    simp [expansion]

/-- Two texts are split as they are side by side, unless a reference of the first one is not closed
or one is opened where they meet. -/
theorem Splits.append {references references' : List Reference} {tail' : List Char}
    (ha : Splits a references tail) (ho : ¬ opener <:+: tail)
    (hab : ¬ (a.getLast? = some '$' ∧ b.head? = some '\x7b')) (hb : Splits b references' tail') :
    ∃ references'' tail'', Splits (a ++ b) references'' tail'' ∧
      ∀ env, expansion env references'' tail'' =
        expansion env references tail ++ expansion env references' tail' := by
  have hmeet {b' : List Char} (hb' : b'.head? = b.head?) (ho' : ¬ opener <:+: b') :
      ¬ opener <:+: tail ++ b' := by
    intro h
    obtain h | h | ⟨hlast, hhead⟩ := pair_infix_append.1 h
    · exact ho h
    · exact ho' h
    · refine hab ⟨?_, hb' ▸ hhead⟩
      rw [ha.text, List.getLast?_append, hlast, Option.some_or]
  cases references' with
  | nil =>
    obtain ⟨rfl, -, hclosed⟩ := hb
    refine ⟨references, tail ++ b, ⟨?_, ha.first, fun before after hs => ?_⟩, fun env => ?_⟩
    · rw [← List.append_assoc, ← ha.text]
    · obtain ⟨b', rfl, hb'⟩ | ⟨c, hc, -⟩ := List.append_eq_append_iff.1 hs
      · cases b' with
        | nil => rwa [List.append_nil]
        | cons c b' => exact hmeet (by rw [hb']; rfl) (hclosed _ _ hb')
      · exact fun h => ho (hc ▸ h.trans (List.prefix_append before c).isInfix)
    · simp [expansion]
  | cons x references' =>
    have hx := hb.first x List.mem_cons_self
    refine ⟨references ++ ⟨tail ++ x.before, x.name⟩ :: references', tail',
      ⟨?_, fun y hy => ?_, hb.tail⟩, fun env => ?_⟩
    · rw [ha.text, hb.text]
      simp [Reference.written]
    · obtain hy | rfl | hy := by simpa using hy
      · exact ha.first y hy
      · refine ⟨?_, hx.name⟩
        rw [List.append_assoc]
        refine hmeet ?_ hx.before
        rw [hb.text]
        cases hxb : x.before <;> simp [Reference.written, opener, hxb]
      · exact hb.first y (List.mem_cons_of_mem x hy)
    · simp [expansion, Reference.expanded]

theorem unclosed_opener (h : '\x7d' ∉ s) : Unclosed (opener ++ s) := by
  rintro before after hs ho
  have hmem : '\x7d' ∈ opener ++ s := by rw [hs]; simp
  simp [opener, h] at hmem

theorem unclosed_singleton (c : Char) : Unclosed [c] := by
  intro before after hs ho
  have hlength := congrArg List.length hs
  have hopener := ho.length_le
  simp [opener] at hlength hopener
  omega

theorem exists_splits (s : List Char) : ∃ references tail, Splits s references tail := by
  induction hn : s.length using Nat.strong_induction_on generalizing s with
  | h n ih =>
    subst hn
    cases s with
    | nil => exact ⟨[], [], rfl, by simp, fun before after hs => by simp at hs⟩
    | cons c s =>
      by_cases hp : opener <+: c :: s
      · obtain ⟨s', hs⟩ := hp
        rw [← hs] at ih ⊢
        by_cases hb : '\x7d' ∈ s'
        · -- the first brace closes the reference
          obtain ⟨name, rest, rfl, hname⟩ := List.eq_append_cons_of_mem hb
          obtain ⟨references, tail, h⟩ := ih rest.length (by simp; omega) rest rfl
          refine ⟨⟨[], name⟩ :: references, tail, ⟨?_, fun y hy => ?_, h.tail⟩⟩
          · rw [h.text]
            simp [Reference.written]
          · obtain rfl | hy := List.mem_cons.1 hy
            · exact ⟨by simp [opener, List.infix_cons_iff], hname⟩
            · exact h.first y hy
        · exact ⟨[], opener ++ s', rfl, by simp, unclosed_opener hb⟩
      · obtain ⟨references, tail, h⟩ := ih s.length (by simp) s rfl
        have hc : Splits [c] [] [c] := ⟨rfl, by simp, unclosed_singleton c⟩
        have ho : ¬ opener <:+: [c] := fun ho => absurd ho.length_le (by simp [opener])
        have hmeet : ¬ ([c].getLast? = some '$' ∧ s.head? = some '\x7b') := by
          rintro ⟨hc, hs⟩
          obtain ⟨s', rfl⟩ := List.head?_eq_some_iff.1 hs
          exact hp ⟨s', by simpa [opener] using hc.symm⟩
        obtain ⟨references', tail', h', -⟩ := hc.append ho hmeet h
        exact ⟨references', tail', h'⟩

theorem opener_append_inj {before' rest' : List Char} (h : ¬ opener <:+: before ++ ['$'])
    (h' : ¬ opener <:+: before' ++ ['$'])
    (heq : before ++ (opener ++ rest) = before' ++ (opener ++ rest')) : before = before' := by
  -- an opener that begins further on has the other one before it
  have hfirst {b c r r' : List Char} (hb : ¬ opener <:+: (b ++ c) ++ ['$'])
      (hr : opener ++ r = c ++ (opener ++ r')) : c = [] := by
    match c with
    | [] => rfl
    | [_] => simp [opener] at hr
    | x :: y :: c =>
      obtain ⟨rfl, rfl, -⟩ : '$' = x ∧ '\x7b' = y ∧ _ := by simpa [opener] using hr
      exact absurd ⟨b, c ++ ['$'], by simp [opener]⟩ hb
  obtain ⟨c, rfl, hc⟩ | ⟨c, rfl, hc⟩ := List.append_eq_append_iff.1 heq
  · rw [hfirst h' hc, List.append_nil]
  · rw [hfirst h hc, List.append_nil]

theorem Reference.First.written_inj {x y : Reference} {rest' : List Char} (hx : x.First)
    (hy : y.First) (h : x.written ++ rest = y.written ++ rest') : x = y ∧ rest = rest' := by
  have htext (x : Reference) (rest : List Char) :
      x.written ++ rest = x.before ++ (opener ++ (x.name ++ '\x7d' :: rest)) := by
    simp [written]
  rw [htext, htext] at h
  have hbefore := opener_append_inj hx.before hy.before h
  rw [hbefore, List.append_cancel_left_eq, List.append_cancel_left_eq] at h
  have hname : splitBrace? (x.name ++ '\x7d' :: rest) = some (x.name, rest) :=
    splitBrace?_append hx.name rest
  rw [h, splitBrace?_append hy.name, Option.some.injEq, Prod.mk.injEq] at hname
  cases x
  cases y
  simp_all

theorem not_unclosed_written (x : Reference) (rest : List Char) : ¬ Unclosed (x.written ++ rest) :=
  fun h => h (x.before ++ opener ++ x.name) rest (by simp [Reference.written])
    ⟨x.before, x.name, rfl⟩

theorem Splits.unique {references references' : List Reference} {tail' : List Char}
    (h : Splits s references tail) (h' : Splits s references' tail') :
    references = references' ∧ tail = tail' := by
  obtain ⟨rfl, hfirst, htail⟩ := h
  obtain ⟨heq, hfirst', htail'⟩ := h'
  induction references generalizing references' with
  | nil =>
    cases references' with
    | nil => exact ⟨rfl, heq⟩
    | cons y references' =>
      refine absurd htail ?_
      rw [List.flatMap_nil, List.nil_append, List.flatMap_cons, List.append_assoc] at heq
      exact heq ▸ not_unclosed_written y _
  | cons x references ih =>
    cases references' with
    | nil =>
      refine absurd htail' ?_
      rw [List.flatMap_nil, List.nil_append, List.flatMap_cons, List.append_assoc] at heq
      exact heq ▸ not_unclosed_written x _
    | cons y references' =>
      rw [List.flatMap_cons, List.flatMap_cons, List.append_assoc, List.append_assoc] at heq
      obtain ⟨rfl, hrest⟩ := (hfirst x List.mem_cons_self).written_inj
        (hfirst' y List.mem_cons_self) heq
      obtain ⟨rfl, rfl⟩ := ih (fun z hz => hfirst z (List.mem_cons_of_mem x hz)) hrest
        fun z hz => hfirst' z (List.mem_cons_of_mem x hz)
      exact ⟨rfl, rfl⟩

/-- A text is split in one way, and its expansion has the values of the variables in the places of
its references. A value is put in as it stands, whatever it refers to itself; and two texts side by
side expand each for itself, unless a reference of the first one is not closed or one is opened
where they meet. -/
theorem expandString_splits (env : Environment) :
    (∀ s : String, ∃! split : List Reference × List Char, Splits s.toList split.1 split.2) ∧
    (∀ (s : String) (references : List Reference) (tail : List Char),
      Splits s.toList references tail →
      (env.expandString s).toList = expansion env references tail) ∧
    (∀ before name rest : String, ¬ opener <:+: before.toList ++ ['$'] → '\x7d' ∉ name.toList →
      env.expandString (before ++ "$\x7b" ++ name ++ "\x7d" ++ rest) =
        before ++ (if name = "" then "" else (env.lookup name).getD "") ++
          env.expandString rest) ∧
    (∀ a b : String, AllClosed a.toList →
      ¬ (a.toList.getLast? = some '$' ∧ b.toList.head? = some '\x7b') →
      env.expandString (a ++ b) = env.expandString a ++ env.expandString b) := by
  refine ⟨fun s => ?_, fun s references tail h => ?_, fun before name rest hbefore hname => ?_,
    fun a b ha hab => ?_⟩
  · obtain ⟨references, tail, h⟩ := exists_splits s.toList
    refine ⟨(references, tail), h, ?_⟩
    rintro ⟨references', tail'⟩ h'
    obtain ⟨rfl, rfl⟩ := h'.unique h
    rfl
  · rw [expandString, String.toList_ofList, h.expand_eq]
  · have hx : Reference.First ⟨before.toList, name.toList⟩ := ⟨hbefore, hname⟩
    have hexpand := expand_written hx env rest.toList
    rw [← String.toList_inj]
    simp only [expandString, String.toList_append, String.toList_ofList]
    refine Eq.trans ?_ (hexpand.trans ?_)
    · rfl
    · by_cases hn : name = "" <;> simp [Reference.expanded, hn]
  · obtain ⟨references, tail, hsplits, hopen⟩ := ha
    obtain ⟨references', tail', hb⟩ := exists_splits b.toList
    obtain ⟨references'', tail'', hboth, heq⟩ := hsplits.append hopen hab hb
    rw [← String.toList_inj]
    simp only [expandString, String.toList_append, String.toList_ofList]
    rw [hboth.expand_eq, heq, hsplits.expand_eq, hb.expand_eq]

/-- Where the value of a variable refers to another one, the reference stays. -/
theorem expandString_keeps_reference :
    let env : Environment := [("A", "$\x7bB\x7d"), ("B", "x")]
    env.expandString "p:$\x7bA\x7d" = "p:$\x7bB\x7d" ∧
    env.expandString ("p:$\x7bA\x7d" ++ "$\x7bB\x7d$\x7b") =
      env.expandString "p:$\x7bA\x7d" ++ env.expandString "$\x7bB\x7d$\x7b" := by
  intro env
  obtain ⟨-, hsplits, hvalue, happend⟩ := expandString_splits env
  constructor
  · have h := hvalue "p:" "A" "" (by decide) (by decide)
    have hempty : env.expandString "" = "" := by
      have := hsplits "" [] [] ⟨rfl, by simp, by simp [Unclosed]⟩
      simpa [expansion] using this
    simpa [hempty, env] using h
  · have hclosed : AllClosed "p:$\x7bA\x7d".toList :=
      ⟨[⟨['p', ':'], ['A']⟩], [],
        ⟨rfl, List.forall_mem_singleton.2 ⟨by decide, by decide⟩, by simp [Unclosed]⟩, by decide⟩
    exact happend _ _ hclosed (by decide)

end Environment
end Switchyard
