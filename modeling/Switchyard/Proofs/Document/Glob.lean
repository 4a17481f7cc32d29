import Mathlib.Data.List.Basic
import Switchyard.Document.Limit

namespace Switchyard
namespace Glob

inductive Denotes : List Char → List Char → Prop where
  | nil : Denotes [] []
  | top {p t} : Denotes p t → Denotes ('*' :: '*' :: '/' :: p) t
  | inside {p name t} :
      '\n' ∉ name → Denotes p t → Denotes ('*' :: '*' :: '/' :: p) (name ++ '/' :: t)
  | anything {p run t} :
      p.head? ≠ some '/' → '\n' ∉ run → Denotes p t → Denotes ('*' :: '*' :: p) (run ++ t)
  | segment {p run t} :
      p.head? ≠ some '*' → '/' ∉ run → Denotes p t → Denotes ('*' :: p) (run ++ t)
  | one {p c t} : c ≠ '/' → Denotes p t → Denotes ('?' :: p) (c :: t)
  | literal {p c t} : c ≠ '*' → c ≠ '?' → Denotes p t → Denotes (c :: p) (c :: t)

def Takes : GlobPiece → List Char → Prop
  | .directories, run => run = [] ∨ ∃ name, '\n' ∉ name ∧ run = name ++ ['/']
  | .anything, run => '\n' ∉ run
  | .segment, run => '/' ∉ run
  | .one, run => ∃ c, c ≠ '/' ∧ run = [c]
  | .literal c, run => run = [c]

/-- The texts that start with what the piece takes and go on in the language `L`. -/
def Then (piece : GlobPiece) (L : List Char → Prop) (text : List Char) : Prop :=
  ∃ run rest, text = run ++ rest ∧ Takes piece run ∧ L rest

def Matches : Glob → List Char → Prop
  | [] => (· = [])
  | piece :: g => Then piece (Matches g)

theorem then_directories {L : List Char → Prop} {t : List Char} :
    Then .directories L t ↔
      L t ∨ ∃ name rest, t = name ++ '/' :: rest ∧ '\n' ∉ name ∧ L rest := by
  constructor
  · rintro ⟨run, rest, rfl, rfl | ⟨name, hn, rfl⟩, h⟩
    · exact .inl h
    · exact .inr ⟨name, rest, by simp, hn, h⟩
  · rintro (h | ⟨name, rest, rfl, hn, h⟩)
    · exact ⟨[], t, rfl, .inl rfl, h⟩
    · exact ⟨name ++ ['/'], rest, by simp, .inr ⟨name, hn, rfl⟩, h⟩

theorem then_one {L : List Char → Prop} {t : List Char} :
    Then .one L t ↔ ∃ c rest, t = c :: rest ∧ c ≠ '/' ∧ L rest := by
  constructor
  · rintro ⟨_, rest, rfl, ⟨c, hc, rfl⟩, h⟩
    exact ⟨c, rest, rfl, hc, h⟩
  · rintro ⟨c, rest, rfl, hc, h⟩
    exact ⟨[c], rest, rfl, ⟨c, hc, rfl⟩, h⟩

theorem then_literal {L : List Char → Prop} {d : Char} {t : List Char} :
    Then (.literal d) L t ↔ ∃ rest, t = d :: rest ∧ L rest := by
  constructor
  · rintro ⟨_, rest, rfl, rfl, h⟩
    exact ⟨rest, rfl, h⟩
  · rintro ⟨rest, rfl, h⟩
    exact ⟨[d], rest, rfl, rfl, h⟩

/-- The marks tell, for each suffix of the text, whether it is in the language. -/
inductive Marks (L : List Char → Prop) : List Char → List Bool → Prop where
  | nil {m} : (m = true ↔ L []) → Marks L [] [m]
  | cons {c t m ms} : (m = true ↔ L (c :: t)) → Marks L t ms → Marks L (c :: t) (m :: ms)

variable {L L' : List Char → Prop} {t : List Char} {ms ms' : List Bool} {f : Char → Bool}

theorem Marks.head (h : Marks L t ms) : ms.headD false = true ↔ L t := by
  cases h with
  | nil hm => exact hm
  | cons hm _ => exact hm

theorem Marks.congr (h : Marks L t ms) (hL : ∀ t, L t ↔ L' t) : Marks L' t ms := by
  induction h with
  | nil hm => exact .nil (hm.trans (hL _))
  | cons hm _ ih => exact .cons (hm.trans (hL _)) ih

theorem Marks.or (h : Marks L t ms) (h' : Marks L' t ms') :
    Marks (fun t => L t ∨ L' t) t (List.zipWith (· || ·) ms ms') := by
  induction h generalizing ms' with
  | nil hm =>
    cases h' with
    | nil hm' => exact .nil (by simp [hm, hm'])
  | cons hm _ ih =>
    cases h' with
    | cons hm' h' => exact .cons (by simp [hm, hm']) (ih h')

theorem marks_endMatches (t : List Char) : Marks (· = []) t (endMatches t) := by
  induction t with
  | nil => exact .nil (by simp)
  | cons c t ih => exact .cons (by simp) ih

theorem Marks.oneChar (h : Marks L t ms) :
    Marks (fun t => ∃ c rest, t = c :: rest ∧ f c = true ∧ L rest) t (oneChar f t ms) := by
  induction h with
  | nil _ => exact .nil (by simp)
  | cons _ ht ih =>
    refine .cons ?_ ih
    rw [Bool.and_eq_true, ht.head]
    simp

theorem Marks.manyChars (h : Marks L t ms) :
    Marks (fun t => ∃ run rest, t = run ++ rest ∧ (∀ c ∈ run, f c = true) ∧ L rest) t
      (manyChars f t ms) := by
  induction h with
  | nil hm => exact .nil (by simp [hm])
  | cons hm _ ih =>
    refine .cons ?_ ih
    rw [Bool.or_eq_true, Bool.and_eq_true, ih.head, hm]
    constructor
    · rintro (h | ⟨hc, run, rest, rfl, hrun, h⟩)
      · exact ⟨[], _, rfl, by simp, h⟩
      · exact ⟨_ :: run, rest, rfl, List.forall_mem_cons.2 ⟨hc, hrun⟩, h⟩
    · rintro ⟨_ | ⟨d, run⟩, rest, heq, hrun, h⟩
      · subst heq
        exact .inl h
      · obtain ⟨rfl, rfl⟩ := List.cons.inj heq
        obtain ⟨hc, hrun⟩ := List.forall_mem_cons.1 hrun
        exact .inr ⟨hc, run, rest, rfl, hrun, h⟩

theorem Marks.throughSlash (h : Marks L t ms) :
    Marks (fun t => ∃ name rest, t = name ++ '/' :: rest ∧ '\n' ∉ name ∧ L rest) t
      (throughSlash t ms) := by
  induction h with
  | nil _ => exact .nil (by simp)
  | cons _ ht ih =>
    refine .cons ?_ ih
    rw [Bool.and_eq_true, Bool.or_eq_true, Bool.and_eq_true, ih.head, ht.head, bne_iff_ne,
      beq_iff_eq]
    constructor
    · rintro ⟨hc, ⟨rfl, h⟩ | ⟨name, rest, rfl, hn, h⟩⟩
      · exact ⟨[], _, rfl, by simp, h⟩
      · exact ⟨_ :: name, rest, rfl, by simp [hn, Ne.symm hc], h⟩
    · rintro ⟨_ | ⟨d, name⟩, rest, heq, hn, h⟩
      · obtain ⟨rfl, rfl⟩ := List.cons.inj heq
        exact ⟨by decide, .inl ⟨rfl, h⟩⟩
      · obtain ⟨rfl, rfl⟩ := List.cons.inj heq
        rw [List.mem_cons, not_or] at hn
        exact ⟨Ne.symm hn.1, .inr ⟨name, rest, rfl, hn.2, h⟩⟩

theorem forall_ne_iff {d : Char} {run : List Char} :
    (∀ c ∈ run, (c != d) = true) ↔ d ∉ run := by
  simp only [bne_iff_ne]
  exact List.forall_mem_ne'

/-- One piece: the marks of what follows it become the marks of the piece and what follows. -/
theorem Marks.piece (h : Marks L t ms) (piece : GlobPiece) :
    Marks (Then piece L) t (pieceMatches t ms piece) := by
  cases piece with
  | directories => exact (h.or h.throughSlash).congr fun _ => then_directories.symm
  | anything => exact h.manyChars.congr fun t => by simp only [Then, Takes, forall_ne_iff]
  | segment => exact h.manyChars.congr fun t => by simp only [Then, Takes, forall_ne_iff]
  | one => exact h.oneChar.congr fun t => by simp [then_one]
  | literal d => exact h.oneChar.congr fun t => by simp [then_literal]

theorem marks_suffixMatches (g : Glob) (t : List Char) :
    Marks (Matches g) t (suffixMatches t g) := by
  induction g with
  | nil => exact marks_endMatches t
  | cons piece g ih => exact ih.piece piece

theorem isMatch_iff (g : Glob) (t : List Char) : g.isMatch t = true ↔ Matches g t :=
  (marks_suffixMatches g t).head

theorem denotes_nil {t : List Char} : Denotes [] t ↔ t = [] := by
  constructor
  · intro h
    cases h
    rfl
  · rintro rfl
    exact .nil

theorem denotes_directories {p t : List Char} :
    Denotes ('*' :: '*' :: '/' :: p) t ↔ Then .directories (Denotes p) t := by
  rw [then_directories]
  constructor
  · intro h
    cases h with
    | top h => exact .inl h
    | inside hn h => exact .inr ⟨_, _, rfl, hn, h⟩
    | anything hp _ _ => exact absurd rfl hp
    | segment hp _ _ => exact absurd rfl hp
    | literal hc _ _ => exact absurd rfl hc
  · rintro (h | ⟨name, rest, rfl, hn, h⟩)
    · exact .top h
    · exact .inside hn h

theorem denotes_anything {p t : List Char} (hp : p.head? ≠ some '/') :
    Denotes ('*' :: '*' :: p) t ↔ Then .anything (Denotes p) t := by
  constructor
  · intro h
    cases h with
    | top h => exact absurd rfl hp
    | inside hn h => exact absurd rfl hp
    | anything _ hr h => exact ⟨_, _, rfl, hr, h⟩
    | segment hp _ _ => exact absurd rfl hp
    | literal hc _ _ => exact absurd rfl hc
  · rintro ⟨run, rest, rfl, hr, h⟩
    exact .anything hp hr h

theorem denotes_segment {p t : List Char} (hp : p.head? ≠ some '*') :
    Denotes ('*' :: p) t ↔ Then .segment (Denotes p) t := by
  constructor
  · intro h
    cases h with
    | top h => exact absurd rfl hp
    | inside hn h => exact absurd rfl hp
    | anything _ _ _ => exact absurd rfl hp
    | segment _ hr h => exact ⟨_, _, rfl, hr, h⟩
    | literal hc _ _ => exact absurd rfl hc
  · rintro ⟨run, rest, rfl, hr, h⟩
    exact .segment hp hr h

theorem denotes_one {p t : List Char} :
    Denotes ('?' :: p) t ↔ Then .one (Denotes p) t := by
  rw [then_one]
  constructor
  · intro h
    cases h with
    | one hc h => exact ⟨_, _, rfl, hc, h⟩
    | literal _ hc _ => exact absurd rfl hc
  · rintro ⟨c, rest, rfl, hc, h⟩
    exact .one hc h

theorem denotes_literal {p t : List Char} {c : Char} (hs : c ≠ '*') (hq : c ≠ '?') :
    Denotes (c :: p) t ↔ Then (.literal c) (Denotes p) t := by
  rw [then_literal]
  constructor
  · intro h
    cases h with
    | literal _ _ h => exact ⟨_, rfl, h⟩
    | _ => contradiction
  · rintro ⟨rest, rfl, h⟩
    exact .literal hs hq h

theorem then_congr {piece : GlobPiece} (hL : ∀ t, L t ↔ L' t) :
    Then piece L t ↔ Then piece L' t := by
  simp only [Then, hL]

theorem head?_ne_some {p : List Char} {c : Char} (h : ∀ q, p = c :: q → False) :
    p.head? ≠ some c := by
  intro hc
  obtain ⟨q, rfl⟩ := List.head?_eq_some_iff.1 hc
  exact h q rfl

/-- Reading a pattern into pieces keeps its language; the cases are the parser's. -/
theorem denotes_iff_matches (p t : List Char) : Denotes p t ↔ Matches (parse p) t := by
  induction p using parse.induct generalizing t with
  | case1 p ih => exact denotes_directories.trans (then_congr ih)
  | case2 p hp ih =>
    rw [parse.eq_2 p hp]
    exact (denotes_anything (head?_ne_some hp)).trans (then_congr ih)
  | case3 p hp hs ih =>
    rw [parse.eq_3 p hp hs]
    exact (denotes_segment (head?_ne_some hs)).trans (then_congr ih)
  | case4 p ih => exact denotes_one.trans (then_congr ih)
  | case5 c p hd ha hs hq ih =>
    rw [parse.eq_5 c p hd ha hs hq]
    exact (denotes_literal hs hq).trans (then_congr ih)
  | case6 => exact denotes_nil

def width : GlobPiece → Nat
  | .directories => 3
  | .anything => 2
  | .segment | .one | .literal _ => 1

theorem total_width_parse (p : List Char) : Natural.total ((parse p).map width) = p.length := by
  induction p using parse.induct with
  | case1 p ih =>
    change 3 + Natural.total ((parse p).map width) = _
    rw [ih, Nat.add_comm]
    rfl
  | case2 p hp ih =>
    rw [parse.eq_2 p hp]
    change 2 + Natural.total ((parse p).map width) = _
    rw [ih, Nat.add_comm]
    rfl
  | case3 p hp hs ih =>
    rw [parse.eq_3 p hp hs]
    exact (congrArg (1 + ·) ih).trans (Nat.add_comm _ _)
  | case4 p ih => exact (congrArg (1 + ·) ih).trans (Nat.add_comm _ _)
  | case5 c p hd ha hs hq ih =>
    rw [parse.eq_5 c p hd ha hs hq]
    exact (congrArg (1 + ·) ih).trans (Nat.add_comm _ _)
  | case6 => rfl

/-- A single star, read backwards, takes the most room for a character of a pattern. -/
theorem pieceRoom_le (d : Direction) (piece : GlobPiece) :
    pieceRoom d piece ≤ othersRoom .backward * width piece := by
  cases piece with
  | literal c =>
    have hc : c.utf8Size ≤ 4 := c.utf8Size_le_four
    change 32 * c.utf8Size ≤ 1040 * 1
    omega
  | _ => cases d <;> decide

theorem total_pieceRoom_le (d : Direction) (g : Glob) :
    Natural.total (g.map (pieceRoom d)) ≤ othersRoom .backward * Natural.total (g.map width) := by
  induction g with
  | nil => exact Nat.le_refl 0
  | cons piece g ih =>
    calc pieceRoom d piece + Natural.total (g.map (pieceRoom d))
      _ ≤ othersRoom .backward * width piece
          + othersRoom .backward * Natural.total (g.map width) :=
        Nat.add_le_add (pieceRoom_le d piece) ih
      _ = othersRoom .backward * (width piece + Natural.total (g.map width)) :=
        (Nat.mul_add _ _ _).symm

theorem room_parse_le (d : Direction) (p : List Char) :
    room d (parse p) ≤ frameRoom d + othersRoom .backward * p.length := by
  rw [← total_width_parse]
  exact Nat.add_le_add_left (total_pieceRoom_le d _) _

theorem fits_parse {p : List Char} (h : p.length ≤ 10000) : fits (parse p) = true := by
  have hf := room_parse_le .forward p
  have hb := room_parse_le .backward p
  simp only [frameRoom, othersRoom, otherRoom, IgnorePattern.stateRoom] at hf hb
  exact Bool.and_eq_true_iff.2
    ⟨decide_eq_true (by omega : _ ≤ 10485760), decide_eq_true (by omega : _ ≤ 10485760)⟩

/-- A pattern that can be compiled matches exactly the texts that it stands for, and every pattern
of up to ten thousand characters can be. -/
theorem compile?_exact (pattern : String) :
    (∀ g, compile? pattern = some g →
      ∀ text : String, g.isMatch text.toList = true ↔ Denotes pattern.toList text.toList)
    ∧ (pattern.length ≤ 10000 → ∃ g, compile? pattern = some g) := by
  constructor
  · intro g hg text
    obtain ⟨-, hg⟩ := Option.ite_none_right_eq_some.1 hg
    cases hg
    rw [isMatch_iff, denotes_iff_matches]
    rfl
  · intro hl
    rw [← String.length_toList] at hl
    exact ⟨ofString pattern, if_pos (fits_parse hl)⟩

theorem compile?_exact_scripts :
    compile? "**/*.ts" = some [.directories, .segment, .literal '.', .literal 't', .literal 's']
    ∧ (isMatch [.directories, .segment, .literal '.', .literal 't', .literal 's'] "src/a.ts".toList
        = true ↔ Denotes "**/*.ts".toList "src/a.ts".toList)
    ∧ ∃ g, compile? "**/*.ts" = some g := by
  have hg : compile? "**/*.ts"
      = some [.directories, .segment, .literal '.', .literal 't', .literal 's'] := by
    decide +kernel
  exact ⟨hg, (compile?_exact "**/*.ts").1 _ hg "src/a.ts",
    (compile?_exact "**/*.ts").2 (by decide +kernel)⟩

theorem parse_replicate_one (n : Nat) :
    parse (List.replicate n '?') = List.replicate n .one := by
  induction n with
  | zero => rfl
  | succ n ih => exact congrArg (GlobPiece.one :: ·) ih

theorem denotes_replicate_one {c : Char} (hc : c ≠ '/') (n : Nat) :
    Denotes (List.replicate n '?') (List.replicate n c) := by
  induction n with
  | zero => exact .nil
  | succ n ih => exact .one hc ih

theorem room_replicate_one (d : Direction) (n : Nat) :
    room d (List.replicate n .one) = frameRoom d + n * otherRoom d := by
  induction n with
  | zero => simp [room, Natural.total]
  | succ n ih =>
    simp only [room, List.replicate_succ, List.map_cons, Natural.total, List.foldr_cons, pieceRoom,
      Nat.succ_mul] at ih ⊢
    omega

theorem fits_replicate_one (n : Nat) : fits (List.replicate n .one) = true ↔ n ≤ 10485 := by
  rw [fits, room_replicate_one, room_replicate_one, Bool.and_eq_true, decide_eq_true_iff,
    decide_eq_true_iff]
  simp only [frameRoom, otherRoom, IgnorePattern.stateRoom, IgnorePattern.maxRoom]
  omega

theorem compile?_replicate_one {n : Nat} (hn : 10485 < n) :
    compile? (String.ofList (List.replicate n '?')) = none := by
  refine if_neg ?_
  rw [ofString, String.toList_ofList, parse_replicate_one, fits_replicate_one]
  exact Nat.not_le_of_lt hn

/-- So many question marks stand for as many letters, but take too much room. -/
theorem denoted_not_compiled :
    Denotes (String.ofList (List.replicate 40000 '?')).toList
        (String.ofList (List.replicate 40000 'a')).toList
    ∧ compile? (String.ofList (List.replicate 40000 '?')) = none := by
  constructor
  · rw [String.toList_ofList, String.toList_ofList]
    exact denotes_replicate_one (by decide) 40000
  · exact compile?_replicate_one (by decide)

end Glob
end Switchyard
