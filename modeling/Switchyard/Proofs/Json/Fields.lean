import Switchyard.Diagnostic.Basic

namespace Switchyard.Json

variable {α : Type} {decode : Json → Option α} {form : α → Json → Prop} {names : List String}
  {j : Json} {field : Option Json} {default a : α} {o : Option α}

def Exact (decode : Json → Option α) (form : α → Json → Prop) : Prop :=
  ∀ j a, decode j = some a ↔ form a j

def Is (encode : α → Json) (a : α) (j : Json) : Prop := j = encode a

/-- The fields of a record, by their names or by their places; the last places can be missing. -/
inductive Fields (names : List String) : Json → List (Option Json) → Prop where
  | named (members : List (String × Json)) :
    Fields names (.obj members) (names.map fun n => members.lookup n)
  | placed (items : List Json) (missing : Nat) (h : items.length + missing = names.length) :
    Fields names (.arr items) (items.map some ++ List.replicate missing none)

inductive Maybe (form : α → Json → Prop) : Option α → Option Json → Prop where
  | missing : Maybe form none none
  | null : Maybe form none (some .null)
  | given {a : α} {j : Json} (h : form a j) : Maybe form (some a) (some j)

/-- The form of a field that has a default; null is no value for it. -/
inductive Defaulted (default : α) (form : α → Json → Prop) : α → Option Json → Prop where
  | missing : Defaulted default form default none
  | given {a : α} {j : Json} (h : form a j) : Defaulted default form a (some j)

theorem int?_eq_some_iff {n : Int} : j.int? = some n ↔ j = .int n := by
  unfold int? int
  split <;> simp_all

theorem natural_eq_some_iff (limit n : Nat) :
    (match j.int? with
      | some n => if 0 ≤ n && n < (limit : Int) then some n.toNat else none
      | none => none) = some n ↔ j = .nat n ∧ n < limit := by
  constructor
  · intro h
    split at h
    · rename_i m hm
      split at h
      · rename_i hb
        cases h
        rw [Bool.and_eq_true, decide_eq_true_iff, decide_eq_true_iff] at hb
        obtain ⟨k, rfl⟩ := Int.eq_ofNat_of_zero_le hb.1
        exact ⟨int?_eq_some_iff.1 hm, by omega⟩
      · cases h
    · cases h
  · rintro ⟨rfl, hn⟩
    have hi : (nat n).int? = some (n : Int) := rfl
    simp [hi, hn]

theorem integer_eq_some_iff (bound : Nat) (n : Int) :
    (match j.int? with
      | some n => if -(bound : Int) ≤ n && n < (bound : Int) then some n else none
      | none => none) = some n ↔ j = .int n ∧ -(bound : Int) ≤ n ∧ n < bound := by
  constructor
  · intro h
    split at h
    · rename_i m hm
      split at h
      · rename_i hb
        cases h
        rw [Bool.and_eq_true, decide_eq_true_iff, decide_eq_true_iff] at hb
        exact ⟨int?_eq_some_iff.1 hm, hb⟩
      · cases h
    · cases h
  · rintro ⟨rfl, hn⟩
    have hi : (int n).int? = some n := rfl
    simp [hi, hn]

theorem u64?_eq_some_iff {n : Nat} : j.u64? = some n ↔ j = .nat n ∧ n < Nat.pow 2 64 :=
  natural_eq_some_iff (Nat.pow 2 64) n

theorem u32?_eq_some_iff {n : Nat} : j.u32? = some n ↔ j = .nat n ∧ n < Nat.pow 2 32 :=
  natural_eq_some_iff (Nat.pow 2 32) n

theorem i32?_eq_some_iff {n : Int} :
    j.i32? = some n ↔ j = .int n ∧ -(Nat.pow 2 31 : Nat) ≤ n ∧ n < (Nat.pow 2 31 : Nat) :=
  integer_eq_some_iff (Nat.pow 2 31) n

theorem i64?_eq_some_iff {n : Int} :
    j.i64? = some n ↔ j = .int n ∧ -(Nat.pow 2 63 : Nat) ≤ n ∧ n < (Nat.pow 2 63 : Nat) :=
  integer_eq_some_iff (Nat.pow 2 63) n

theorem exact_str : Exact str? (Is .str) := by
  intro j s
  cases j <;> simp [str?, Is]

theorem exact_arr : Exact arr? (Is .arr) := by
  intro j items
  cases j <;> simp [arr?, Is]

theorem exact_uint32 : Exact uint32? (Is fun n : UInt32 => .nat n.toNat) := by
  intro j n
  rw [uint32?, Option.map_eq_some_iff]
  constructor
  · rintro ⟨m, hm, rfl⟩
    obtain ⟨rfl, hlt⟩ := u32?_eq_some_iff.1 hm
    rw [Is, UInt32.toNat_ofNat_of_lt' hlt]
  · rintro rfl
    exact ⟨n.toNat, u32?_eq_some_iff.2 ⟨rfl, n.toNat_lt⟩, UInt32.ofNat_toNat⟩

theorem exact_int32 : Exact int32? (Is fun n : Int32 => .int n.toInt) := by
  intro j n
  rw [int32?, Option.map_eq_some_iff]
  constructor
  · rintro ⟨m, hm, rfl⟩
    obtain ⟨rfl, hle, hlt⟩ := i32?_eq_some_iff.1 hm
    rw [Is, Int32.toInt_ofInt_of_le hle hlt]
  · rintro rfl
    exact ⟨n.toInt, i32?_eq_some_iff.2 ⟨rfl, n.le_toInt, n.toInt_lt⟩, Int32.ofInt_toInt n⟩

theorem exact_int64 : Exact int64? (Is fun n : Int64 => .int n.toInt) := by
  intro j n
  rw [int64?, Option.map_eq_some_iff]
  constructor
  · rintro ⟨m, hm, rfl⟩
    obtain ⟨rfl, hle, hlt⟩ := i64?_eq_some_iff.1 hm
    rw [Is, Int64.toInt_ofInt_of_le hle hlt]
  · rintro rfl
    exact ⟨n.toInt, i64?_eq_some_iff.2 ⟨rfl, n.le_toInt, n.toInt_lt⟩, Int64.ofInt_toInt n⟩

theorem fields?_eq_some_iff {fs : List (Option Json)} :
    j.fields? names = some fs ↔ Fields names j fs := by
  constructor
  · intro h
    cases j with
    | obj members =>
      cases h
      exact .named members
    | arr items =>
      rw [fields?] at h
      split at h
      · rename_i hle
        cases h
        exact .placed items _ (Nat.add_sub_of_le hle)
      · cases h
    | null | bool | num | str => cases h
  · intro h
    cases h with
    | named members => rfl
    | placed items missing hlen =>
      rw [fields?, if_pos (by omega), ← hlen, Nat.add_sub_cancel_left]

theorem Fields.length {fs : List (Option Json)} (h : Fields names j fs) :
    fs.length = names.length := by
  cases h with
  | named members => exact List.length_map _
  | placed items missing hlen => simpa using hlen

theorem required?_eq_some_iff (h : Exact decode form) :
    required? decode field = some a ↔ ∃ j, field = some j ∧ form a j := by
  rw [required?, Option.bind_eq_some_iff]
  simp only [h _ _]

theorem optional?_eq_some_iff (h : Exact decode form) (hn : decode .null = none) :
    optional? decode field = some o ↔ Maybe form o field := by
  constructor
  · intro ho
    unfold optional? at ho
    split at ho
    · cases ho
      exact .missing
    · cases ho
      exact .null
    · obtain ⟨a, ha, rfl⟩ := Option.map_eq_some_iff.1 ho
      exact .given ((h _ a).1 ha)
  · intro hm
    cases hm with
    | missing => rfl
    | null => rfl
    | @given a j hf =>
      have ha := (h j a).2 hf
      have hj : j ≠ .null := by
        rintro rfl
        cases hn.symm.trans ha
      rw [optional?, ha]
      · rfl
      · exact hj

theorem optional?_str_eq_some_iff {o : Option String} :
    optional? str? field = some o ↔ Maybe (Is .str) o field :=
  optional?_eq_some_iff exact_str rfl

theorem defaulted?_eq_some_iff (h : Exact decode form) :
    defaulted? default decode field = some a ↔ Defaulted default form a field := by
  cases field with
  | none =>
    constructor
    · intro ha
      cases ha
      exact .missing
    · intro ha
      cases ha
      rfl
  | some j =>
    refine (h j a).trans ⟨.given, fun ha => ?_⟩
    cases ha
    assumption

theorem get?_present (k : String) (members : List (String × Option Json)) :
    (present members).get? k =
      members.foldl (fun found m => (if k = m.1 then m.2 else none).or found) none := by
  rw [present, get?_ofMembers, ← List.filterMap_reverse, ← List.foldr_reverse]
  induction members.reverse with
  | nil => rfl
  | cons m members ih =>
    obtain ⟨key, value⟩ := m
    cases value with
    | none => simp [ih]
    | some value => by_cases hk : k = key <;> simp [lookup_member, hk, ih]

theorem fields_ofMembers (names : List String) (members : List (String × Json)) :
    Fields names (ofMembers members) (names.map fun n => (ofMembers members).get? n) :=
  .named _

theorem fields_present (names : List String) (members : List (String × Option Json)) :
    Fields names (present members) (names.map fun n => (present members).get? n) :=
  .named _

theorem maybe_map {encode : α → Json} (h : ∀ a, form a (encode a)) (o : Option α) :
    Maybe form o (o.map encode) := by
  cases o with
  | none => exact .missing
  | some a => exact .given (h a)

theorem maybe_is (encode : α → Json) (o : Option α) : Maybe (Is encode) o (o.map encode) := by
  have h (a : α) : Is encode a (encode a) := rfl
  exact maybe_map h o

end Switchyard.Json
