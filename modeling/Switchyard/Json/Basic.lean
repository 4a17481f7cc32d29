import Switchyard.Number.Binary64

namespace Switchyard

/-- A number is an integer when it is written as one and fits into 64 bits, else a float. -/
inductive JsonNumber where
  | int (n : Int)
  | float (x : Binary64)
  deriving DecidableEq, Inhabited

inductive Json where
  | null
  | bool (b : Bool)
  | num (n : JsonNumber)
  | str (s : String)
  | arr (items : List Json)
  | obj (members : List (String × Json))
  deriving Inhabited

namespace Json

def insertMember (key : String) (value : Json) : List (String × Json) → List (String × Json)
  | [] => [(key, value)]
  | (k, v) :: rest =>
    if key < k then (key, value) :: (k, v) :: rest
    else if key = k then (key, value) :: rest
    else (k, v) :: insertMember key value rest

def ofMembers (members : List (String × Json)) : Json :=
  .obj (members.foldl (fun acc m => insertMember m.1 m.2 acc) [])

def int (n : Int) : Json := .num (.int n)

def nat (n : Nat) : Json := .int n

def get? (key : String) : Json → Option Json
  | .obj members => members.lookup key
  | _ => none

section Members

variable {key : String} {value : Json} {members : List (String × Json)}

theorem lookup_member (k : String) : List.lookup k ((key, value) :: members) =
    if k = key then some value else members.lookup k := by
  rw [List.lookup_cons]
  by_cases h : k = key
  · rw [if_pos h, beq_iff_eq.2 h]
  · rw [if_neg h, beq_false_of_ne h]

theorem lookup_insertMember (k : String) : (insertMember key value members).lookup k =
    if k = key then some value else members.lookup k := by
  induction members with
  | nil => rw [insertMember, lookup_member]
  | cons m members ih =>
    obtain ⟨k', v⟩ := m
    rw [insertMember]
    split
    · exact lookup_member k
    · split
      · rename_i hk
        subst hk
        grind [lookup_member]
      · grind [lookup_member]

theorem get?_ofMembers (k : String) (members : List (String × Json)) :
    (ofMembers members).get? k = members.reverse.lookup k := by
  rw [ofMembers, get?, ← List.foldr_reverse]
  induction members.reverse with
  | nil => rfl
  | cons m members ih => rw [List.foldr_cons, lookup_insertMember, lookup_member, ih]

end Members

def str? : Json → Option String
  | .str s => some s
  | _ => none

def arr? : Json → Option (List Json)
  | .arr items => some items
  | _ => none

def bool? : Json → Option Bool
  | .bool b => some b
  | _ => none

/-- The integer, if the value is one; a float is none, whatever its value. -/
def int? : Json → Option Int
  | .num (.int n) => some n
  | _ => none

def u64? (j : Json) : Option Nat :=
  match j.int? with
  | some n => if 0 ≤ n && n < Nat.pow 2 64 then some n.toNat else none
  | none => none

theorem u64?_nat {n limit : Nat} (hl : Nat.pow 2 64 = limit) (h : n < limit) :
    (nat n).u64? = some n := by
  have hi : (nat n).int? = some (n : Int) := rfl
  have hn : (decide (0 ≤ (n : Int)) && decide ((n : Int) < (limit : Int))) = true := by
    simpa using h
  unfold u64?
  rw [hi, hl]
  exact if_pos hn

def u32? (j : Json) : Option Nat :=
  match j.int? with
  | some n => if 0 ≤ n && n < Nat.pow 2 32 then some n.toNat else none
  | none => none

def i32? (j : Json) : Option Int :=
  match j.int? with
  | some n => if -Nat.pow 2 31 ≤ n && n < Nat.pow 2 31 then some n else none
  | none => none

def i64? (j : Json) : Option Int :=
  match j.int? with
  | some n => if -Nat.pow 2 63 ≤ n && n < Nat.pow 2 63 then some n else none
  | none => none

def strings? (j : Json) : Option (List String) :=
  match j with
  | .arr items => items.mapM str?
  | _ => none

end Json
end Switchyard
