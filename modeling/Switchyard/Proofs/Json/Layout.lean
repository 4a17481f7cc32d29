import Mathlib.Data.List.Forall2
import Switchyard.Json.Record

namespace Switchyard.Json

inductive Layout where
  | plain
  | list (item : Layout)
  | record
  | field (name : String) (optional : Bool) (value rest : Layout)

/-- A field in one record and in another, of which the second may have a null for nothing. -/
inductive SameField (optional : Bool) (same : Json → Json → Prop) :
    Option Json → Option Json → Prop where
  | missing : SameField optional same none none
  | null (h : optional = true) : SameField optional same none (some .null)
  | given {j j' : Json} (h : same j j') : SameField optional same (some j) (some j')

/-- A field that is spoiled: it is null without being optional, or spoiled within. -/
inductive SpoiledField (optional : Bool) (spoiled : Json → Prop) : Option Json → Prop where
  | null (h : optional = false) : SpoiledField optional spoiled (some .null)
  | within {j : Json} (h : spoiled j) : SpoiledField optional spoiled (some j)

namespace Layout

/-- The second JSON is the first one, but for fields of its records that are not in the layout, and
for nulls where optional fields are missing. -/
def Padded : Layout → Json → Json → Prop
  | .plain, j, j' => j' = j
  | .list item, j, j' => j' = j ∨
    ∃ items items', j = .arr items ∧ j' = .arr items' ∧ List.Forall₂ item.Padded items items'
  | .record, j, j' => j' = j ∨ ∃ members members', j = .obj members ∧ j' = .obj members'
  | .field name optional value rest, j, j' =>
    SameField optional value.Padded (j.get? name) (j'.get? name) ∧ rest.Padded j j'

/-- Somewhere in the JSON there is a null for a field that is not optional. -/
def Spoiled : Layout → Json → Prop
  | .plain, _ => False
  | .list item, j => ∃ items, j = .arr items ∧ ∃ i ∈ items, item.Spoiled i
  | .record, _ => False
  | .field name optional value rest, j =>
    SpoiledField optional value.Spoiled (j.get? name) ∨ rest.Spoiled j

def IsRecord : Layout → Prop
  | .plain | .list _ => False
  | .record => True
  | .field _ _ _ rest => rest.IsRecord

variable {α β : Type} {layout item value rest : Layout} {decode : Json → Option α} {j j' : Json}

/-- Decoding looks at what is in the layout, and takes no null for a field that is not optional. -/
structure Decodes (layout : Layout) (decode : Json → Option α) : Prop where
  padded : ∀ j j', layout.Padded j j' → decode j' = decode j
  spoiled : ∀ j, layout.Spoiled j → decode j = none

structure DecodesField (optional : Bool) (value : Layout) (read : Option Json → Option β) :
    Prop where
  padded : ∀ f f', SameField optional value.Padded f f' → read f' = read f
  spoiled : ∀ f, SpoiledField optional value.Spoiled f → read f = none

structure RoundTrips (layout : Layout) (encode : α → Json) (decode : Json → Option α) : Prop
    extends Decodes layout decode where
  decode_encode : ∀ a, decode (encode a) = some a

theorem Padded.of_isRecord (hl : layout.IsRecord) (h : layout.Padded j j') :
    j' = j ∨ ∃ members members', j = .obj members ∧ j' = .obj members' := by
  induction layout with
  | plain | list => exact hl.elim
  | record => exact h
  | field name optional value rest _ ih => exact ih hl h.2

theorem Spoiled.of_isRecord (hl : layout.IsRecord) (h : layout.Spoiled j) :
    ∃ members, j = .obj members := by
  induction layout with
  | plain | list => exact hl.elim
  | record => exact h.elim
  | field name optional value rest _ ih =>
    obtain h | h := h
    · cases j with
      | obj members => exact ⟨members, rfl⟩
      | null | bool | num | str | arr => cases h
    · exact ih hl h

theorem decodes_plain (decode : Json → Option α) : plain.Decodes decode where
  padded _ _ h := congrArg decode h
  spoiled _ h := h.elim

theorem mapM_padded {items items' : List Json} (hd : item.Decodes decode)
    (h : List.Forall₂ item.Padded items items') : items'.mapM decode = items.mapM decode := by
  induction h with
  | nil => rfl
  | cons hj _ ih => rw [List.mapM_cons, List.mapM_cons, hd.padded _ _ hj, ih]

theorem mapM_eq_none {items : List Json} {i : Json} (hi : i ∈ items) (h : decode i = none) :
    items.mapM decode = none := by
  induction items with
  | nil => cases hi
  | cons item items ih =>
    rw [List.mapM_cons]
    obtain rfl | hi := List.mem_cons.1 hi
    · rw [h]
      rfl
    · rw [ih hi]
      cases decode item <;> rfl

theorem mapM_map {encode : α → Json} (h : ∀ a, decode (encode a) = some a) (as : List α) :
    (as.map encode).mapM decode = some as := by
  induction as with
  | nil => rfl
  | cons a as ih =>
    rw [List.map_cons, List.mapM_cons, h, ih]
    rfl

theorem Decodes.list (h : item.Decodes decode) : (list item).Decodes (list? decode) where
  padded := by
    rintro j j' (rfl | ⟨items, items', rfl, rfl, hp⟩)
    · rfl
    · exact mapM_padded h hp
  spoiled := by
    rintro j ⟨items, rfl, i, hi, hs⟩
    exact mapM_eq_none hi (h.spoiled i hs)

theorem RoundTrips.list {encode : α → Json} (h : item.RoundTrips encode decode) :
    (list item).RoundTrips (fun as => .arr (as.map encode)) (list? decode) where
  toDecodes := h.toDecodes.list
  decode_encode := mapM_map h.decode_encode

theorem Decodes.required? (h : value.Decodes decode) (hn : decode .null = none) :
    DecodesField false value (required? decode) where
  padded f f' hf := by
    cases hf with
    | missing => rfl
    | null hn => cases hn
    | given hp => exact h.padded _ _ hp
  spoiled f hf := by
    cases hf with
    | null => exact hn
    | within hs => exact h.spoiled _ hs

theorem Decodes.defaulted? (h : value.Decodes decode) (hn : decode .null = none) (default : α) :
    DecodesField false value (defaulted? default decode) where
  padded f f' hf := by
    cases hf with
    | missing => rfl
    | null hn => cases hn
    | given hp => exact h.padded _ _ hp
  spoiled f hf := by
    cases hf with
    | null => exact hn
    | within hs => exact h.spoiled _ hs

/-- A null for an optional field is no value of it, and so nothing is spoiled. -/
theorem optional?_plain (decode : Json → Option α) :
    DecodesField true plain (optional? decode) where
  padded f f' hf := by
    cases hf with
    | missing => rfl
    | null => rfl
    | given hp => rw [hp]
  spoiled f hf := by
    cases hf with
    | null hn => cases hn
    | within hs => exact hs.elim

theorem decodes_record (a : α) : record.Decodes fun _ => some a where
  padded _ _ _ := rfl
  spoiled _ h := h.elim

theorem DecodesField.cons {optional : Bool} {read : Option Json → Option β}
    {next : β → Json → Option α} (h : DecodesField optional value read) (name : String)
    (hrest : ∀ b, rest.Decodes (next b)) :
    (field name optional value rest).Decodes fun j => (read (j.get? name)).bind (next · j) where
  padded j j' hp := by
    rw [h.padded _ _ hp.1]
    exact congrArg _ (funext fun b => (hrest b).padded j j' hp.2)
  spoiled j hs := by
    obtain hs | hs := hs
    · rw [h.spoiled _ hs, Option.bind_none]
    · rw [Option.bind_eq_none_iff]
      exact fun b _ => (hrest b).spoiled j hs

theorem Decodes.of_objects {byName : Json → Option α} (h : layout.Decodes byName)
    (hl : layout.IsRecord) (ho : ∀ members, decode (.obj members) = byName (.obj members)) :
    layout.Decodes decode where
  padded j j' hp := by
    obtain rfl | ⟨members, members', rfl, rfl⟩ := hp.of_isRecord hl
    · rfl
    · rw [ho, ho]
      exact h.padded _ _ hp
  spoiled j hs := by
    obtain ⟨members, rfl⟩ := hs.of_isRecord hl
    exact (ho members).trans (h.spoiled _ hs)

end Layout
end Switchyard.Json
