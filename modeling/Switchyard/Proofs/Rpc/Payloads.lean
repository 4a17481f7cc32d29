import Switchyard.Proofs.Diagnostic.Form
import Switchyard.Rpc.Message

namespace Switchyard.Rpc

open Json (Defaulted Fields Is Maybe)

structure RawReport where
  uri : Option String
  version : Option Int32
  items : List Json

def RawReport.Form (r : RawReport) (j : Json) : Prop :=
  ∃ uri version diagnostics,
    Fields ["uri", "version", "diagnostics"] j [uri, version, diagnostics] ∧
    Maybe (Is .str) r.uri uri ∧ Maybe (Is fun n : Int32 => .int n.toInt) r.version version ∧
    Defaulted [] (Is .arr) r.items diagnostics

inductive Sifts : List Json → List Diagnostic → Prop where
  | nil : Sifts [] []
  | keep {j : Json} {d : Diagnostic} {items : List Json} {ds : List Diagnostic} (h : d.Form j)
      (rest : Sifts items ds) : Sifts (j :: items) (d :: ds)
  | drop {j : Json} {items : List Json} {ds : List Diagnostic} (h : ∀ d : Diagnostic, ¬ d.Form j)
      (rest : Sifts items ds) : Sifts (j :: items) ds

def RawReport.toJson (r : RawReport) : Json :=
  .present [("uri", r.uri.map .str), ("version", r.version.map fun n => .int n.toInt),
    ("diagnostics", some (.arr r.items))]

def PublishDiagnostics.toRaw (p : PublishDiagnostics) : RawReport :=
  ⟨some p.uri, p.version, p.diagnostics.map Diagnostic.toJson⟩

def RawReport.said? (r : RawReport) : Option PublishDiagnostics :=
  match r.uri with
  | none => none
  | some uri =>
    if uri.isEmpty then none else some ⟨uri, r.version, r.items.filterMap Diagnostic.ofJson?⟩

variable {j : Json} {r : RawReport} {p : PublishDiagnostics} {items : List Json}
  {ds : List Diagnostic}

theorem ofJson?_eq_none_iff : Diagnostic.ofJson? j = none ↔ ∀ d : Diagnostic, ¬ d.Form j := by
  simp only [Option.eq_none_iff_forall_ne_some, Ne, exact_diagnostic _ _]

theorem sifts_iff : Sifts items ds ↔ items.filterMap Diagnostic.ofJson? = ds := by
  constructor
  · intro h
    induction h with
    | nil => rfl
    | keep h _ ih => rw [List.filterMap_cons_some ((exact_diagnostic _ _).2 h), ih]
    | drop h _ ih => rw [List.filterMap_cons_none (ofJson?_eq_none_iff.2 h), ih]
  · rintro rfl
    induction items with
    | nil => exact .nil
    | cons item items ih =>
      cases hd : Diagnostic.ofJson? item with
      | none =>
        rw [List.filterMap_cons_none hd]
        exact .drop (ofJson?_eq_none_iff.1 hd) ih
      | some d =>
        rw [List.filterMap_cons_some hd]
        exact .keep ((exact_diagnostic _ _).1 hd) ih

theorem filterMap_toJson (ds : List Diagnostic) :
    (ds.map Diagnostic.toJson).filterMap Diagnostic.ofJson? = ds := by
  have hd (d : Diagnostic) : Diagnostic.ofJson? d.toJson = some d :=
    (exact_diagnostic _ _).2 d.form_toJson
  rw [List.filterMap_map]
  exact (List.filterMap_congr fun d _ => hd d).trans List.filterMap_some

theorem RawReport.said?_of_uri {uri : String} (hu : r.uri = some uri) (hne : uri ≠ "") :
    r.said? = some ⟨uri, r.version, r.items.filterMap Diagnostic.ofJson?⟩ := by
  rw [said?, hu]
  exact if_neg (by simpa using hne)

theorem RawReport.said?_eq_none_iff : r.said? = none ↔ r.uri = none ∨ r.uri = some "" := by
  cases hu : r.uri with
  | none => simp [said?, hu]
  | some uri =>
    by_cases hne : uri = ""
    · simp [said?, hu, hne]
    · simp [said?_of_uri hu hne, hne]

theorem RawReport.said?_eq_some_iff : r.said? = some p ↔
    r.uri = some p.uri ∧ p.uri ≠ "" ∧ r.version = p.version ∧ Sifts r.items p.diagnostics := by
  rw [sifts_iff]
  constructor
  · intro h
    have hsome : ¬ (r.uri = none ∨ r.uri = some "") := by
      rw [← said?_eq_none_iff, h]
      nofun
    rw [not_or] at hsome
    obtain ⟨uri, hu⟩ := Option.ne_none_iff_exists'.1 hsome.1
    have hne : uri ≠ "" := fun he => hsome.2 (he ▸ hu)
    cases (said?_of_uri hu hne).symm.trans h
    exact ⟨hu, hne, rfl, rfl⟩
  · rintro ⟨hu, hne, hv, hd⟩
    rw [said?_of_uri hu hne, hv, hd]

theorem ofFields?_eq (uri version diagnostics : Option Json) :
    PublishDiagnostics.ofFields? [uri, version, diagnostics] =
      (Json.optional? Json.str? uri).bind fun u =>
        (Json.optional? Json.int32? version).bind fun v =>
          (Json.defaulted? [] Json.arr? diagnostics).bind fun items =>
            RawReport.said? ⟨u, v, items⟩ :=
  rfl

theorem optional?_int32_eq_some_iff {field : Option Json} {o : Option Int32} :
    Json.optional? Json.int32? field = some o ↔ Maybe (Is fun n : Int32 => .int n.toInt) o field :=
  Json.optional?_eq_some_iff Json.exact_int32 rfl

theorem RawReport.Form.ofParams? (h : r.Form j) :
    PublishDiagnostics.ofParams? (some j) = r.said? := by
  obtain ⟨uri, version, diagnostics, hf, hu, hv, hi⟩ := h
  have hfields : j.fields? PublishDiagnostics.fieldNames = _ := Json.fields?_eq_some_iff.2 hf
  rw [PublishDiagnostics.ofParams?, Option.bind_some, hfields, Option.bind_some, ofFields?_eq,
    Json.optional?_str_eq_some_iff.2 hu, optional?_int32_eq_some_iff.2 hv,
    (Json.defaulted?_eq_some_iff Json.exact_arr).2 hi]
  rfl

theorem exists_form (h : PublishDiagnostics.ofParams? (some j) = some p) :
    ∃ r : RawReport, r.Form j := by
  rw [PublishDiagnostics.ofParams?, Option.bind_some] at h
  obtain ⟨fields, hf, h⟩ := Option.bind_eq_some_iff.1 h
  have hfields := Json.fields?_eq_some_iff.1 hf
  obtain ⟨uri, version, diagnostics, rfl⟩ := List.length_eq_three.1 hfields.length
  rw [ofFields?_eq] at h
  obtain ⟨u, hu, h⟩ := Option.bind_eq_some_iff.1 h
  obtain ⟨v, hv, h⟩ := Option.bind_eq_some_iff.1 h
  obtain ⟨items, hi, -⟩ := Option.bind_eq_some_iff.1 h
  exact ⟨⟨u, v, items⟩, uri, version, diagnostics, hfields, Json.optional?_str_eq_some_iff.1 hu,
    optional?_int32_eq_some_iff.1 hv, (Json.defaulted?_eq_some_iff Json.exact_arr).1 hi⟩

theorem RawReport.form_toJson (r : RawReport) : r.Form r.toJson := by
  refine ⟨r.uri.map .str, r.version.map fun n => .int n.toInt, some (.arr r.items), ?_,
    Json.maybe_is _ _, Json.maybe_is _ _, .given rfl⟩
  have h := Json.fields_present ["uri", "version", "diagnostics"]
    [("uri", r.uri.map .str), ("version", r.version.map fun n => .int n.toInt),
      ("diagnostics", some (.arr r.items))]
  simpa [RawReport.toJson, Json.get?_present] using h

theorem ofParams?_eq_some_iff {params : Option Json} :
    PublishDiagnostics.ofParams? params = some p ↔
      ∃ j, params = some j ∧ ∃ r : RawReport, r.Form j ∧ r.uri = some p.uri ∧ p.uri ≠ "" ∧
        r.version = p.version ∧ Sifts r.items p.diagnostics := by
  constructor
  · intro h
    obtain ⟨j, rfl, -⟩ := Option.bind_eq_some_iff.1 h
    obtain ⟨r, hr⟩ := exists_form h
    exact ⟨j, rfl, r, hr, RawReport.said?_eq_some_iff.1 (hr.ofParams?.symm.trans h)⟩
  · rintro ⟨j, rfl, r, hr, h⟩
    exact hr.ofParams?.trans (RawReport.said?_eq_some_iff.2 h)

theorem ofParams?_eq_none_iff {params : Option Json} :
    PublishDiagnostics.ofParams? params = none ↔
      params = none ∨ ∃ j, params = some j ∧ ((∀ r : RawReport, ¬ r.Form j) ∨
        ∃ r : RawReport, r.Form j ∧ (r.uri = none ∨ r.uri = some "")) := by
  constructor
  · intro h
    cases params with
    | none => exact .inl rfl
    | some j =>
      refine .inr ⟨j, rfl, ?_⟩
      by_cases hform : ∃ r : RawReport, r.Form j
      · obtain ⟨r, hr⟩ := hform
        exact .inr ⟨r, hr, RawReport.said?_eq_none_iff.1 (hr.ofParams?.symm.trans h)⟩
      · exact .inl (not_exists.1 hform)
  · rintro (rfl | ⟨j, rfl, hn | ⟨r, hr, h⟩⟩)
    · rfl
    · rw [Option.eq_none_iff_forall_ne_some]
      intro p hp
      obtain ⟨r, hr⟩ := exists_form hp
      exact hn r hr
    · exact hr.ofParams?.trans (RawReport.said?_eq_none_iff.2 h)

/-- Malformed diagnostics are left out and disturb nothing else. A report that is accepted says its
URI, its version and those items that are diagnostics. One that is refused is missing, cannot be
decoded or names no document. To put a malformed item anywhere between the others, or to take it
away, changes nothing, and the encodings of diagnostics are diagnostics again. -/
theorem malformed_left_out :
    (∀ params p, PublishDiagnostics.ofParams? params = some p ↔
      ∃ j, params = some j ∧ ∃ r : RawReport, r.Form j ∧ r.uri = some p.uri ∧ p.uri ≠ "" ∧
        r.version = p.version ∧ Sifts r.items p.diagnostics) ∧
    (∀ params, PublishDiagnostics.ofParams? params = none ↔
      params = none ∨ ∃ j, params = some j ∧ ((∀ r : RawReport, ¬ r.Form j) ∨
        ∃ r : RawReport, r.Form j ∧ (r.uri = none ∨ r.uri = some ""))) ∧
    (∀ uri version before after bad j j', (∀ d : Diagnostic, ¬ d.Form bad) →
      RawReport.Form ⟨uri, version, before ++ after⟩ j →
      RawReport.Form ⟨uri, version, before ++ bad :: after⟩ j' →
      PublishDiagnostics.ofParams? (some j') = PublishDiagnostics.ofParams? (some j)) ∧
    (∀ p : PublishDiagnostics, p.uri ≠ "" →
      PublishDiagnostics.ofParams? (some p.toRaw.toJson) = some p) := by
  refine ⟨fun params p => ofParams?_eq_some_iff, fun params => ofParams?_eq_none_iff, ?_,
    fun p hp => ?_⟩
  · intro uri version before after bad j j' hbad hj hj'
    rw [hj.ofParams?, hj'.ofParams?, RawReport.said?, RawReport.said?, List.filterMap_append,
      List.filterMap_append, List.filterMap_cons_none (ofJson?_eq_none_iff.2 hbad)]
  · rw [p.toRaw.form_toJson.ofParams?, RawReport.said?_eq_some_iff]
    exact ⟨rfl, hp, rfl, sifts_iff.2 (filterMap_toJson p.diagnostics)⟩

def rangeless : Json := .ofMembers [("message", .str "no range")]

theorem rangeless_left_out :
    let d : Diagnostic := ⟨"ok", ⟨⟨0, 0⟩, ⟨0, 1⟩⟩, none, none, none⟩
    (∀ d : Diagnostic, ¬ d.Form rangeless) ∧
      PublishDiagnostics.ofParams?
        (some (RawReport.toJson ⟨some "file:///a.rs", some 4, [rangeless, d.toJson]⟩)) =
          some ⟨"file:///a.rs", some 4, [d]⟩ := by
  intro d
  have hbad : ∀ d : Diagnostic, ¬ d.Form rangeless := ofJson?_eq_none_iff.1 (by decide +kernel)
  obtain ⟨-, -, hinsert, hround⟩ := malformed_left_out
  have hone := hround ⟨"file:///a.rs", some 4, [d]⟩ (by decide)
  exact ⟨hbad, (hinsert _ _ [] _ _ _ _ hbad (RawReport.form_toJson _)
    (RawReport.form_toJson _)).trans hone⟩

end Switchyard.Rpc
