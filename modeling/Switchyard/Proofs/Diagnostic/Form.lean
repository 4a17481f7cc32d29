import Mathlib.Data.List.Basic
import Switchyard.Proofs.Json.Fields

namespace Switchyard

open Json (Exact Fields Is Maybe)

def Position.Form (p : Position) (j : Json) : Prop :=
  Fields ["line", "character"] j [some (.nat p.line.toNat), some (.nat p.character.toNat)]

def Span.Form (s : Span) (j : Json) : Prop :=
  ∃ start stop, Fields ["start", "end"] j [some start, some stop] ∧
    s.start.Form start ∧ s.stop.Form stop

def Severity.Form : Severity → Json → Prop := Is fun
  | .error => .nat 1
  | .warning => .nat 2
  | .information => .nat 3
  | .hint => .nat 4

def DiagnosticCode.Form : DiagnosticCode → Json → Prop := Is fun
  | .number n => .int n.toInt
  | .text s => .str s

def Diagnostic.Form (d : Diagnostic) (j : Json) : Prop :=
  ∃ range severity code source,
    Fields ["message", "range", "severity", "code", "source"] j
      [some (.str d.message), some range, severity, code, source] ∧
    d.range.Form range ∧ Maybe Severity.Form d.severity severity ∧
    Maybe DiagnosticCode.Form d.code code ∧ Maybe (Is .str) d.source source

variable {j : Json}

theorem position_of_fields {line character : Option Json}
    (h : j.fields? ["line", "character"] = some [line, character]) :
    Position.ofJson? j = (Json.required? Json.uint32? line).bind fun l =>
      (Json.required? Json.uint32? character).bind fun c => some ⟨l, c⟩ := by
  rw [Position.ofJson?, h]
  rfl

theorem span_of_fields {start stop : Option Json}
    (h : j.fields? ["start", "end"] = some [start, stop]) :
    Span.ofJson? j = (Json.required? Position.ofJson? start).bind fun a =>
      (Json.required? Position.ofJson? stop).bind fun b => some ⟨a, b⟩ := by
  rw [Span.ofJson?, h]
  rfl

theorem exact_position : Exact Position.ofJson? Position.Form := by
  intro j p
  rw [Position.Form, ← Json.fields?_eq_some_iff]
  cases hf : j.fields? ["line", "character"] with
  | none => simp [Position.ofJson?, hf]
  | some fields =>
    obtain ⟨line, character, rfl⟩ := List.length_eq_two.1 (Json.fields?_eq_some_iff.1 hf).length
    simp only [position_of_fields hf, Option.bind_eq_some_iff, Option.some.injEq,
      Json.required?_eq_some_iff Json.exact_uint32]
    constructor
    · rintro ⟨l, ⟨_, rfl, rfl⟩, c, ⟨_, rfl, rfl⟩, rfl⟩
      rfl
    · intro h
      cases h
      exact ⟨p.line, ⟨_, rfl, rfl⟩, p.character, ⟨_, rfl, rfl⟩, rfl⟩

theorem exact_span : Exact Span.ofJson? Span.Form := by
  intro j s
  simp only [Span.Form, ← Json.fields?_eq_some_iff]
  cases hf : j.fields? ["start", "end"] with
  | none => simp [Span.ofJson?, hf]
  | some fields =>
    obtain ⟨start, stop, rfl⟩ := List.length_eq_two.1 (Json.fields?_eq_some_iff.1 hf).length
    simp only [span_of_fields hf, Option.bind_eq_some_iff, Option.some.injEq,
      Json.required?_eq_some_iff exact_position]
    constructor
    · rintro ⟨a, ⟨ja, rfl, ha⟩, b, ⟨jb, rfl, hb⟩, rfl⟩
      exact ⟨ja, jb, rfl, ha, hb⟩
    · rintro ⟨ja, jb, h, ha, hb⟩
      cases h
      exact ⟨s.start, ⟨ja, rfl, ha⟩, s.stop, ⟨jb, rfl, hb⟩, rfl⟩

theorem exact_severity : Exact Severity.ofJson? Severity.Form := by
  intro j s
  rw [Severity.ofJson?, Option.bind_eq_some_iff]
  constructor
  · rintro ⟨n, hn, hs⟩
    obtain ⟨rfl, -⟩ := Json.u64?_eq_some_iff.1 hn
    unfold Severity.ofNat? at hs
    split at hs <;> cases hs <;> rfl
  · intro h
    refine ⟨s.toNat, Json.u64?_eq_some_iff.2 ⟨?_, ?_⟩, ?_⟩
    · cases s <;> exact h
    · cases s <;> decide
    · cases s <;> rfl

theorem exact_diagnosticCode : Exact DiagnosticCode.ofJson? DiagnosticCode.Form := by
  intro j c
  cases j with
  | str s => cases c <;> simp [DiagnosticCode.ofJson?, DiagnosticCode.Form, Is, Json.int]
  | null | bool | num | arr | obj =>
    rw [DiagnosticCode.ofJson?, Option.map_eq_some_iff]
    · simp only [Json.exact_int64 _ _]
      cases c <;> simp [DiagnosticCode.Form, Is]
    · intro s h
      cases h

theorem Diagnostic.ofFields?_eq_some_iff {fields : List (Option Json)} {d : Diagnostic} :
    Diagnostic.ofFields? fields = some d ↔ ∃ range severity code source,
      fields = [some (.str d.message), some range, severity, code, source] ∧
      d.range.Form range ∧ Maybe Severity.Form d.severity severity ∧
      Maybe DiagnosticCode.Form d.code code ∧ Maybe (Is .str) d.source source := by
  have hsev (f o) : Json.optional? Severity.ofJson? f = some o ↔ Maybe Severity.Form o f :=
    Json.optional?_eq_some_iff exact_severity rfl
  have hcode (f o) : Json.optional? DiagnosticCode.ofJson? f = some o ↔
      Maybe DiagnosticCode.Form o f :=
    Json.optional?_eq_some_iff exact_diagnosticCode rfl
  have hmessage (f s) : Json.required? Json.str? f = some s ↔ ∃ j, f = some j ∧ Is .str s j :=
    Json.required?_eq_some_iff Json.exact_str
  have hrange (f s) : Json.required? Span.ofJson? f = some s ↔ ∃ j, f = some j ∧ s.Form j :=
    Json.required?_eq_some_iff exact_span
  constructor
  · intro h
    unfold ofFields? at h
    split at h
    · simp only [Option.bind_eq_bind, Option.bind_eq_some_iff, Option.pure_def, Option.some.injEq,
        hmessage, hrange, hsev, hcode, Json.optional?_str_eq_some_iff] at h
      obtain ⟨_, ⟨_, rfl, rfl⟩, r, ⟨range, rfl, hr⟩, s, hs, c, hc, o, ho, rfl⟩ := h
      exact ⟨range, _, _, _, rfl, hr, hs, hc, ho⟩
    · cases h
  · rintro ⟨range, severity, code, source, rfl, hr, hs, hc, ho⟩
    rw [ofFields?, (hmessage _ _).2 ⟨_, rfl, rfl⟩, (hrange _ _).2 ⟨range, rfl, hr⟩,
      (hsev _ _).2 hs, (hcode _ _).2 hc, Json.optional?_str_eq_some_iff.2 ho]
    rfl

theorem exact_diagnostic : Exact Diagnostic.ofJson? Diagnostic.Form := by
  intro j d
  simp only [Diagnostic.ofJson?, Option.bind_eq_some_iff, Json.fields?_eq_some_iff,
    Diagnostic.ofFields?_eq_some_iff, Diagnostic.Form, Diagnostic.fieldNames]
  constructor
  · rintro ⟨_, hf, range, severity, code, source, rfl, h⟩
    exact ⟨range, severity, code, source, hf, h⟩
  · rintro ⟨range, severity, code, source, hf, h⟩
    exact ⟨_, hf, range, severity, code, source, rfl, h⟩

theorem Position.form_toJson (p : Position) : p.Form p.toJson := by
  have h := Json.fields_ofMembers ["line", "character"]
    [("line", .nat p.line.toNat), ("character", .nat p.character.toNat)]
  simpa [Position.Form, Position.toJson, Json.get?_ofMembers, Json.lookup_member] using h

theorem Span.form_toJson (s : Span) : s.Form s.toJson := by
  refine ⟨s.start.toJson, s.stop.toJson, ?_, s.start.form_toJson, s.stop.form_toJson⟩
  have h := Json.fields_ofMembers ["start", "end"]
    [("start", s.start.toJson), ("end", s.stop.toJson)]
  simpa [Span.toJson, Json.get?_ofMembers, Json.lookup_member] using h

theorem Severity.form_toJson (s : Severity) : s.Form s.toJson := by
  cases s <;> rfl

theorem DiagnosticCode.form_toJson (c : DiagnosticCode) : c.Form c.toJson := by
  cases c <;> rfl

theorem Diagnostic.form_toJson (d : Diagnostic) : d.Form d.toJson := by
  refine ⟨d.range.toJson, d.severity.map Severity.toJson, d.code.map DiagnosticCode.toJson,
    d.source.map .str, ?_, d.range.form_toJson, Json.maybe_map Severity.form_toJson _,
    Json.maybe_map DiagnosticCode.form_toJson _, Json.maybe_is _ _⟩
  have h := Json.fields_present fieldNames
    [("message", some (.str d.message)), ("range", some d.range.toJson),
      ("severity", d.severity.map Severity.toJson), ("code", d.code.map DiagnosticCode.toJson),
      ("source", d.source.map .str)]
  simpa [fieldNames, Diagnostic.toJson, Json.get?_present] using h

end Switchyard
