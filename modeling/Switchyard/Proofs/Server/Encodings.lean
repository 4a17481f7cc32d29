import Switchyard.Proofs.Diagnostic.Form
import Switchyard.Proofs.Json.Layout
import Switchyard.Server.Config

namespace Switchyard

open Json (Layout)
open Json.Layout (decodes_plain decodes_record optional?_plain)

def Position.layout : Layout := .field "line" false .plain (.field "character" false .plain .record)

def Span.layout : Layout :=
  .field "start" false Position.layout (.field "end" false Position.layout .record)

def Diagnostic.layout : Layout :=
  .field "message" false .plain <| .field "range" false Span.layout <|
    .field "severity" true .plain <| .field "code" true .plain <|
      .field "source" true .plain .record

def DocumentFilter.layout : Layout :=
  .field "language" true .plain <| .field "pattern" true .plain <|
    .field "scheme" true .plain .record

def DocumentSelector.layout : Layout := .list DocumentFilter.layout

def ServerConfig.layout : Layout :=
  .field "id" false .plain <| .field "display_name" false .plain <|
    .field "command" false .plain <| .field "args" false .plain <|
      .field "selector" false DocumentSelector.layout .record

theorem decodes_position : Position.layout.Decodes Position.ofJson? := by
  have hnumber := (decodes_plain Json.uint32?).required? rfl
  have hfields := hnumber.cons "line" fun line =>
    hnumber.cons "character" fun character => decodes_record (Position.mk line character)
  exact hfields.of_objects trivial fun members => rfl

theorem decodes_span : Span.layout.Decodes Span.ofJson? := by
  have hposition := decodes_position.required? rfl
  have hfields := hposition.cons "start" fun start =>
    hposition.cons "end" fun stop => decodes_record (Span.mk start stop)
  exact hfields.of_objects trivial fun members => rfl

theorem roundTrips_diagnostic :
    Diagnostic.layout.RoundTrips Diagnostic.toJson Diagnostic.ofJson? where
  toDecodes := by
    have hfields := ((decodes_plain Json.str?).required? rfl).cons "message" fun message =>
      (decodes_span.required? rfl).cons "range" fun range =>
        (optional?_plain Severity.ofJson?).cons "severity" fun severity =>
          (optional?_plain DiagnosticCode.ofJson?).cons "code" fun code =>
            (optional?_plain Json.str?).cons "source" fun source =>
              decodes_record (Diagnostic.mk message range severity code source)
    exact hfields.of_objects trivial fun members => rfl
  decode_encode d := (exact_diagnostic _ _).2 d.form_toJson

variable {j : Json} {members : List (String × Json)}

theorem filter_obj (h : j = .obj members) :
    DocumentFilter.ofJson? j = (Json.optional? Json.str? (j.get? "language")).bind fun language =>
      (Json.optional? Json.str? (j.get? "pattern")).bind fun pattern =>
        (Json.optional? Json.str? (j.get? "scheme")).bind fun scheme =>
          some (.conditions language pattern scheme) := by
  subst h
  rfl

theorem config_obj (h : j = .obj members) :
    ServerConfig.ofJson? j = ServerConfig.ofFields? [j.get? "id", j.get? "display_name",
      j.get? "command", j.get? "args", j.get? "selector"] := by
  subst h
  rfl

theorem roundTrips_filter :
    DocumentFilter.layout.RoundTrips DocumentFilter.toJson DocumentFilter.ofJson? where
  toDecodes := by
    have hstr := optional?_plain Json.str?
    have hfields := hstr.cons "language" fun language => hstr.cons "pattern" fun pattern =>
      hstr.cons "scheme" fun scheme =>
        decodes_record (DocumentFilter.conditions language pattern scheme)
    exact hfields.of_objects trivial fun members => rfl
  decode_encode f := by
    have hstr (o : Option String) : Json.optional? Json.str? (o.map .str) = some o :=
      Json.optional?_str_eq_some_iff.2 (Json.maybe_is _ _)
    cases f with
    | ofLanguage id => rfl
    | conditions language pattern scheme =>
      obtain ⟨members, hj⟩ : ∃ members,
        (DocumentFilter.conditions language pattern scheme).toJson = .obj members := ⟨_, rfl⟩
      rw [filter_obj hj, DocumentFilter.toJson]
      simp [Json.get?_present, hstr]

theorem roundTrips_selector :
    DocumentSelector.layout.RoundTrips DocumentSelector.toJson DocumentSelector.ofJson? :=
  roundTrips_filter.list

theorem roundTrips_config :
    ServerConfig.layout.RoundTrips ServerConfig.toJson ServerConfig.ofJson? where
  toDecodes := by
    have hstr := decodes_plain Json.str?
    have hfields := (hstr.required? rfl).cons "id" fun id =>
      (hstr.defaulted? rfl "").cons "display_name" fun displayName =>
        (hstr.required? rfl).cons "command" fun command =>
          ((decodes_plain Json.strings?).defaulted? rfl []).cons "args" fun args =>
            (roundTrips_selector.required? rfl).cons "selector" fun selector =>
              decodes_record (ServerConfig.mk id displayName command args selector)
    exact hfields.of_objects trivial fun members => rfl
  decode_encode c := by
    have hstr (s : String) : Json.str? (.str s) = some s := rfl
    have hargs : Json.strings? (.arr (c.args.map .str)) = some c.args :=
      Json.Layout.mapM_map hstr c.args
    have hselector := roundTrips_selector.decode_encode c.selector
    obtain ⟨members, hj⟩ : ∃ members, c.toJson = .obj members := ⟨_, rfl⟩
    rw [config_obj hj, ServerConfig.toJson]
    simp [Json.get?_ofMembers, Json.lookup_member, ServerConfig.ofFields?, Json.required?,
      Json.defaulted?, hstr, hargs, hselector]

/-- What is encoded is decoded again, with unknown fields in any record of it and with nulls for
optional fields that are not given. A null for any other field is refused. -/
theorem wire_types_round_trip :
    DocumentFilter.layout.RoundTrips DocumentFilter.toJson DocumentFilter.ofJson? ∧
    DocumentSelector.layout.RoundTrips DocumentSelector.toJson DocumentSelector.ofJson? ∧
    ServerConfig.layout.RoundTrips ServerConfig.toJson ServerConfig.ofJson? ∧
    Diagnostic.layout.RoundTrips Diagnostic.toJson Diagnostic.ofJson? :=
  ⟨roundTrips_filter, roundTrips_selector, roundTrips_config, roundTrips_diagnostic⟩

end Switchyard
