import Switchyard.Config.Servers
import Switchyard.Document.Limit
import Switchyard.Proofs.Path.Spelling
import Switchyard.Proofs.Text.Sorted
import Switchyard.Registry

namespace Switchyard

variable {file file' root root' : Path}

theorem Language.detect_congr (hfile : file.components = file'.components) :
    Language.detect file = Language.detect file' := by
  unfold Language.detect Language.detectWith Path.fileName?
  rw [hfile]

namespace DocumentFilter

variable {filter : DocumentFilter} {id : String}

theorem accepts_congr (hfile : file.components = file'.components)
    (hroot : root.components = root'.components) :
    filter.accepts file root = filter.accepts file' root' := by
  unfold accepts
  rw [Language.detect_congr hfile, Path.relativeName_congr hfile hroot]

theorem eq_detect_of_accepts (h : filter.accepts file root = true)
    (hid : filter.languageId? = some id) : id = Language.detect file := by
  cases filter with
  | ofLanguage language =>
    cases hid
    exact beq_iff_eq.1 h
  | conditions language pattern scheme =>
    have hlanguage : language = some id := hid
    subst hlanguage
    unfold accepts at h
    simp only [Bool.and_eq_true] at h
    exact beq_iff_eq.1 h.1.1

end DocumentFilter

namespace DocumentSelector

variable {selector selector' : DocumentSelector} {language : String}

theorem accepts_iff :
    selector.accepts file root = true ↔ ∃ filter ∈ selector, filter.accepts file root = true :=
  List.any_eq_true

theorem accepts_congr (hfile : file.components = file'.components)
    (hroot : root.components = root'.components) :
    selector.accepts file root = selector.accepts file' root' := by
  unfold accepts
  congr 1
  funext filter
  exact DocumentFilter.accepts_congr hfile hroot

theorem accepts_mono (h : selector ⊆ selector') (ha : selector.accepts file root = true) :
    selector'.accepts file root = true := by
  obtain ⟨filter, hm, hf⟩ := accepts_iff.1 ha
  exact accepts_iff.2 ⟨filter, h hm, hf⟩

theorem compiles_anti (h : selector ⊆ selector') (hc : selector'.compiles = true) :
    selector.compiles = true := by
  unfold compiles at hc ⊢
  rw [List.all_eq_true] at hc ⊢
  exact fun filter hm => hc filter (h hm)

theorem judge?_eq_some {answer : Bool} :
    selector.judge? file root = some answer ↔
      selector.compiles = true ∧ selector.accepts file root = answer := by
  unfold judge?
  split
  · rename_i hc
    rw [Option.some_inj, and_iff_right hc]
  · rename_i hc
    exact iff_of_false nofun fun h => hc h.1

theorem judge?_of_same_filters (h : ∀ filter, filter ∈ selector ↔ filter ∈ selector') :
    selector.judge? file root = selector'.judge? file root := by
  have hsub : selector ⊆ selector' := fun filter => (h filter).1
  have hsub' : selector' ⊆ selector := fun filter => (h filter).2
  have hc : selector.compiles = selector'.compiles :=
    Bool.eq_iff_iff.2 ⟨compiles_anti hsub', compiles_anti hsub⟩
  have ha : selector.accepts file root = selector'.accepts file root :=
    Bool.eq_iff_iff.2 ⟨accepts_mono hsub, accepts_mono hsub'⟩
  unfold judge?
  rw [hc, ha]

theorem mem_languages :
    language ∈ selector.languages ↔ ∃ filter ∈ selector, filter.languageId? = some language :=
  Text.mem_sortedSet.trans List.mem_filterMap

theorem detect_mem_languages (hall : ∀ filter ∈ selector, filter.languageId?.isSome = true)
    (h : selector.accepts file root = true) : Language.detect file ∈ selector.languages := by
  obtain ⟨filter, hm, hf⟩ := accepts_iff.1 h
  obtain ⟨id, hid⟩ := Option.isSome_iff_exists.1 (hall filter hm)
  have heq := DocumentFilter.eq_detect_of_accepts hf hid
  exact mem_languages.2 ⟨filter, hm, heq ▸ hid⟩

end DocumentSelector

theorem Settings.allows_iff {s : Settings} {c : ServerConfig} : s.allows c = true ↔
    ∀ allowed, s.languages = some allowed →
      ∃ language ∈ c.selector.languages, language ∈ allowed := by
  unfold allows
  split
  · rename_i h
    exact iff_of_true rfl fun allowed ha => by cases h.symm.trans ha
  · rename_i allowed h
    simp [h, List.any_eq_true]

namespace Registry

variable {r : Registry} {e : Nat} {languages : List String}

theorem mem_entriesWhere {p : Entry → Bool} :
    e ∈ r.entriesWhere p ↔ ∃ entry, r.entries[e]? = some entry ∧ p entry = true := by
  unfold entriesWhere
  rw [List.mem_filter, List.mem_range, Option.any_eq_true]
  exact and_iff_right_of_imp fun ⟨_, hx, _⟩ => (List.getElem?_eq_some_iff.1 hx).1

theorem mem_candidates : e ∈ r.candidates languages ↔ ∃ entry, r.entries[e]? = some entry ∧
    entry.isIdle = true ∧ (∃ language ∈ entry.config.selector.languages, language ∈ languages) ∧
      r.commandExists entry.config.command = true := by
  simp [candidates, mem_entriesWhere, List.any_eq_true, and_assoc]

end Registry

namespace DocumentSelector

/-- The answer of a selector on a document is that on all spellings of the document and of the root,
which are the paths with the same components; it depends on which filters there are, not on their
order or number; a filter more never turns a yes into a no, and without a filter the answer is no. A
selector whose filters all name languages accepts documents of these languages only, so a server for
a document it accepts passes every list of allowed languages with the language of the document, and
is a candidate in every project that has this language. -/
theorem judged_by_document (selector : DocumentSelector) (file root : Path) :
    (∀ p q : Path, Path.Respelled p q ↔ p.components = q.components) ∧
    (∀ file' root', Path.Respelled file file' → Path.Respelled root root' →
      selector.judge? file' root' = selector.judge? file root) ∧
    (∀ selector' : DocumentSelector, (∀ filter, filter ∈ selector' ↔ filter ∈ selector) →
      selector'.judge? file root = selector.judge? file root) ∧
    (∀ selector' : DocumentSelector, selector ⊆ selector' →
      selector.judge? file root = some true →
      ∀ answer, selector'.judge? file root = some answer → answer = true) ∧
    judge? [] file root = some false ∧
    ((∀ filter ∈ selector, filter.languageId?.isSome = true) →
      selector.judge? file root = some true →
      Language.detect file ∈ selector.languages ∧
      (∀ (s : Settings) (c : ServerConfig), c.selector = selector →
        (∀ allowed, s.languages = some allowed → Language.detect file ∈ allowed) →
        s.allows c = true) ∧
      ∀ (r : Registry) (e : Nat) (entry : Entry) (languages : List String),
        r.entries[e]? = some entry → entry.config.selector = selector → entry.isIdle = true →
        r.commandExists entry.config.command = true → Language.detect file ∈ languages →
        e ∈ r.candidates languages) := by
  refine ⟨fun _ _ => Path.respelled_iff, ?_, fun _ h => judge?_of_same_filters h, ?_, rfl, ?_⟩
  · intro file' root' hfile hroot
    unfold judge?
    rw [accepts_congr hfile.components_eq hroot.components_eq]
  · intro selector' hsub hyes answer hanswer
    have ha := accepts_mono hsub (judge?_eq_some.1 hyes).2
    exact (judge?_eq_some.1 hanswer).2.symm.trans ha
  · intro hall hyes
    have hmem := detect_mem_languages hall (judge?_eq_some.1 hyes).2
    refine ⟨hmem, ?_, ?_⟩
    · rintro s c rfl hs
      exact Settings.allows_iff.2 fun allowed ha => ⟨_, hmem, hs allowed ha⟩
    · rintro r e entry languages he rfl hidle hcommand hl
      exact Registry.mem_candidates.2 ⟨entry, he, hidle, ⟨_, hmem, hl⟩, hcommand⟩

theorem judged_by_document_respelled :
    Path.Respelled (.ofString "/w/a.ts") (.ofString "/w//./a.ts/") ∧
      Path.Respelled (.ofString "/w") (.ofString "//w/.") ∧
      judge? [.ofLanguage "typescript"] (.ofString "/w//./a.ts/") (.ofString "//w/.") = some true ∧
      "typescript" ∈ languages [.ofLanguage "typescript"] := by
  obtain ⟨hcomponents, hsame, -, -, -, hlanguage⟩ :=
    judged_by_document [.ofLanguage "typescript"] (.ofString "/w/a.ts") (.ofString "/w")
  have hfile : Path.Respelled (.ofString "/w/a.ts") (.ofString "/w//./a.ts/") :=
    (hcomponents _ _).2 (by decide)
  have hroot : Path.Respelled (.ofString "/w") (.ofString "//w/.") :=
    (hcomponents _ _).2 (by decide)
  have hyes :
      judge? [.ofLanguage "typescript"] (.ofString "/w/a.ts") (.ofString "/w") = some true := by
    decide +kernel
  have hdetect : Language.detect (.ofString "/w/a.ts") = "typescript" := by decide +kernel
  have hmem := (hlanguage (by decide) hyes).1
  rw [hdetect] at hmem
  exact ⟨hfile, hroot, (hsame _ _ hfile hroot).trans hyes, hmem⟩

end DocumentSelector

end Switchyard
