import Switchyard.Proofs.Path.Components
import Switchyard.Watch

namespace Switchyard

namespace WatchFilter

variable {f : WatchFilter} {file p q : Path}

/-- A path that is spelled as the root is, with nothing or with names after it, one separator before
each. -/
def IsPlain (f : WatchFilter) (p : Path) : Prop :=
  f.root.join p = f.root ∨
    ∃ names : List (List UInt8), (∀ name ∈ names, Path.IsName name) ∧
      f.root.join p = f.root.join ⟨Path.between names⟩

theorem withoutHere_of_absolute (h : file.isAbsolute = true) :
    withoutHere file.bytes = file.bytes := by
  obtain ⟨bytes, hb⟩ := Path.eq_slash_cons h
  rw [hb]
  rfl

theorem belowRoot_eq (hr : f.root.isAbsolute = true) (hfile : file.isAbsolute = true) :
    f.belowRoot file =
      let rest := (Path.afterPrefix? f.root.bytes file.bytes).getD file.bytes
      if rest.head? == some Path.slash then rest.drop 1 else rest := by
  obtain ⟨root, hroot⟩ := Path.eq_slash_cons hr
  obtain ⟨bytes, hbytes⟩ := Path.eq_slash_cons hfile
  have hhere : ((⟨f.root.bytes⟩ : Path).components == [.here]) = false := by
    rw [hroot, Path.components_slash]
    rfl
  have hslash : file.bytes.contains Path.slash = true := by simp [hbytes]
  unfold belowRoot
  rw [withoutHere_of_absolute hr, withoutHere_of_absolute hfile]
  dsimp only
  rw [hhere, hslash]
  rfl

theorem belowRoot_root (hr : f.root.isAbsolute = true) : f.belowRoot f.root = [] := by
  rw [belowRoot_eq hr hr, Path.afterPrefix?_eq_some.2 (List.append_nil _).symm]
  rfl

theorem belowRoot_join (hr : f.root.isAbsolute = true) (hfile : file.isAbsolute = false) :
    f.belowRoot (f.root.join file) = file.bytes := by
  have hhead : (file.bytes.head? == some Path.slash) = false := hfile
  rw [belowRoot_eq hr (Path.isAbsolute_join hr file)]
  unfold Path.join
  rw [hfile, if_neg Bool.false_ne_true]
  split
  · rw [Path.afterPrefix?_eq_some.2 rfl, Option.getD_some]
    dsimp only
    rw [hhead]
    rfl
  · rw [Path.afterPrefix?_eq_some.2 rfl, Option.getD_some]
    rfl

theorem IsPlain.belowRoot_eq (hr : f.root.isAbsolute = true) (h : f.IsPlain p) :
    ∃ names : List (List UInt8), (∀ name ∈ names, Path.IsName name) ∧
      (f.root.join p).components = f.root.components ++ names.map .named ∧
      f.belowRoot (f.root.join p) = Path.between names := by
  obtain h | ⟨names, hn, h⟩ := h
  · refine ⟨[], List.forall_mem_nil _, ?_, ?_⟩
    · rw [h, List.map_nil, List.append_nil]
    · rw [h, belowRoot_root hr]
      rfl
  · have hrelative := Path.between_not_absolute hn
    refine ⟨names, hn, ?_, ?_⟩
    · rw [h, Path.components_join hr hrelative, Path.innerComponents_between hn]
    · rw [h, belowRoot_join hr hrelative]

theorem belowRoot_congr (hr : f.root.isAbsolute = true) (hp : f.IsPlain p) (hq : f.IsPlain q)
    (h : (f.root.join p).components = (f.root.join q).components) :
    f.belowRoot (f.root.join p) = f.belowRoot (f.root.join q) := by
  obtain ⟨names, -, hnames, hbelow⟩ := hp.belowRoot_eq hr
  obtain ⟨names', -, hnames', hbelow'⟩ := hq.belowRoot_eq hr
  rw [hnames, hnames'] at h
  have hmap := List.append_cancel_left h
  have heq : names = names' := (List.map_inj_right fun _ _ => Path.Component.named.inj).1 hmap
  rw [hbelow, hbelow', heq]

/-- The components decide, and for a filter with rules they decide among plain paths. -/
theorem judge?_congr (hr : f.root.isAbsolute = true)
    (h : (f.root.join p).components = (f.root.join q).components)
    (hrules : f.rules = [] ∨ f.IsPlain p ∧ f.IsPlain q) : f.judge? p = f.judge? q := by
  have hstarts := Path.startsWith_congr h f.root
  have hname := Path.relativeName_congr h (rfl : f.root.components = f.root.components)
  unfold judge?
  dsimp only
  rw [hstarts, hname]
  obtain hnone | ⟨hp, hq⟩ := hrules
  · rw [hnone]
    rfl
  · rw [belowRoot_congr hr hp hq h]

theorem not_fails (hr : f.root.isAbsolute = true) (h : f.rules = [] ∨ f.IsPlain p) :
    f.fails p = false := by
  unfold fails judge?
  dsimp only
  split
  · rfl
  · split
    · rfl
    · rename_i hrules
      have hplain := h.resolve_left fun hnone => hrules (by rw [hnone]; rfl)
      obtain ⟨names, hn, -, hbelow⟩ := hplain.belowRoot_eq hr
      rw [hbelow, Path.between_not_absolute hn]
      rfl

def repository : List UInt8 := Text.Utf8.ofString ".git"

theorem isRepository_relativeName {root : Path} {cs : List Path.Component}
    (h : file.components = root.components ++ .named repository :: cs) :
    isRepository (file.relativeName root) = true := by
  have htext : Path.Component.text? (.named repository) = some ".git" := by decide +kernel
  have hrest : Path.afterPrefix? root.components file.components = some (.named repository :: cs) :=
    Path.afterPrefix?_eq_some.2 h
  unfold Path.relativeName
  rw [hrest, Option.getD_some]
  dsimp only
  rw [List.filterMap_cons, htext, String.toList_intercalate]
  cases cs.filterMap Path.Component.text? with
  | nil => decide +kernel
  | cons text texts =>
    rw [List.map_cons, List.map_cons, List.intercalate_cons_cons]
    rfl

/-- A file that is not rejected has the components of the root first, and is not in the repository's
directory. -/
theorem components_of_judge (h : f.judge? p ≠ some false) :
    f.root.components <+: (f.root.join p).components ∧
      ¬ f.root.components ++ [.named repository] <+: (f.root.join p).components := by
  unfold judge? at h
  dsimp only at h
  split at h
  · exact absurd rfl h
  rename_i hpasses
  simp only [Bool.or_eq_true, Bool.not_eq_true', not_or, Bool.not_eq_false] at hpasses
  obtain ⟨⟨hstarts, hrepository⟩, -⟩ := hpasses
  obtain ⟨cs, hcs⟩ := Path.startsWith_iff.1 hstarts
  refine ⟨⟨cs, hcs.symm⟩, ?_⟩
  rintro ⟨rest, hrest⟩
  rw [List.append_assoc, List.singleton_append] at hrest
  exact hrepository (isRepository_relativeName hrest.symm)

theorem names_of_judge (hr : f.root.isAbsolute = true) (hup : .up ∉ (f.root.join p).components)
    (h : f.judge? p ≠ some false) : f.root.names <+: (f.root.join p).names ∧
      ¬ f.root.names ++ [repository] <+: (f.root.join p).names := by
  obtain ⟨hinside, hrepository⟩ := components_of_judge h
  have hup' : .up ∉ f.root.components := fun hm => hup (hinside.subset hm)
  obtain ⟨names, -, hroot⟩ := Path.components_eq_names hr hup'
  obtain ⟨all, -, hall⟩ := Path.components_eq_names (Path.isAbsolute_join hr p) hup
  rw [hall, hroot] at hinside hrepository
  rw [Path.names_eq hall, Path.names_eq hroot]
  have hnamed (some : List (List UInt8)) : some <+: all ↔
      Path.Component.root :: some.map .named <+: .root :: all.map .named := by
    rw [List.prefix_cons_inj]
    exact (List.prefix_map_iff_of_injective fun _ _ => Path.Component.named.inj).symm
  refine ⟨(hnamed names).2 hinside, fun hprefix => hrepository ?_⟩
  have hmap := (hnamed _).1 hprefix
  rwa [List.map_append] at hmap

/-- The filter of an absolute root answers paths with the same components alike, unless it has rules
and one of the paths is not plain; on a plain path it does not fail; and it rejects each path whose
components do not start with those of the root, or go on with the repository's directory. Without
`..` paths have the same components if they lead to the same place, and are in a directory if their
place is. -/
theorem judged_by_components (f : WatchFilter) (hr : f.root.isAbsolute = true) (p q : Path) :
    ((f.rules = [] ∨ f.IsPlain p) → f.fails p = false) ∧
    ((f.root.join p).components = (f.root.join q).components →
      (f.rules = [] ∨ f.IsPlain p ∧ f.IsPlain q) → f.judge? p = f.judge? q) ∧
    (.up ∉ (f.root.join p).components → .up ∉ (f.root.join q).components →
      (f.root.join p).names = (f.root.join q).names →
      (f.rules = [] ∨ f.IsPlain p ∧ f.IsPlain q) → f.judge? p = f.judge? q) ∧
    ((¬ f.root.components <+: (f.root.join p).components ∨
        f.root.components ++ [.named repository] <+: (f.root.join p).components) →
      f.judge? p = some false) ∧
    (.up ∉ (f.root.join p).components →
      (¬ f.root.names <+: (f.root.join p).names ∨
        f.root.names ++ [repository] <+: (f.root.join p).names) → f.judge? p = some false) := by
  refine ⟨not_fails hr, judge?_congr hr, ?_, ?_, ?_⟩
  · intro hp hq hnames
    have habsolute := Path.isAbsolute_join hr
    exact judge?_congr hr (Path.components_congr (habsolute p) (habsolute q) hp hq hnames)
  · intro hplace
    apply Classical.byContradiction
    intro h
    obtain ⟨hinside, hrepository⟩ := components_of_judge h
    exact hplace.elim (absurd hinside) hrepository
  · intro hup hplace
    apply Classical.byContradiction
    intro h
    obtain ⟨hinside, hrepository⟩ := names_of_judge hr hup h
    exact hplace.elim (absurd hinside) hrepository

def ignoringLog : WatchFilter :=
  { root := .ofString "/w", rules := IgnoreFile.ofTexts ["/a.log".toList], extra := [] }

theorem judged_by_components_log :
    ignoringLog.root.isAbsolute = true ∧ ignoringLog.fails (.ofString "/w/b.ts") = false ∧
      ignoringLog.judge? (.ofString "/w/b.ts") = some true ∧
      ignoringLog.judge? (.ofString "/w/.//.git/HEAD") = some false ∧
      ignoringLog.judge? (.ofString "/v/b.ts") = some false := by
  have hr : ignoringLog.root.isAbsolute = true := by decide
  have hname : Path.IsName (Text.Utf8.ofString "b.ts") :=
    ⟨by decide, by decide, by decide, by decide⟩
  have hplain (p : Path) (h : ignoringLog.root.join p = .ofString "/w/b.ts") :
      ignoringLog.IsPlain p :=
    .inr ⟨[Text.Utf8.ofString "b.ts"], List.forall_mem_singleton.2 hname, h.trans (by decide)⟩
  obtain ⟨hanswers, hsame, -⟩ :=
    judged_by_components ignoringLog hr (.ofString "/w/b.ts") (.ofString "b.ts")
  have hwatched : ignoringLog.judge? (.ofString "b.ts") = some true := by decide +kernel
  have hoff (p : Path) := (judged_by_components ignoringLog hr p p).2.2.2.2
  exact ⟨hr, hanswers (.inr (hplain _ (by decide))),
    (hsame (by decide) (.inr ⟨hplain _ (by decide), hplain _ (by decide)⟩)).trans hwatched,
    hoff _ (by decide) (by decide), hoff _ (by decide) (by decide)⟩

/-- Of two paths to one place one matters and the other does not: with `..` on the way, also into
the repository's directory and out of the root, and with a `.` before a file that a rule names. With
a second separator after the root the filter fails. -/
theorem not_judged_by_place :
    ∃ f, load? (FileTree.empty.put [Text.Utf8.ofString "w", Text.Utf8.ofString ".gitignore"]
        (.file (Text.Utf8.ofString "/a.log\n") false)) (.ofString "/w") [] = some f ∧
      (f.root.join (.ofString "a/../.git/x")).names = (f.root.join (.ofString ".git/x")).names ∧
      f.judge? (.ofString "a/../.git/x") = some true ∧ f.judge? (.ofString ".git/x") = some false ∧
      (f.root.join (.ofString "../x")).names = (f.root.join (.ofString "/x")).names ∧
      f.judge? (.ofString "../x") = some true ∧ f.judge? (.ofString "/x") = some false ∧
      (f.root.join (.ofString "./a.log")).names = (f.root.join (.ofString "a.log")).names ∧
      f.judge? (.ofString "./a.log") = some true ∧ f.judge? (.ofString "a.log") = some false ∧
      (f.root.join (.ofString "/w//a.log")).names = (f.root.join (.ofString "a.log")).names ∧
      f.fails (.ofString "/w//a.log") = true := by
  refine ⟨_, (Option.some_get ?_).symm, ?_⟩
  · decide +kernel
  · decide +kernel

end WatchFilter

end Switchyard
