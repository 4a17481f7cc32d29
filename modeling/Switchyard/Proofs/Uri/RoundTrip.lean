import Mathlib.Data.List.Basic
import Mathlib.Data.List.TakeWhile
import Switchyard.Proofs.Path.Components
import Switchyard.Proofs.Uri.Percent
import Switchyard.Uri

namespace Switchyard

namespace Uri

open Switchyard.Path (IsName below)

variable {names : List (List UInt8)} {p : Path} {uri : String}

def spell (names : List (List UInt8)) : List Char := names.flatMap fun name => '/' :: encode name

theorem mem_spell {c : Char} (h : c ∈ spell names) : c = '/' ∨ isInert c = true := by
  obtain ⟨name, _, hc⟩ := List.mem_flatMap.1 h
  obtain rfl | hc := List.mem_cons.1 hc
  · exact .inl rfl
  · exact .inr (inert_encode hc)

theorem trim_eq_self {cs : List Char} (h : ∀ c ∈ cs, 0x20 < c.toNat) : trim cs = cs := by
  have hd (l : List Char) (hl : ∀ c ∈ l, 0x20 < c.toNat) :
      l.dropWhile (fun c => decide (c.toNat ≤ 0x20)) = l := by
    cases l with
    | nil => rfl
    | cons c l =>
      rw [List.dropWhile_cons_of_neg]
      have hc := hl c List.mem_cons_self
      simpa using hc
  unfold trim
  dsimp only
  rw [hd cs h, hd cs.reverse fun c hc => h c (List.mem_reverse.1 hc), List.reverse_reverse]

theorem isSeparator_inert {c : Char} (h : isInert c = true) :
    SchemeKind.file.isSeparator c = false := by
  simp only [isInert, Bool.and_eq_true, bne_iff_ne] at h
  simp [SchemeKind.isSeparator, h.1.1.1.2, h.1.1.2]

theorem not_endsPath_inert {c : Char} (h : isInert c = true) : endsPath c = false := by
  simp only [isInert, Bool.and_eq_true, bne_iff_ne] at h
  simp [endsPath, h.1.2, h.2]

theorem not_isSkipped_inert {c : Char} (h : isInert c = true) : isSkipped c = false := by
  simp only [isInert, Bool.and_eq_true, decide_eq_true_eq] at h
  have hc := h.1.1.1.1.1
  unfold isSkipped
  apply eq_false_of_ne_true
  intro heq
  simp only [Bool.or_eq_true, beq_iff_eq] at heq
  obtain (rfl | rfl) | rfl := heq <;> revert hc <;> decide

theorem split_inert {cs : List Char} (h : ∀ c ∈ cs, isInert c = true) : split .file cs = [cs] := by
  induction cs with
  | nil => rfl
  | cons c cs ih =>
    rw [split, isSeparator_inert (h c List.mem_cons_self),
      ih fun x hx => h x (List.mem_cons_of_mem _ hx)]
    rfl

theorem split_inert_append {cs : List Char} (h : ∀ c ∈ cs, isInert c = true) (rest : List Char) :
    split .file (cs ++ '/' :: rest) = cs :: split .file rest := by
  induction cs with
  | nil => rfl
  | cons c cs ih =>
    rw [List.cons_append, split, isSeparator_inert (h c List.mem_cons_self),
      ih fun x hx => h x (List.mem_cons_of_mem _ hx)]
    rfl

theorem split_spell (hne : names ≠ []) : split .file (spell names) = [] :: names.map encode := by
  induction names with
  | nil => exact absurd rfl hne
  | cons name names ih =>
    have hname (c : Char) (hc : c ∈ encode name) : isInert c = true := inert_encode hc
    have hsplit : split .file (spell (name :: names)) =
        [] :: split .file (encode name ++ spell names) := rfl
    rw [hsplit]
    cases names with
    | nil =>
      rw [spell, List.flatMap_nil, List.append_nil, split_inert hname]
      rfl
    | cons next names =>
      have ih := ih (List.cons_ne_nil _ _)
      have hnext : spell (next :: names) = '/' :: (encode next ++ spell names) := rfl
      rw [hnext, split_inert_append hname]
      exact congrArg ([] :: encode name :: ·) (List.cons.inj ih).2

theorem not_isSkipped_encode {bytes : List UInt8} {c : Char} (h : c ∈ encode bytes) :
    isSkipped c = false :=
  not_isSkipped_inert (inert_encode h)

theorem filter_encode (bytes : List UInt8) :
    (encode bytes).filter (fun c => !isSkipped c) = encode bytes := by
  apply List.filter_eq_self.2
  intro c hc
  rw [not_isSkipped_encode hc]
  rfl

theorem push_encode {name : List UInt8} {stack : Stack} (hn : IsName name)
    (hs : stack.segments ≠ []) (isLast : Bool) :
    stack.push .file (encode name) isLast =
      { stack with segments := encode name :: stack.segments } := by
  have hbottom : stack.segments.isEmpty = false := by simpa using hs
  have h1 := not_isSingleDot_encode hn.not_dot
  have h2 := not_isDoubleDot_encode hn.not_dots
  simp only [Stack.push, hbottom, Bool.and_false, Bool.false_eq_true, if_false, filter_encode, h1,
    h2]

theorem pushAll_encode (hn : ∀ name ∈ names, IsName name) (stack : Stack)
    (hs : stack.segments ≠ []) :
    (stack.pushAll .file (names.map encode)).segments =
      (names.map encode).reverse ++ stack.segments := by
  induction names generalizing stack with
  | nil => rfl
  | cons name names ih =>
    have hname := hn name List.mem_cons_self
    cases names with
    | nil =>
      have hp := push_encode hname hs true
      simpa [Stack.pushAll] using congrArg Stack.segments hp
    | cons next names =>
      have hp : stack.pushAll .file ((name :: next :: names).map encode) =
          (stack.push .file (encode name) false).pushAll .file ((next :: names).map encode) := rfl
      rw [hp, push_encode hname hs, ih (fun x hx => hn x (List.mem_cons_of_mem _ hx)) _
        (List.cons_ne_nil _ _)]
      simp

theorem takeWhile_spell (names : List (List UInt8)) :
    (spell names).takeWhile (fun c => !endsPath c) = spell names := by
  apply List.takeWhile_eq_self_iff.2
  intro c hc
  obtain rfl | hc := mem_spell hc
  · rfl
  · rw [not_endsPath_inert hc]
    rfl

theorem readPath_spell (hne : names ≠ []) (hn : ∀ name ∈ names, IsName name) :
    (readPath .file (spell names)).segments = names.map encode := by
  obtain ⟨name, rest, rfl⟩ := List.exists_cons_of_ne_nil hne
  have hpush : (Stack.pushAll ⟨[], false⟩ .file ([] :: (name :: rest).map encode)).segments =
      ((name :: rest).map encode).reverse ++ [[]] :=
    pushAll_encode hn ⟨[[]], false⟩ (List.cons_ne_nil _ _)
  have hempty : (encode name).isEmpty = false := by
    simpa using encode_ne_nil (hn name List.mem_cons_self).nonempty
  simp only [readPath, takeWhile_spell, split_spell hne, hpush]
  simp [hempty]

theorem spell_eq_slash_cons (hne : names ≠ []) : ∃ rest, spell names = '/' :: rest := by
  obtain ⟨name, rest, rfl⟩ := List.exists_cons_of_ne_nil hne
  exact ⟨_, rfl⟩

theorem localSegments?_spell (hne : names ≠ []) :
    localSegments? .file ('/' :: '/' :: spell names) =
      some (readPath .file (spell names)).segments := by
  have hafter (cs : List Char) : afterSeparator? .file ('/' :: cs) = some cs := rfl
  have hcut : cut SchemeKind.file.endsAuthority (spell names) = ([], spell names) := by
    obtain ⟨rest, heq⟩ := spell_eq_slash_cons hne
    rw [heq]
    rfl
  have hfile : fileSegments? (spell names) = some (readPath .file (spell names)).segments := by
    unfold fileSegments?
    rw [hcut]
    rfl
  unfold localSegments?
  simp only [hafter, beq_self_eq_true, if_true]
  exact hfile

theorem schemeOnto?_file (cs : List Char) :
    schemeOnto? [] ('f' :: 'i' :: 'l' :: 'e' :: ':' :: cs) = some (['f', 'i', 'l', 'e'], cs) := rfl

theorem decode_spelled (names : List (List UInt8)) :
    (names.map encode).flatMap (fun s => Path.slash :: decode s) = below names := by
  unfold below
  rw [List.flatMap_map]
  congr 1
  funext name
  rw [decode_encode]

theorem closeDrive_cases (bytes : List UInt8) :
    closeDrive bytes = bytes ∨ closeDrive bytes = bytes ++ [Path.slash] := by
  unfold closeDrive
  split
  · split
    · exact .inr rfl
    · exact .inl rfl
  · exact .inl rfl

theorem components_closeDrive {bytes : List UInt8} (hne : bytes ≠ []) :
    (⟨closeDrive bytes⟩ : Path).components = (⟨bytes⟩ : Path).components := by
  obtain h | h := closeDrive_cases bytes
  · rw [h]
  · rw [h, Path.components_append hne]
    exact List.append_nil _

theorem components_closeDrive_below (hne : names ≠ []) (hn : ∀ name ∈ names, Path.slash ∉ name) :
    (⟨closeDrive (below names)⟩ : Path).components = .root :: Path.innerComponents names :=
  (components_closeDrive (Path.below_ne_nil hne)).trans (Path.components_below hne hn)

theorem toPath?_file (hne : names ≠ []) :
    toPath? (String.ofList ("file://".toList ++ spell names)) =
      some ⟨closeDrive ((readPath .file (spell names)).segments.flatMap fun s =>
        Path.slash :: decode s)⟩ := by
  have hstart : "file://".toList.all (fun c => decide (0x20 < c.toNat)) = true := rfl
  have htrim : trim ("file://".toList ++ spell names) = "file://".toList ++ spell names := by
    apply trim_eq_self
    intro c hc
    obtain hc | hc := List.mem_append.1 hc
    · exact of_decide_eq_true (List.all_eq_true.1 hstart c hc)
    · obtain rfl | hc := mem_spell hc
      · decide
      · simp only [isInert, Bool.and_eq_true, decide_eq_true_eq] at hc
        exact hc.1.1.1.1.1
  have hscheme : SchemeKind.ofScheme ['f', 'i', 'l', 'e'] = .file := rfl
  have htext : "file://".toList ++ spell names =
      'f' :: 'i' :: 'l' :: 'e' :: ':' :: '/' :: '/' :: spell names := rfl
  unfold toPath?
  rw [String.toList_ofList, htrim, htext, schemeOnto?_file]
  simp only [hscheme, localSegments?_spell hne]

theorem toPath?_spell (hne : names ≠ []) (hn : ∀ name ∈ names, IsName name) :
    ∃ q, toPath? (String.ofList ("file://".toList ++ spell names)) = some q ∧
      q.components = .root :: names.map .named := by
  refine ⟨⟨closeDrive (below names)⟩, ?_, ?_⟩
  · rw [toPath?_file hne, readPath_spell hne hn, decode_spelled]
  · rw [components_closeDrive_below hne fun name hm => (hn name hm).no_slash,
      Path.innerComponents_names hn]

theorem isAbsolute_of_ofPath? (h : ofPath? p = some uri) : p.isAbsolute = true := by
  unfold ofPath? at h
  split at h
  · cases h
  · assumption
  · assumption

/-- What the URI of a path spells between slashes: the components below the root, or nothing if
there is none. -/
def parts : List Path.Component → List (List UInt8)
  | [] => [[]]
  | c :: cs => (c :: cs).map Path.Component.bytes

theorem parts_ne_nil (cs : List Path.Component) : parts cs ≠ [] := by
  cases cs <;> exact List.cons_ne_nil _ _

theorem ofPath?_eq {cs : List Path.Component} (hc : p.components = .root :: cs) :
    ofPath? p = some (String.ofList ("file://".toList ++ spell (parts cs))) := by
  have ha : p.isAbsolute = true := Path.isAbsolute_iff.2 ⟨cs, hc⟩
  obtain ⟨cs', hc', -, hcs⟩ := Path.components_eq_root ha
  obtain rfl := (List.cons.inj (hc.symm.trans hc')).2
  unfold ofPath?
  rw [ha, hc, List.drop_one, List.tail_cons]
  cases cs with
  | nil => rfl
  | cons c cs =>
    have htext (x : Path.Component) (hx : x ∈ c :: cs) : componentText x = encode x.bytes := by
      obtain rfl | ⟨name, _, rfl⟩ := hcs x hx
      · rfl
      · rfl
    have hspell :
        (c :: cs).flatMap (fun x => '/' :: componentText x) = spell (parts (c :: cs)) := by
      rw [spell, parts, List.flatMap_map]
      exact List.flatMap_congr fun x hx => congrArg ('/' :: ·) (htext x hx)
    exact congrArg (fun text => some (String.ofList ("file://".toList ++ text))) hspell

theorem spell_inj {names' : List (List UInt8)} (h : spell names = spell names') :
    names = names' := by
  by_cases hne : names = []
  · subst hne
    by_contra hne'
    obtain ⟨rest, heq⟩ := spell_eq_slash_cons (Ne.symm hne')
    rw [heq] at h
    cases h
  · have hne' : names' ≠ [] := by
      rintro rfl
      obtain ⟨rest, heq⟩ := spell_eq_slash_cons hne
      rw [heq] at h
      cases h
    have hsplit := congrArg (split .file) h
    rw [split_spell hne, split_spell hne'] at hsplit
    have hencode : Function.Injective encode := Function.LeftInverse.injective decode_encode
    exact List.map_injective_iff.2 hencode (List.cons.inj hsplit).2

theorem innerComponents_parts {cs : List Path.Component}
    (h : Path.innerComponents (cs.map Path.Component.bytes) = cs) :
    Path.innerComponents (parts cs) = cs := by
  cases cs with
  | nil => rfl
  | cons c cs => exact h

theorem ofPath?_inj {q : Path} (hp : ofPath? p = some uri) (hq : ofPath? q = some uri) :
    p.components = q.components := by
  obtain ⟨cs, hc, hin, -⟩ := Path.components_eq_root (isAbsolute_of_ofPath? hp)
  obtain ⟨cs', hc', hin', -⟩ := Path.components_eq_root (isAbsolute_of_ofPath? hq)
  have htext := (ofPath?_eq hc).symm.trans (hp.trans (hq.symm.trans (ofPath?_eq hc')))
  have hspell := List.append_cancel_left (String.ofList_injective (Option.some.inj htext))
  rw [hc, hc', ← innerComponents_parts hin, ← innerComponents_parts hin', spell_inj hspell]

theorem ofPath?_congr {q : Path} (h : p.components = q.components) : ofPath? p = ofPath? q := by
  unfold ofPath?
  rw [Path.isAbsolute_congr h, h]

/-- The URI of a path without `..` is read as a path with the same components. -/
theorem toPath?_ofPath? (h : ofPath? p = some uri) (hup : .up ∉ p.components) :
    ∃ q, toPath? uri = some q ∧ q.components = p.components := by
  obtain ⟨names, hn, hc⟩ := Path.components_eq_names (isAbsolute_of_ofPath? h) hup
  obtain rfl := Option.some.inj (h.symm.trans (ofPath?_eq hc))
  cases names with
  | nil =>
    refine ⟨⟨[Path.slash]⟩, ?_, hc.symm⟩
    rfl
  | cons name names =>
    have hparts : parts ((name :: names).map .named) = name :: names := by
      simp [parts, Path.Component.bytes, Function.comp_def]
    rw [hparts, hc]
    exact toPath?_spell (List.cons_ne_nil _ _) hn

theorem canonical_ofPath? (h : ofPath? p = some uri) (hup : .up ∉ p.components) :
    canonical uri = uri := by
  obtain ⟨q, hq, hc⟩ := toPath?_ofPath? h hup
  unfold canonical
  rw [hq, Option.bind_some, ofPath?_congr hc, h]
  rfl

/-- An absolute path without `..` has a URI, which is read as a path with the same components and is
its own canonical spelling, and the paths with this URI are those with the same components. -/
theorem uri_of_components (p : Path) (ha : p.isAbsolute = true) (hup : .up ∉ p.components) :
    ∃ uri, ofPath? p = some uri ∧ (∃ q, toPath? uri = some q ∧ q.components = p.components) ∧
      canonical uri = uri ∧ ∀ q : Path, ofPath? q = some uri ↔ q.components = p.components := by
  obtain ⟨cs, hc⟩ := Path.isAbsolute_iff.1 ha
  have hu := ofPath?_eq hc
  refine ⟨_, hu, toPath?_ofPath? hu hup, canonical_ofPath? hu hup, fun q => ⟨?_, ?_⟩⟩
  · intro hq
    exact ofPath?_inj hq hu
  · intro hq
    rw [ofPath?_congr hq, hu]

/-- A path with `%2F` in a component, a byte that is no text, `?#\`, a space, and `/./.../` after
it. -/
def oddPath : Path :=
  ⟨[47, 97, 98, 124, 47, 37, 50, 70, 255, 63, 35, 92, 32, 47, 46, 47, 46, 46, 46, 47]⟩

theorem uri_of_components_odd :
    ∃ q, toPath? "file:///ab|/%252F%FF%3F%23%5C%20/..." = some q ∧ q.components =
      [.root, .named [97, 98, 124], .named [37, 50, 70, 255, 63, 35, 92, 32],
        .named [46, 46, 46]] := by
  have hu : ofPath? oddPath = some "file:///ab|/%252F%FF%3F%23%5C%20/..." := by decide +kernel
  obtain ⟨uri, hp, hq, -⟩ := uri_of_components oddPath (by decide) (by decide)
  cases hu.symm.trans hp
  exact hq

end Uri

end Switchyard
