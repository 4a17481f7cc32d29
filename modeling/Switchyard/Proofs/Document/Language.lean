import Mathlib.Data.List.Nodup
import Switchyard.Document.Language
import Switchyard.Proofs.Path.Components
import Switchyard.Proofs.Text.Ascii

namespace Switchyard.Language

/-- A name that is a basename, or has a suffix after it and a dot. -/
def Begins (basename : String) (name : List Char) : Prop :=
  name = basename.toList ∨ ∃ suffix, name = basename.toList ++ '.' :: suffix

def Ends (extension : String) (name : List Char) : Prop :=
  ∃ stem, stem ≠ [] ∧ name = stem ++ extension.toList

/-- An entry whose extension is at least as long as each other one that ends the name. -/
def Longest (name : List Char) (e : String × String) : Prop :=
  e ∈ extensions ∧ Ends e.1 name ∧
    ∀ e' ∈ extensions, Ends e'.1 name → e'.1.length ≤ e.1.length

inductive Decides (name : List Char) : String → Prop where
  | basename {e : String × String} : e ∈ basenames → Begins e.1 name → Decides name e.2
  | extension {e : String × String} : (∀ e' ∈ basenames, ¬ Begins e'.1 name) → Longest name e →
      Decides name e.2
  | neither : (∀ e' ∈ basenames, ¬ Begins e'.1 name) → (∀ e' ∈ extensions, ¬ Ends e'.1 name) →
      Decides name plaintext

variable {name : List Char} {basename extension language language' : String}
  {e e' : String × String} {table names endings : List (String × String)}

theorem hasBasename_iff : hasBasename name basename = true ↔ Begins basename name := by
  unfold hasBasename Begins
  constructor
  · intro h
    split at h
    · rename_i hrest
      rw [Path.afterPrefix?_eq_some, List.append_nil] at hrest
      exact .inl hrest
    · rename_i c suffix hrest
      rw [Path.afterPrefix?_eq_some, beq_iff_eq.1 h] at hrest
      exact .inr ⟨suffix, hrest⟩
    · cases h
  · rintro (rfl | ⟨suffix, rfl⟩)
    · rw [Path.afterPrefix?_eq_some.2 (List.append_nil _).symm]
    · rw [Path.afterPrefix?_eq_some.2 rfl]
      rfl

theorem hasExtension_iff : hasExtension name extension = true ↔ Ends extension name := by
  unfold hasExtension Ends
  rw [Bool.and_eq_true, List.isSuffixOf_iff_suffix, decide_eq_true_iff, ← String.length_toList]
  constructor
  · rintro ⟨⟨stem, rfl⟩, hl⟩
    rw [List.length_append] at hl
    exact ⟨stem, List.ne_nil_of_length_pos (by omega), rfl⟩
  · rintro ⟨stem, hstem, rfl⟩
    have hpos := List.length_pos_of_ne_nil hstem
    rw [List.length_append]
    exact ⟨List.suffix_append stem _, by omega⟩

/-- With a dot after both, a basename is a prefix of the names that it begins. -/
theorem begins_iff : Begins basename name ↔ basename.toList ++ ['.'] <+: name ++ ['.'] := by
  constructor
  · rintro (rfl | ⟨suffix, rfl⟩)
    · exact List.prefix_rfl
    · exact ⟨suffix ++ ['.'], by simp⟩
  · rintro ⟨rest, h⟩
    obtain rfl | ⟨rest', c, rfl⟩ := List.eq_nil_or_concat rest
    · rw [List.append_nil] at h
      exact .inl (List.append_cancel_right h).symm
    · rw [List.concat_eq_append, ← List.append_assoc] at h
      obtain ⟨h, -⟩ := List.append_inj' h rfl
      exact .inr ⟨rest', by rw [← h]; simp⟩

theorem basenames_apart : ∀ e ∈ basenames, ∀ e' ∈ basenames,
    e.1.toList ++ ['.'] <+: e'.1.toList ++ ['.'] → e = e' := by
  decide +kernel

theorem Begins.unique (he : e ∈ basenames) (he' : e' ∈ basenames) (h : Begins e.1 name)
    (h' : Begins e'.1 name) : e = e' := by
  rw [begins_iff] at h h'
  obtain hp | hp := List.prefix_or_prefix_of_prefix h h'
  · exact basenames_apart e he e' he' hp
  · exact (basenames_apart e' he' e he hp).symm

theorem extensions_nodup : (extensions.map (·.1)).Nodup := by
  decide +kernel

theorem Ends.suffix (h : Ends extension name) : extension.toList <:+ name := by
  obtain ⟨stem, -, rfl⟩ := h
  exact List.suffix_append stem _

theorem Longest.unique (h : Longest name e) (h' : Longest name e') : e = e' := by
  obtain ⟨hm, hends, hmax⟩ := h
  obtain ⟨hm', hends', hmax'⟩ := h'
  have hl : e.1.toList.length = e'.1.toList.length := by
    rw [String.length_toList, String.length_toList]
    exact Nat.le_antisymm (hmax' e hm hends) (hmax e' hm' hends')
  have hsuffix := List.suffix_of_suffix_length_le hends.suffix hends'.suffix (Nat.le_of_eq hl)
  have hkey : e.1 = e'.1 := String.toList_inj.1 (hsuffix.eq_of_length hl)
  exact List.inj_on_of_nodup_map extensions_nodup hm hm' hkey

theorem longest_eq_none : longest table = none ↔ table = [] := by
  cases table with
  | nil => exact iff_of_true rfl rfl
  | cons e rest =>
    refine iff_of_false ?_ (List.cons_ne_nil e rest)
    unfold longest
    split
    · exact nofun
    · split
      · exact nofun
      · exact nofun

theorem longest_eq_some (h : longest table = some e) :
    e ∈ table ∧ ∀ e' ∈ table, e'.1.length ≤ e.1.length := by
  induction table generalizing e with
  | nil => cases h
  | cons first rest ih =>
    rw [List.forall_mem_cons]
    unfold longest at h
    split at h
    · rename_i hrest
      cases h
      rw [longest_eq_none.1 hrest]
      exact ⟨List.mem_singleton_self _, Nat.le_refl _, by simp⟩
    · rename_i best hbest
      obtain ⟨hm, hmax⟩ := ih hbest
      split at h
      · rename_i hlt
        cases h
        exact ⟨List.mem_cons_self, Nat.le_refl _, fun e' he' =>
          Nat.le_of_lt (Nat.lt_of_le_of_lt (hmax e' he') hlt)⟩
      · rename_i hle
        cases h
        exact ⟨List.mem_cons_of_mem _ hm, Nat.le_of_not_lt hle, hmax⟩

theorem Decides.unique (h : Decides name language) (h' : Decides name language') :
    language = language' := by
  cases h with
  | basename he hb =>
    cases h' with
    | basename he' hb' => rw [hb.unique he he' hb']
    | extension hno _ => exact absurd hb (hno _ he)
    | neither hno _ => exact absurd hb (hno _ he)
  | extension hno hl =>
    cases h' with
    | basename he' hb' => exact absurd hb' (hno _ he')
    | extension _ hl' => rw [hl.unique hl']
    | neither _ hnone => exact absurd hl.2.1 (hnone _ hl.1)
  | neither hno hnone =>
    cases h' with
    | basename he' hb' => exact absurd hb' (hno _ he')
    | extension _ hl' => exact absurd hl'.2.1 (hnone _ hl'.1)
    | neither _ _ => rfl

theorem decides_ofName (hn : names.Perm basenames) (he : endings.Perm extensions)
    (name : List Char) : Decides name (ofName names endings name) := by
  unfold ofName
  split
  · rename_i e hfind
    have hm := hn.mem_iff.1 (List.mem_of_find?_eq_some hfind)
    have hb := List.find?_some hfind
    exact .basename hm (hasBasename_iff.1 hb)
  · rename_i hnone
    have hno : ∀ e ∈ basenames, ¬ Begins e.1 name := fun e hm hb =>
      List.find?_eq_none.1 hnone e (hn.mem_iff.2 hm) (hasBasename_iff.2 hb)
    have hends : ∀ e, e ∈ endings.filter (fun e => hasExtension name e.1) ↔
        e ∈ extensions ∧ Ends e.1 name := fun e => by
      rw [List.mem_filter, he.mem_iff, hasExtension_iff]
    split
    · rename_i e hlongest
      obtain ⟨hm, hmax⟩ := longest_eq_some hlongest
      obtain ⟨hm, hend⟩ := (hends e).1 hm
      exact .extension hno ⟨hm, hend, fun e' hm' hend' => hmax e' ((hends e').2 ⟨hm', hend'⟩)⟩
    · rename_i hempty
      refine .neither hno fun e hm hend => ?_
      have hmem := (hends e).2 ⟨hm, hend⟩
      rw [longest_eq_none.1 hempty] at hmem
      cases hmem

theorem ofName_perm (hn : names.Perm basenames) (he : endings.Perm extensions) (name : List Char) :
    ofName names endings name = ofName basenames extensions name :=
  (decides_ofName hn he name).unique (decides_ofName (.refl _) (.refl _) name)

/-- The last component of a path, if it is a name, with its ASCII letters in lower case. -/
def loweredName? (file : Path) : Option (List UInt8) :=
  file.fileName?.map (·.map Text.lowerByte)

theorem detectWith_eq (names endings : List (String × String)) (file : Path) :
    detectWith names endings file =
      match (loweredName? file).bind Text.Utf8.decode? with
      | some name => ofName names endings name
      | none => plaintext := by
  unfold detectWith loweredName?
  cases file.fileName? with
  | none => rfl
  | some bytes =>
    rw [Option.map_some, Option.bind_some, Option.bind_some, Text.Utf8.decode?_lower]
    cases Text.Utf8.decode? bytes with
    | none => rfl
    | some name => rfl

theorem begins_pairwise (name : List Char) :
    basenames.Pairwise fun e e' => ¬ (Begins e.1 name ∧ Begins e'.1 name) := by
  have hnodup : basenames.Nodup := by decide +kernel
  exact hnodup.imp_of_mem fun hm hm' hne hb => hne (hb.1.unique hm hm' hb.2)

theorem longest_pairwise (name : List Char) :
    extensions.Pairwise fun e e' => ¬ (Longest name e ∧ Longest name e') :=
  extensions_nodup.of_map.imp fun hne hl => hne (hl.1.unique hl.2)

/-- The language of a file is the same for every order of the tables. It depends on the last
component of the path with its ASCII letters in lower case only, and is plain text where that is no
text. At most one basename begins a name, and that one decides; where there is none, at most one of
the extensions that end the name and leave a stem is longest, and that one decides; and where there
is none of these either, it is plain text. -/
theorem detected_by_name :
    (∀ names endings : List (String × String), names.Perm basenames → endings.Perm extensions →
      ∀ file, detectWith names endings file = detect file) ∧
    (∀ file file' : Path, loweredName? file = loweredName? file' → detect file = detect file') ∧
    (∀ name : List Char,
      (basenames.Pairwise fun e e' => ¬ (Begins e.1 name ∧ Begins e'.1 name)) ∧
      (extensions.Pairwise fun e e' => ¬ (Longest name e ∧ Longest name e')) ∧
      ∀ file, (loweredName? file).bind Text.Utf8.decode? = some name →
        Decides name (detect file)) ∧
    ∀ file, (loweredName? file).bind Text.Utf8.decode? = none → detect file = plaintext := by
  refine ⟨?_, ?_, fun name => ⟨begins_pairwise name, longest_pairwise name, ?_⟩, ?_⟩
  · intro names endings hn he file
    unfold detect
    rw [detectWith_eq, detectWith_eq]
    cases (loweredName? file).bind Text.Utf8.decode? with
    | none => rfl
    | some name => exact ofName_perm hn he name
  · intro file file' h
    unfold detect
    rw [detectWith_eq, detectWith_eq, h]
  · intro file hname
    unfold detect
    rw [detectWith_eq, hname]
    exact decides_ofName (.refl _) (.refl _) name
  · intro file hname
    unfold detect
    rw [detectWith_eq, hname]

theorem detected_by_name_reversed :
    (basenames.reverse.Perm basenames ∧ extensions.reverse.Perm extensions ∧
      detectWith basenames.reverse extensions.reverse (.ofString "/w/Index.D.ts") =
        detect (.ofString "/w/Index.D.ts")) ∧
    (loweredName? (.ofString "/w/Index.D.ts") = loweredName? (.ofString "./iNDEX.d.TS/.") ∧
      detect (.ofString "/w/Index.D.ts") = detect (.ofString "./iNDEX.d.TS/.")) ∧
    ((loweredName? (.ofString "/w/Index.D.ts")).bind Text.Utf8.decode? = some "index.d.ts".toList ∧
      Decides "index.d.ts".toList (detect (.ofString "/w/Index.D.ts"))) ∧
    (loweredName? (.ofString "/w/..")).bind Text.Utf8.decode? = none ∧
      detect (.ofString "/w/..") = plaintext := by
  obtain ⟨horder, hsame, hdecides, hnone⟩ := detected_by_name
  have hn := List.reverse_perm basenames
  have he := List.reverse_perm extensions
  have hlower : loweredName? (.ofString "/w/Index.D.ts") =
      loweredName? (.ofString "./iNDEX.d.TS/.") := by
    decide +kernel
  have hname : (loweredName? (.ofString "/w/Index.D.ts")).bind Text.Utf8.decode? =
      some "index.d.ts".toList := by
    decide +kernel
  have hup : (loweredName? (.ofString "/w/..")).bind Text.Utf8.decode? = none := by
    decide +kernel
  exact ⟨⟨hn, he, horder _ _ hn he _⟩, ⟨hlower, hsame _ _ hlower⟩,
    ⟨hname, (hdecides _).2.2 _ hname⟩, hup, hnone _ hup⟩

end Switchyard.Language
