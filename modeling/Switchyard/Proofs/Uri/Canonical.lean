import Switchyard.Proofs.Uri.RoundTrip

namespace Switchyard.Uri

open Switchyard.Path (IsName below)

variable {bytes : List UInt8} {names : List (List UInt8)} {p : Path} {s uri : String}

def IsPart (bytes : List UInt8) : Prop :=
  bytes = [] ∨ bytes = [Path.dot, Path.dot] ∨ IsName bytes

def IsSpelled (segment : List Char) : Prop :=
  segment = [] ∨ ∃ name, IsName name ∧ segment = encode name

theorem decode_isSpelled {segment : List Char} (h : IsSpelled segment) :
    decode segment = [] ∨ IsName (decode segment) := by
  obtain rfl | ⟨name, hname, rfl⟩ := h
  · exact .inl rfl
  · rw [decode_encode]
    exact .inr hname

theorem encodeByte_letter {c : Char} (hc : isAsciiLetter c = true) :
    ∃ b : UInt8, b ≠ Path.slash ∧ encodeByte b = [c] := by
  have hlt : c.toNat < 256 := by
    simp only [isAsciiLetter, Bool.or_eq_true, Bool.and_eq_true, decide_eq_true_eq] at hc
    obtain ⟨_, h⟩ | ⟨_, h⟩ := hc
    · exact Nat.lt_of_le_of_lt h (by decide)
    · exact Nat.lt_of_le_of_lt h (by decide)
  have hletter := forall_byte (p := fun b => !isAsciiLetter (Char.ofNat b.toNat) ||
    (b != Path.slash && encodeByte b == [Char.ofNat b.toNat])) (by decide +kernel) (.ofNat c.toNat)
  rw [UInt8.toNat_ofNat_of_lt' hlt, Char.ofNat_toNat, hc] at hletter
  exact ⟨.ofNat c.toNat, by simpa using hletter⟩

theorem isSpelled_drive {segment drive : List Char} (h : drive? segment = some drive) :
    IsSpelled drive := by
  unfold drive? at h
  split at h
  · rename_i c m
    obtain ⟨hc, hd⟩ := Option.ite_none_right_eq_some.1 h
    cases hd
    obtain ⟨b, hb, hencode⟩ := encodeByte_letter (Bool.and_eq_true_iff.1 hc).1
    refine .inr ⟨[b, 58], ⟨List.cons_ne_nil _ _, ?_, nofun, ?_⟩, ?_⟩
    · intro hm
      obtain h | hm := List.mem_cons.1 hm
      · exact hb h.symm
      · cases List.mem_singleton.1 hm
    · simp [Path.dot]
    · have hcolon : encode [b, 58] = encodeByte b ++ [':'] := rfl
      rw [hcolon, hencode]
      rfl
  · cases h

theorem dropWhile_isSkipped {cs : List Char} (h : ∀ c ∈ cs, isSkipped c = false) :
    cs.dropWhile isSkipped = cs := by
  cases cs with
  | nil => rfl
  | cons c cs => exact List.dropWhile_cons_of_neg (by simp [h c List.mem_cons_self])

theorem cutDrive?_encode (bytes : List UInt8) : cutDrive? (encode bytes) = none := by
  have hskip (c : Char) (hc : c ∈ encode bytes) : isSkipped c = false := not_isSkipped_encode hc
  unfold cutDrive?
  rw [dropWhile_isSkipped hskip]
  cases hcs : encode bytes with
  | nil => rfl
  | cons c cs =>
    rw [hcs] at hskip
    have hcs (x : Char) (hx : x ∈ cs) : isSkipped x = false := hskip x (List.mem_cons_of_mem _ hx)
    dsimp only
    rw [dropWhile_isSkipped hcs]
    split
    · rename_i rest _
      have hhead : rest.head?.any isSkipped = false := by
        cases rest with
        | nil => rfl
        | cons x rest => exact hcs x (List.mem_cons_of_mem _ List.mem_cons_self)
      rw [hhead, Bool.and_false, Bool.false_and]
      rfl
    · rfl

theorem mem_pop {segment : List Char} {segments : List (List Char)} (h : segment ∈ pop segments) :
    segment ∈ segments := by
  cases segments with
  | nil => exact h
  | cons s rest =>
    simp only [pop] at h
    split at h
    · exact h
    · exact List.mem_cons_of_mem _ h

theorem push_spelled {stack : Stack} (hstack : ∀ segment ∈ stack.segments, IsSpelled segment)
    (hpart : IsPart bytes) (isLast : Bool) :
    ∀ segment ∈ (stack.push .file (encode bytes) isLast).segments, IsSpelled segment := by
  have hending : ∀ segment ∈ if isLast then [([] : List Char)] else [], IsSpelled segment := by
    intro segment hm
    split at hm
    · exact .inl (List.mem_singleton.1 hm)
    · cases hm
  unfold Stack.push
  simp only [cutDrive?_encode, filter_encode, ite_self]
  split
  · intro segment hm
    obtain hm | hm := List.mem_append.1 hm
    · exact hending segment hm
    · exact hstack segment (mem_pop hm)
  · rename_i hdots
    split
    · intro segment hm
      obtain hm | hm := List.mem_append.1 hm
      · exact hending segment hm
      · exact hstack segment hm
    · split
      · rename_i drive hdrive
        intro segment hm
        obtain rfl := List.mem_singleton.1 hm
        split at hdrive
        · exact isSpelled_drive hdrive
        · cases hdrive
      · intro segment hm
        obtain rfl | hm := List.mem_cons.1 hm
        · obtain rfl | rfl | hname := hpart
          · exact .inl rfl
          · exact absurd rfl hdots
          · exact .inr ⟨bytes, hname, rfl⟩
        · exact hstack segment hm

theorem pushAll_spelled {stack : Stack} (hstack : ∀ segment ∈ stack.segments, IsSpelled segment)
    (hparts : ∀ part ∈ names, IsPart part) :
    ∀ segment ∈ (stack.pushAll .file (names.map encode)).segments, IsSpelled segment := by
  induction names generalizing stack with
  | nil => exact hstack
  | cons part rest ih =>
    obtain ⟨hpart, hrest⟩ := List.forall_mem_cons.1 hparts
    cases rest with
    | nil => exact push_spelled hstack hpart true
    | cons next rest => exact ih (push_spelled hstack hpart false) hrest

theorem readPath_ne_nil (kind : SchemeKind) (text : List Char) :
    (readPath kind text).segments ≠ [] := by
  unfold readPath
  dsimp only
  generalize (if (kind == SchemeKind.file) = true then _ else _ : List (List Char)) = kept
  cases kept with
  | nil => exact List.cons_ne_nil _ _
  | cons s rest => exact List.cons_ne_nil _ _

theorem readPath_spelled (hne : names ≠ []) (hparts : ∀ part ∈ names, IsPart part) :
    ∀ segment ∈ (readPath .file (spell names)).segments, IsSpelled segment := by
  have hall : ∀ part ∈ [] :: names, IsPart part := List.forall_mem_cons.2 ⟨.inl rfl, hparts⟩
  have hstack : ∀ segment ∈
      (Stack.pushAll ⟨[], false⟩ .file (([] :: names).map encode)).segments, IsSpelled segment :=
    pushAll_spelled (List.forall_mem_nil _) hall
  intro segment hm
  simp only [readPath, takeWhile_spell, split_spell hne, beq_self_eq_true, if_true] at hm
  split at hm
  · exact .inl (List.mem_singleton.1 hm)
  · exact hstack segment (List.mem_reverse.1 ((List.dropWhile_sublist _).subset hm))

theorem isPart_of_mem_parts {cs : List Path.Component} {part : List UInt8}
    (hcs : ∀ c ∈ cs, c = .up ∨ ∃ name, IsName name ∧ c = .named name) (hm : part ∈ parts cs) :
    IsPart part := by
  cases cs with
  | nil => exact .inl (List.mem_singleton.1 hm)
  | cons c cs =>
    obtain ⟨x, hx, rfl⟩ := List.mem_map.1 hm
    obtain rfl | ⟨name, hname, rfl⟩ := hcs x hx
    · exact .inr (.inl rfl)
    · exact .inr (.inr hname)

theorem toPath?_ofPath?_names (h : ofPath? p = some uri) :
    ∃ q, toPath? uri = some q ∧ q.isAbsolute = true ∧ .up ∉ q.components := by
  obtain ⟨cs, hc, -, hcs⟩ := Path.components_eq_root (isAbsolute_of_ofPath? h)
  obtain rfl := Option.some.inj (h.symm.trans (ofPath?_eq hc))
  have hspelled := readPath_spelled (parts_ne_nil cs) fun part hm => isPart_of_mem_parts hcs hm
  generalize hsegments : (readPath .file (spell (parts cs))).segments = segments at hspelled
  have hread :
      segments.flatMap (fun s => Path.slash :: decode s) = below (segments.map decode) := by
    rw [below, List.flatMap_map]
  have hnames (name : List UInt8) (hm : name ∈ segments.map decode) : name = [] ∨ IsName name := by
    obtain ⟨segment, hsegment, rfl⟩ := List.mem_map.1 hm
    exact decode_isSpelled (hspelled segment hsegment)
  have hne : segments.map decode ≠ [] := by
    rw [← hsegments]
    exact fun heq => readPath_ne_nil _ _ (List.map_eq_nil_iff.1 heq)
  have hslash (name : List UInt8) (hm : name ∈ segments.map decode) : Path.slash ∉ name := by
    obtain rfl | hname := hnames name hm
    · exact List.not_mem_nil
    · exact hname.no_slash
  have hcomponents := components_closeDrive_below hne hslash
  refine ⟨_, toPath?_file (parts_ne_nil cs), ?_, ?_⟩
  · rw [hsegments, hread]
    exact Path.isAbsolute_iff.2 ⟨_, hcomponents⟩
  · rw [hsegments, hread, hcomponents]
    intro hm
    obtain hm | hm := List.mem_cons.1 hm
    · cases hm
    · exact Path.not_up_of_names hnames hm

theorem isAbsolute_of_toPath? (h : toPath? s = some p) : p.bytes = [] ∨ p.isAbsolute = true := by
  unfold toPath? at h
  split at h
  · cases h
  split at h
  · cases h
  rename_i segments _
  cases h
  cases segments with
  | nil => exact .inl rfl
  | cons segment segments =>
    refine .inr ?_
    rw [List.flatMap_cons, List.cons_append]
    obtain h | h := closeDrive_cases
      (Path.slash :: (decode segment ++ segments.flatMap fun s => Path.slash :: decode s))
    · rw [h]
      rfl
    · rw [h]
      rfl

theorem ofPath?_isSome (h : p.isAbsolute = true) : ∃ uri, ofPath? p = some uri := by
  obtain ⟨cs, hc⟩ := Path.isAbsolute_iff.1 h
  exact ⟨_, ofPath?_eq hc⟩

def GoesUp (s : String) : Prop := ∃ p, toPath? s = some p ∧ .up ∈ p.components

instance (s : String) : Decidable (GoesUp s) :=
  decidable_of_iff ((toPath? s).any fun p => p.components.contains .up) <| by
    simp [GoesUp, Option.any_eq_true]

/-- A URI is left as it is and does not go up, or it is respelled as the URI of its path. -/
theorem canonical_cases (s : String) :
    (canonical s = s ∧ ¬ GoesUp s) ∨ ∃ p, toPath? s = some p ∧ ofPath? p = some (canonical s) := by
  unfold canonical
  cases hp : toPath? s with
  | none =>
    refine .inl ⟨rfl, ?_⟩
    rintro ⟨p, h, _⟩
    cases hp.symm.trans h
  | some p =>
    obtain hnone | ha := isAbsolute_of_toPath? hp
    · obtain ⟨bytes⟩ := p
      obtain rfl : bytes = [] := hnone
      refine .inl ⟨rfl, ?_⟩
      rintro ⟨p, h, hup⟩
      cases hp.symm.trans h
      cases hup
    · obtain ⟨uri, hu⟩ := ofPath?_isSome ha
      refine .inr ⟨p, rfl, ?_⟩
      rw [Option.bind_some, hu]
      rfl

/-- The canonical spelling of the URI of a path is the URI of a path that does not go up. -/
theorem canonical_ofPath?_names (h : ofPath? p = some uri) :
    ∃ q, ofPath? q = some (canonical uri) ∧ .up ∉ q.components := by
  obtain ⟨q, hq, ha, hup⟩ := toPath?_ofPath?_names h
  obtain ⟨uri', hu⟩ := ofPath?_isSome ha
  refine ⟨q, ?_, hup⟩
  unfold canonical
  rw [hq, Option.bind_some, hu]
  rfl

/-- A canonical spelling is its own canonical spelling exactly if the URI does not go up. -/
theorem canonical_canonical_iff : canonical (canonical s) = canonical s ↔ ¬ GoesUp s := by
  obtain ⟨hs, hup⟩ | ⟨p, hp, hu⟩ := canonical_cases s
  · rw [hs]
    exact iff_of_true hs hup
  · have hgoes : GoesUp s ↔ .up ∈ p.components := by
      refine ⟨?_, fun hup => ⟨p, hp, hup⟩⟩
      rintro ⟨p', hp', hup⟩
      cases hp.symm.trans hp'
      exact hup
    rw [hgoes]
    refine ⟨?_, canonical_ofPath? hu⟩
    intro heq
    obtain ⟨q, hq, hup⟩ := canonical_ofPath?_names hu
    rw [heq] at hq
    rwa [ofPath?_inj hu hq]

/-- The canonical spelling of a canonical spelling is its own canonical spelling. -/
theorem canonical_settles (s : String) :
    canonical (canonical (canonical s)) = canonical (canonical s) := by
  obtain ⟨hs, _⟩ | ⟨p, _, hu⟩ := canonical_cases s
  · rw [hs]
    exact congrArg canonical hs
  · obtain ⟨q, hq, hup⟩ := canonical_ofPath?_names hu
    exact canonical_ofPath? hq hup

end Switchyard.Uri
