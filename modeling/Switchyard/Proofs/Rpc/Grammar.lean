import Mathlib.Data.List.Forall2
import Switchyard.Proofs.Number.Natural
import Switchyard.Proofs.Text.Lines
import Switchyard.Rpc.Frame

namespace Switchyard.Rpc

/-- What stands on a header line before and after its first colon. -/
structure Field where
  name : List Char
  value : List Char

namespace Field

def IsOn (f : Field) (line : List UInt8) : Prop :=
  ∃ text, Text.IsLine line text ∧ Text.trim text = f.name ++ ':' :: f.value ∧ ':' ∉ f.name

def isLength (f : Field) : Bool :=
  (Text.trim f.name).map Char.toLower == "content-length".toList

def HasLength (f : Field) (n : Nat) : Prop :=
  Natural.IsNumeral (Nat.pow 2 64) (Text.trim f.value) n

end Field

/-- Every length among the fields is a numeral, and the last one is that of `n`. -/
def Announces (fields : List Field) (n : Nat) : Prop :=
  ∃ ns, List.Forall₂ Field.HasLength (fields.filter Field.isLength) ns ∧ ns.getLast? = some n

def IsBlankLine (line : List UInt8) : Prop :=
  ∃ text, Text.IsLine line text ∧ Text.trim text = []

/-- Lines of fields and a blank line, which announce a body of `n` bytes. -/
def IsHeader (header : List UInt8) (n : Nat) : Prop :=
  ∃ fields lines blank, header = lines.flatten ++ blank ∧ List.Forall₂ Field.IsOn fields lines ∧
    IsBlankLine blank ∧ Announces fields n

def IsFrame (frame : List UInt8) (value : Json) : Prop :=
  ∃ header body, frame = header ++ body ∧ IsHeader header body.length ∧
    body.length ≤ maxFrameBytes ∧ ∃ text, Text.Utf8.encode text = body ∧
      Json.parse? text = some value

variable {ended started : Bool} {length : Option Nat} {line bytes rest : List UInt8}
  {text : List Char} {n : Nat} {f : Field} {v : Json}

theorem splitColon?_append {key : List Char} (h : ':' ∉ key) (value : List Char) :
    splitColon? (key ++ ':' :: value) = some (key, value) := by
  induction key with
  | nil => rfl
  | cons c key ih =>
    have hc : c ≠ ':' := (List.ne_of_not_mem_cons h).symm
    rw [List.cons_append, splitColon?, ih (List.not_mem_of_not_mem_cons h)]
    · rfl
    · exact hc

theorem of_splitColon? {key value : List Char} (h : splitColon? text = some (key, value)) :
    text = key ++ ':' :: value ∧ ':' ∉ key := by
  induction text generalizing key with
  | nil => cases h
  | cons c text ih =>
    by_cases hc : c = ':'
    · subst hc
      cases h
      exact ⟨rfl, nofun⟩
    · rw [splitColon?] at h
      · obtain ⟨⟨k, v⟩, hs, he⟩ := Option.map_eq_some_iff.1 h
        cases he
        obtain ⟨rfl, hk⟩ := ih hs
        exact ⟨rfl, List.not_mem_cons_of_ne_of_not_mem (Ne.symm hc) hk⟩
      · exact hc

theorem readHeader_field (h : ':' ∉ f.name) :
    readHeader (f.name ++ ':' :: f.value) =
      if f.isLength then
        match Natural.read (Nat.pow 2 64) (Text.trim f.value) with
        | .ok n => .ok (some n)
        | .error e => .error (.invalidLength (Text.trim f.value) e)
      else .ok none := by
  rw [readHeader, splitColon?_append h]
  rfl

theorem Field.hasLength_iff : f.HasLength n ↔
    Natural.read (Nat.pow 2 64) (Text.trim f.value) = .ok n :=
  (Natural.read_eq_ok_iff (by decide)).symm

theorem readHeader_eq_ok_iff (h : ':' ∉ f.name) {said : Option Nat} :
    readHeader (f.name ++ ':' :: f.value) = .ok said ↔
      (f.isLength = true ∧ ∃ n, f.HasLength n ∧ said = some n) ∨
        (f.isLength = false ∧ said = none) := by
  rw [readHeader_field h]
  simp only [Field.hasLength_iff]
  generalize Natural.read (Nat.pow 2 64) (Text.trim f.value) = r
  cases f.isLength with
  | false => simp [eq_comm]
  | true => cases r <;> simp [eq_comm]

theorem readHeader_of_length (h : ':' ∉ f.name) (hf : f.isLength = true) (hn : f.HasLength n) :
    readHeader (f.name ++ ':' :: f.value) = .ok (some n) :=
  (readHeader_eq_ok_iff h).2 (.inl ⟨hf, n, hn, rfl⟩)

theorem readHeader_of_not_length (h : ':' ∉ f.name) (hf : f.isLength = false) :
    readHeader (f.name ++ ':' :: f.value) = .ok none :=
  (readHeader_eq_ok_iff h).2 (.inr ⟨hf, rfl⟩)

theorem scanHeaders_line (h : Text.IsLine line text) (rest : List UInt8) :
    scanHeaders ended started length (line ++ rest) =
      if (Text.trim text).isEmpty then
        match length with
        | some n => .found n rest
        | none => .failed .missingLength
      else
        match readHeader (Text.trim text) with
        | .error e => .failed e
        | .ok said => scanHeaders ended true (said.or length) rest := by
  have hs := h.splitLine rest
  have hd := h.decode
  have he := h.ends
  obtain ⟨b, bs, hb⟩ := List.exists_cons_of_ne_nil (List.append_ne_nil_of_left_ne_nil h.ne_nil rest)
  rw [hb] at hs ⊢
  have hline := scanHeaders.eq_def ended started length (b :: bs)
  simp only [hs, he, hd, bne_self_eq_false, Bool.false_and, Bool.false_eq_true, if_false] at hline
  exact hline

theorem scanHeaders_blank (h : IsBlankLine line) (rest : List UInt8) :
    scanHeaders ended started (some n) (line ++ rest) = .found n rest := by
  obtain ⟨text, hl, ht⟩ := h
  rw [scanHeaders_line hl, ht]
  rfl

theorem scanHeaders_field (h : f.IsOn line) {said : Option Nat}
    (hs : readHeader (f.name ++ ':' :: f.value) = .ok said) (rest : List UInt8) :
    scanHeaders ended started length (line ++ rest) =
      scanHeaders ended true (said.or length) rest := by
  obtain ⟨text, hl, ht, -⟩ := h
  rw [scanHeaders_line hl, ht, hs]
  have hn : (f.name ++ ':' :: f.value).isEmpty = false := by simp
  rw [hn]
  rfl

/-- The length that counts is the last one, and one from before only if there is none. -/
theorem getLast?_cons_or (m : Nat) (ns : List Nat) (length : Option Nat) :
    (m :: ns).getLast?.or length = ns.getLast?.or (some m) := by
  rw [List.getLast?_cons, Option.some_or]
  cases ns.getLast? <;> rfl

theorem scanHeaders_fields {fields : List Field} {lines : List (List UInt8)} {ns : List Nat}
    {blank : List UInt8} (hl : List.Forall₂ Field.IsOn fields lines) (hb : IsBlankLine blank)
    (hn : List.Forall₂ Field.HasLength (fields.filter Field.isLength) ns)
    (hlast : ns.getLast?.or length = some n) (rest : List UInt8) :
    scanHeaders ended started length (lines.flatten ++ (blank ++ rest)) = .found n rest := by
  induction hl generalizing started length ns with
  | nil =>
    cases hn
    have hlast : length = some n := hlast
    rw [hlast]
    exact scanHeaders_blank hb rest
  | @cons f line fields lines hf _ ih =>
    have hc := hf.choose_spec.2.2
    rw [List.flatten_cons, List.append_assoc]
    by_cases hlen : f.isLength = true
    · rw [List.filter_cons_of_pos hlen] at hn
      obtain ⟨m, ns, hm, hns, rfl⟩ := List.forall₂_cons_left_iff.1 hn
      rw [scanHeaders_field hf (readHeader_of_length hc hlen hm)]
      exact ih hns (by rwa [getLast?_cons_or] at hlast)
    · rw [List.filter_cons_of_neg hlen] at hn
      rw [scanHeaders_field hf (readHeader_of_not_length hc (eq_false_of_ne_true hlen))]
      exact ih hn hlast

/-- A header line that can be read is a field, and says what the field says. -/
theorem isOn_of_readHeader (hl : Text.IsLine line text) {said : Option Nat}
    (h : readHeader (Text.trim text) = .ok said) :
    ∃ f : Field, f.IsOn line ∧ readHeader (f.name ++ ':' :: f.value) = .ok said := by
  cases hs : splitColon? (Text.trim text) with
  | none =>
    rw [readHeader, hs] at h
    cases h
  | some parts =>
    obtain ⟨he, hn⟩ := of_splitColon? hs
    exact ⟨⟨parts.1, parts.2⟩, ⟨text, hl, he, hn⟩, he ▸ h⟩

theorem fields_of_scanHeaders (h : scanHeaders ended started length bytes = .found n rest)
    (hr : rest ≠ []) :
    ∃ fields lines blank ns, bytes = lines.flatten ++ (blank ++ rest) ∧
      List.Forall₂ Field.IsOn fields lines ∧ IsBlankLine blank ∧
      List.Forall₂ Field.HasLength (fields.filter Field.isLength) ns ∧
      ns.getLast?.or length = some n := by
  fun_induction scanHeaders ended started length bytes with
  | case6 _ b bs line tail _ text hd trimmed ht m =>
    obtain ⟨hm, ht'⟩ := Scan.found.inj h
    subst hm
    subst ht'
    have hl : Text.IsLine line text := (Text.isLine_splitLine hd).resolve_right hr
    refine ⟨[], [], line, [], ?_, .nil, ⟨text, hl, List.isEmpty_iff.1 ht⟩, .nil, rfl⟩
    exact (Text.splitLine_join (b :: bs)).symm
  | case9 _ length b bs line tail _ text hd trimmed _ said hh ih =>
    have hne : tail ≠ [] :=
      List.ne_nil_of_length_pos (Nat.zero_lt_of_lt (scanHeaders_rest_length h))
    have hl : Text.IsLine line text := (Text.isLine_splitLine hd).resolve_right hne
    obtain ⟨fields, lines, blank, ns, he, hf, hb, hn, hlast⟩ := ih h
    obtain ⟨f, hon, hs⟩ := isOn_of_readHeader hl hh
    have hj : b :: bs = (line :: lines).flatten ++ (blank ++ rest) := by
      rw [List.flatten_cons, List.append_assoc, ← he]
      exact (Text.splitLine_join (b :: bs)).symm
    obtain ⟨hlen, m, hm, rfl⟩ | ⟨hlen, rfl⟩ := (readHeader_eq_ok_iff hon.choose_spec.2.2).1 hs
    · refine ⟨f :: fields, line :: lines, blank, m :: ns, hj, .cons hon hf, hb, ?_, ?_⟩
      · rw [List.filter_cons_of_pos hlen]
        exact .cons hm hn
      · rwa [getLast?_cons_or]
    · refine ⟨f :: fields, line :: lines, blank, ns, hj, .cons hon hf, hb, ?_, hlast⟩
      rwa [List.filter_cons_of_neg (Bool.not_eq_true _ ▸ hlen)]
  | case1 | case2 | case3 | case4 | case5 | case7 | case8 => cases h

theorem scanHeaders_header {header : List UInt8} (h : IsHeader header n) (rest : List UInt8) :
    scanHeaders ended started none (header ++ rest) = .found n rest := by
  obtain ⟨fields, lines, blank, rfl, hf, hb, ns, hn, hlast⟩ := h
  rw [List.append_assoc]
  apply scanHeaders_fields hf hb hn
  rw [hlast, Option.some_or]

theorem isHeader_of_scanHeaders (h : scanHeaders ended started none bytes = .found n rest)
    (hr : rest ≠ []) : ∃ header, IsHeader header n ∧ bytes = header ++ rest := by
  obtain ⟨fields, lines, blank, ns, he, hf, hb, hn, hlast⟩ := fields_of_scanHeaders h hr
  rw [Option.or_none] at hlast
  refine ⟨lines.flatten ++ blank, ⟨fields, lines, blank, rfl, hf, hb, ns, hn, hlast⟩, ?_⟩
  rw [he, List.append_assoc]

theorem scanBody_eq_found_iff : scanBody ended n bytes = .found v rest ↔
    n ≤ maxFrameBytes ∧ ∃ text, (Text.Utf8.encode text).length = n ∧
      bytes = Text.Utf8.encode text ++ rest ∧ Json.parse? text = some v := by
  constructor
  · intro h
    have hrest := scanBody_rest h
    unfold scanBody at h
    split at h
    · cases h
    · rename_i hn
      split at h
      · split at h <;> cases h
      · rename_i hlen
        split at h
        · rename_i j hp
          obtain ⟨text, hd, hj⟩ := Option.bind_eq_some_iff.1 hp
          have he := Text.Utf8.decode?_eq_some_iff.1 hd
          cases h
          refine ⟨Nat.le_of_not_lt hn, text, ?_, ?_, hj⟩
          · rw [he]
            have := List.length_take_le n bytes
            omega
          · rw [he, List.take_append_drop]
        · cases h
  · rintro ⟨hn, text, rfl, rfl, hp⟩
    have htake : (Text.Utf8.encode text ++ rest).take (Text.Utf8.encode text).length =
        Text.Utf8.encode text := List.take_left
    have hdrop : (Text.Utf8.encode text ++ rest).drop (Text.Utf8.encode text).length = rest :=
      List.drop_left
    simp [scanBody, htake, hdrop, Nat.not_lt.2 hn, hp]

theorem encode_ne_nil_of_parse? (h : Json.parse? text = some v) : Text.Utf8.encode text ≠ [] := by
  intro he
  rw [Text.Utf8.encode_eq_nil_iff.1 he] at h
  cases h

theorem scan_eq_found_iff_headers : scan ended bytes = .found v rest ↔
    ∃ n tail, scanHeaders ended false none bytes = .found n tail ∧
      scanBody ended n tail = .found v rest := by
  unfold scan
  cases scanHeaders ended false none bytes <;> simp

/-- A frame is found just if one stands at the front, and what follows it is left. -/
theorem scan_eq_found_iff : scan ended bytes = .found v rest ↔
    ∃ frame, IsFrame frame v ∧ bytes = frame ++ rest := by
  rw [scan_eq_found_iff_headers]
  constructor
  · rintro ⟨n, tail, hh, hb⟩
    obtain ⟨hn, text, rfl, rfl, hp⟩ := scanBody_eq_found_iff.1 hb
    have hne := List.append_ne_nil_of_left_ne_nil (encode_ne_nil_of_parse? hp) rest
    obtain ⟨header, hheader, rfl⟩ := isHeader_of_scanHeaders hh hne
    refine ⟨header ++ Text.Utf8.encode text, ⟨header, _, rfl, hheader, hn, text, rfl, hp⟩, ?_⟩
    rw [List.append_assoc]
  · rintro ⟨frame, ⟨header, body, rfl, hheader, hn, text, rfl, hp⟩, rfl⟩
    refine ⟨(Text.Utf8.encode text).length, Text.Utf8.encode text ++ rest, ?_, ?_⟩
    · rw [List.append_assoc]
      exact scanHeaders_header hheader _
    · exact scanBody_eq_found_iff.2 ⟨hn, text, rfl, rfl, hp⟩

theorem IsFrame.ne_nil {frame : List UInt8} (h : IsFrame frame v) : frame ≠ [] := by
  obtain ⟨header, body, rfl, -, -, text, rfl, hp⟩ := h
  exact List.append_ne_nil_of_right_ne_nil header (encode_ne_nil_of_parse? hp)

theorem scanHeaders_finished (h : scanHeaders ended started length bytes = .finished) :
    bytes = [] ∧ started = false := by
  fun_induction scanHeaders ended started length bytes with
  | case3 _ _ _ hs => exact ⟨rfl, eq_false_of_ne_true hs⟩
  | case9 _ _ _ _ _ _ _ _ _ _ _ _ _ ih => cases (ih h).2
  | case1 | case2 | case4 | case5 | case6 | case7 | case8 => cases h

theorem scanHeaders_ne_unfinished : scanHeaders true started length bytes ≠ .unfinished := by
  fun_induction scanHeaders true started length bytes with
  | case9 _ _ _ _ _ _ _ _ _ _ _ _ _ ih => exact ih
  | case1 _ _ h => cases h
  | case4 _ _ _ _ _ h => simp at h
  | case2 | case3 | case5 | case6 | case7 | case8 =>
    intro h
    cases h

theorem scan_finished_iff : scan true bytes = .finished ↔ bytes = [] := by
  constructor
  · intro h
    unfold scan at h
    split at h
    · unfold scanBody at h
      repeat' split at h
      all_goals cases h
    · rename_i hh
      exact (scanHeaders_finished hh).1
    · cases h
    · cases h
  · rintro rfl
    simp [scan, scanHeaders]

theorem scan_ne_unfinished : scan true bytes ≠ .unfinished := by
  unfold scan
  split
  · unfold scanBody
    repeat' split
    all_goals simp_all
  · intro h
    cases h
  · rename_i hh
    exact absurd hh scanHeaders_ne_unfinished
  · intro h
    cases h

theorem scan_failed_iff : (∃ e, scan true bytes = .failed e) ↔
    bytes ≠ [] ∧ ¬ ∃ frame v rest, IsFrame frame v ∧ bytes = frame ++ rest := by
  have hfound : (∃ frame v rest, IsFrame frame v ∧ bytes = frame ++ rest) ↔
      ∃ v rest, scan true bytes = .found v rest := by
    simp only [scan_eq_found_iff]
    grind
  rw [hfound, Ne, ← scan_finished_iff]
  cases h : scan true bytes with
  | found v rest => simp
  | finished => simp
  | unfinished => exact absurd h scan_ne_unfinished
  | failed e => simp

end Switchyard.Rpc
