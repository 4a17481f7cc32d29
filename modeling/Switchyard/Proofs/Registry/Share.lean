import Mathlib.Data.List.Count
import Switchyard.Proofs.Registry.Errands

namespace Switchyard

section Lists

variable {α : Type} {l l' : List α} {p : α → Bool} {i j : Nat} {x : α}

theorem getElem?_filter_countPBefore (hx : l[i]? = some x) (hp : p x = true) :
    (l.filter p)[l.countPBefore p i]? = some x := by
  induction l generalizing i with
  | nil => cases hx
  | cons y l ih =>
    cases i with
    | zero =>
      cases hx
      simp [hp]
    | succ i =>
      rw [List.getElem?_cons_succ] at hx
      by_cases hy : p y = true
      · simp [hy, ih hx]
      · simp [hy, ih hx]

theorem filter_set_of_pos (hx : l[i]? = some x) (hp : p x = true) {y : α} (hy : p y = true) :
    (l.set i y).filter p = (l.filter p).set (l.countPBefore p i) y := by
  induction l generalizing i with
  | nil => cases hx
  | cons z l ih =>
    cases i with
    | zero =>
      cases hx
      simp [hp, hy]
    | succ i =>
      rw [List.getElem?_cons_succ] at hx
      by_cases hz : p z = true
      · simp [hz, ih hx]
      · simp [hz, ih hx]

theorem filter_set_of_neg (hx : l[i]? = some x) (hp : p x = false) {y : α} (hy : p y = false) :
    (l.set i y).filter p = l.filter p := by
  induction l generalizing i with
  | nil => cases hx
  | cons z l ih =>
    cases i with
    | zero =>
      cases hx
      simp [hp, hy]
    | succ i =>
      rw [List.getElem?_cons_succ] at hx
      simp [List.filter_cons, ih hx]

theorem countPBefore_congr (h : ∀ j < i, (l'[j]?).any p = (l[j]?).any p) :
    l'.countPBefore p i = l.countPBefore p i := by
  induction i with
  | zero => simp
  | succ i ih =>
    have hsucc (l : List α) : l.countPBefore p (i + 1) =
        l.countPBefore p i + if (l[i]?).any p then 1 else 0 := by
      rw [List.countPBefore_eq_countP_take, List.countPBefore_eq_countP_take, List.take_add_one,
        List.countP_append]
      cases l[i]? <;> simp
    rw [hsucc, hsucc, ih fun j hj => h j (Nat.lt_succ_of_lt hj), h i (Nat.lt_succ_self i)]

theorem countPBefore_inj {y : α} (hx : l[i]? = some x) (hp : p x = true) (hy : l[j]? = some y)
    (hq : p y = true) (h : l.countPBefore p i = l.countPBefore p j) : i = j := by
  obtain ⟨hi, rfl⟩ := List.getElem?_eq_some_iff.1 hx
  obtain ⟨hj, rfl⟩ := List.getElem?_eq_some_iff.1 hy
  rw [← List.findIdxNth_countPBefore_of_lt_length_of_pos hp, h,
    List.findIdxNth_countPBefore_of_lt_length_of_pos hq]

theorem filter_filterMap_eq {β : Type} {f : α → Option β} {q : β → Bool}
    (h : ∀ (i : Nat) (x : α) (y : β), l[i]? = some x → f x = some y → q y = (i == j)) :
    (l.filterMap f).filter q = (l[j]?).toList.filterMap f := by
  induction l generalizing j with
  | nil => rfl
  | cons x l ih =>
    cases j with
    | zero =>
      have hnone : (l.filterMap f).filter q = [] := by
        apply List.filter_eq_nil_iff.2
        intro y hy
        obtain ⟨z, hz, hfz⟩ := List.mem_filterMap.1 hy
        obtain ⟨i, hi⟩ := List.mem_iff_getElem?.1 hz
        simp [h (i + 1) z y hi hfz]
      cases hfx : f x with
      | none => simp [hfx, hnone]
      | some y => simp [hfx, hnone, h 0 x y rfl hfx]
    | succ j =>
      have htail : (l.filterMap f).filter q = (l[j]?).toList.filterMap f := by
        refine ih fun i z y hi hfz => ?_
        simpa using h (i + 1) z y hi hfz
      cases hfx : f x with
      | none => simp [hfx, htail]
      | some y => simp [hfx, htail, h 0 x y rfl hfx]

namespace Kept

variable {R : α → α → Prop}

theorem countPBefore (h : Kept R l l') (hp : ∀ x y, R x y → p y = p x) (hi : i ≤ l.length) :
    l'.countPBefore p i = l.countPBefore p i := by
  apply countPBefore_congr
  intro j hj
  have hx := List.getElem?_eq_getElem (Nat.lt_of_lt_of_le hj hi)
  obtain ⟨y, hy, hxy⟩ := h j _ hx
  rw [hx, hy, Option.any_some, Option.any_some, hp _ _ hxy]

end Kept

end Lists

/-- How the start attempts and the handles of an entry are numbered among themselves, and which
handles are its own. -/
structure Numbering where
  entry : Nat
  attempt : Nat → Nat
  handle : Nat → Nat
  owns : Nat → Bool

namespace Numbering

variable (N : Numbering)

def ofState : SlotState → SlotState
  | .notStarted => .notStarted
  | .starting a => .starting (N.attempt a)
  | .started h => .started (N.handle h)

def ofSlot (x : Slot) : Slot := { x with state := N.ofState x.state }

def ofEntry (x : Entry) : Entry := { x with slot := N.ofSlot x.slot }

def ofAttempt (x : StartAttempt) : StartAttempt :=
  ⟨0, x.generation, x.outcome.map (·.map N.handle)⟩

def ofOutcome : DeliveryOutcome → DeliveryOutcome
  | .accepted h => .accepted (N.handle h)
  | outcome => outcome

def ofStage : DeliveryStage → DeliveryStage
  | .begun => .begun
  | .starting a => .starting (N.attempt a)
  | .sending h notice => .sending (N.handle h) notice
  | .done outcome => .done (N.ofOutcome outcome)

def ofDelivery (d : Delivery) : Delivery := ⟨0, N.ofStage d.stage⟩

def deliveries (ds : List Delivery) : List Delivery :=
  (ds.filter (·.entry == N.entry)).map N.ofDelivery

def handles (hs : List Nat) : List Nat := (hs.filter N.owns).map N.handle

def event? : RegistryEvent → Option RegistryEvent
  | .spawning e => if e == N.entry then some (.spawning 0) else none
  | .startFailed e error => if e == N.entry then some (.startFailed 0 error) else none
  | .exited h => if N.owns h then some (.exited (N.handle h)) else none
  | .shutdownAll => some .shutdownAll
  | .accepted t h notice => if N.owns h then some (.accepted t (N.handle h) notice) else none
  | .shuttingDown h => if N.owns h then some (.shuttingDown (N.handle h)) else none
  | .disposed h => if N.owns h then some (.disposed (N.handle h)) else none

/-- A registry without the other entries, and with the tasks, the locks and the hub of another
one. -/
def only (r s : Registry) : Registry :=
  { r with
    entries := (r.entries[N.entry]?).toList.map N.ofEntry
    attempts := (r.attempts.filter (·.entry == N.entry)).map N.ofAttempt
    handles := (r.handles.filter (·.entry == N.entry)).map ({ · with entry := 0 })
    history := r.history.filterMap N.event?
    tasks := s.tasks
    locks := s.locks
    hub := s.hub }

structure Fits (r : Registry) : Prop where
  attempt {a : Nat} : a ≤ r.attempts.length →
    N.attempt a = r.attempts.countPBefore (·.entry == N.entry) a
  handle {h : Nat} : h ≤ r.handles.length →
    N.handle h = r.handles.countPBefore (·.entry == N.entry) h
  owns {h : Nat} {handle : Handle} : r.handles[h]? = some handle →
    N.owns h = (handle.entry == N.entry)

end Numbering

namespace Registry

variable {r r' s : Registry} {N : Numbering} {t a h e : Nat}

/-- The numbers that an entry's start attempts and handles have among themselves. -/
def numbering (r : Registry) (e : Nat) : Numbering where
  entry := e
  attempt := r.attempts.countPBefore (·.entry == e)
  handle := r.handles.countPBefore (·.entry == e)
  owns h := (r.handles[h]?).any (·.entry == e)

theorem numbering_fits (r : Registry) (e : Nat) : (r.numbering e).Fits r where
  attempt _ := rfl
  handle _ := rfl
  owns hh := by simp [numbering, hh]

def addHandle (r : Registry) (handle : Handle) : Registry :=
  { r with handles := r.handles ++ [handle] }

end Registry

namespace Numbering

variable {r r' s : Registry} {N : Numbering} {t a h e : Nat}

theorem Fits.before (hf : N.Fits r') (hb : Servers.Before r.servers r'.servers) : N.Fits r where
  attempt := by
    intro a ha
    have hk : Kept StartAttempt.Before r.attempts r'.attempts := hb.attempts
    rw [hf.attempt (Nat.le_trans ha hk.length_le)]
    exact hk.countPBefore (fun x y hxy => by rw [hxy.1]) ha
  handle := by
    intro h hh
    have hk : Kept Handle.Before r.handles r'.handles := hb.handles
    rw [hf.handle (Nat.le_trans hh hk.length_le)]
    exact hk.countPBefore (fun x y hxy => by rw [hxy.1]) hh
  owns := by
    intro h handle hh
    obtain ⟨handle', hh', he, _⟩ := hb.handles h handle hh
    rw [hf.owns hh', he]

theorem entry_only {entry : Entry} (he : r.entries[N.entry]? = some entry) :
    (N.only r s).entries[0]? = some (N.ofEntry entry) := by
  simp [only, he]

theorem handle?_ofEntry (x : Entry) : (N.ofEntry x).handle? = x.handle?.map N.handle := by
  have hs : (N.ofEntry x).slot.state = N.ofState x.slot.state := rfl
  simp only [Entry.handle?, hs]
  cases x.slot.state <;> rfl

theorem only_modifyEntry_of {f f' : Entry → Entry}
    (hf : ∀ x, N.ofEntry (f x) = f' (N.ofEntry x)) :
    N.only (r.modifyEntry N.entry f) s = (N.only r s).modifyEntry 0 f' := by
  simp only [only, Registry.modifyEntry, List.getElem?_modify_eq]
  cases r.entries[N.entry]? with
  | none => rfl
  | some x => simp [hf x]

theorem only_modifyEntry {f : Entry → Entry} (hf : ∀ x, N.ofEntry (f x) = f (N.ofEntry x)) :
    N.only (r.modifyEntry N.entry f) s = (N.only r s).modifyEntry 0 f :=
  only_modifyEntry_of hf

theorem only_modifyEntry_other (f : Entry → Entry) (hne : e ≠ N.entry) :
    N.only (r.modifyEntry e f) s = N.only r s := by
  simp only [only, Registry.modifyEntry, List.getElem?_modify_ne _ _ hne]

theorem only_note {event event' : RegistryEvent} (he : N.event? event = some event') :
    N.only (r.note event) s = (N.only r s).note event' := by
  simp only [only, Registry.note, List.filterMap_cons, he]

theorem only_note_other {event : RegistryEvent} (he : N.event? event = none) :
    N.only (r.note event) s = N.only r s := by
  simp only [only, Registry.note, List.filterMap_cons, he]

theorem Fits.attempt_only (hf : N.Fits r) {attempt : StartAttempt}
    (ha : r.attempts[a]? = some attempt) (he : attempt.entry = N.entry) :
    (N.only r s).attempts[N.attempt a]? = some (N.ofAttempt attempt) := by
  have hl := (List.getElem?_eq_some_iff.1 ha).1
  have hp := getElem?_filter_countPBefore (p := (·.entry == N.entry)) ha (beq_iff_eq.2 he)
  rw [hf.attempt (Nat.le_of_lt hl)]
  simp only [only, List.getElem?_map, hp, Option.map_some]

theorem Fits.handle_only (hf : N.Fits r) {handle : Handle}
    (hh : r.handles[h]? = some handle) (he : handle.entry = N.entry) :
    (N.only r s).handles[N.handle h]? = some { handle with entry := 0 } := by
  have hl := (List.getElem?_eq_some_iff.1 hh).1
  have hp := getElem?_filter_countPBefore (p := (·.entry == N.entry)) hh (beq_iff_eq.2 he)
  rw [hf.handle (Nat.le_of_lt hl)]
  simp only [only, List.getElem?_map, hp, Option.map_some]

theorem Fits.length_attempts (hf : N.Fits r) :
    N.attempt r.attempts.length = (N.only r s).attempts.length := by
  rw [hf.attempt (Nat.le_refl _), List.countPBefore_length]
  simp only [only, List.length_map, List.countP_eq_length_filter]

theorem Fits.length_handles (hf : N.Fits r) :
    N.handle r.handles.length = (N.only r s).handles.length := by
  rw [hf.handle (Nat.le_refl _), List.countPBefore_length]
  simp only [only, List.length_map, List.countP_eq_length_filter]

theorem ofEntry_addOpened (x : Entry) (uri : String) :
    N.ofEntry (x.addOpened uri) = (N.ofEntry x).addOpened uri := by
  have ho : (N.ofEntry x).opened = x.opened := rfl
  simp only [Entry.addOpened, ho]
  split <;> rfl

theorem only_arrive (errand : Errand) (entry : Entry) (h : Nat) :
    (N.only r s).arrive errand 0 (N.ofEntry entry) (N.handle h) =
      (N.only (r.arrive errand N.entry entry h).1 s,
        N.ofStage (r.arrive errand N.entry entry h).2) := by
  have hadd (uri : String) : N.only (r.modifyEntry N.entry (·.addOpened uri)) s =
      (N.only r s).modifyEntry 0 (·.addOpened uri) :=
    only_modifyEntry (ofEntry_addOpened · uri)
  have hremove (uri : String) : N.only (r.modifyEntry N.entry (·.removeOpened uri)) s =
      (N.only r s).modifyEntry 0 (·.removeOpened uri) :=
    only_modifyEntry fun _ => rfl
  have ho : (N.ofEntry entry).opened = entry.opened := rfl
  cases errand with
  | start => rfl
  | opening uri language text =>
    simp only [Registry.arrive, hadd]
    rfl
  | changing uri language text version =>
    simp only [Registry.arrive, ho]
    split
    · rfl
    · simp only [hadd]
      rfl
  | closing uri =>
    simp only [Registry.arrive, ho]
    split
    · simp only [hremove]
      rfl
    · rfl
  | telling method params => rfl

theorem only_arrive_other (errand : Errand) (entry : Entry) (h : Nat) (hne : e ≠ N.entry) :
    N.only (r.arrive errand e entry h).1 s = N.only r s := by
  cases errand with
  | opening uri language text => exact only_modifyEntry_other _ hne
  | changing uri language text version =>
    simp only [Registry.arrive]
    split
    · rfl
    · exact only_modifyEntry_other _ hne
  | closing uri =>
    simp only [Registry.arrive]
    split
    · exact only_modifyEntry_other _ hne
    · rfl
  | _ => rfl

theorem only_beginAttempt (hf : N.Fits r) (entry : Entry) :
    N.only (r.beginAttempt N.entry entry) s =
      (N.only r s).beginAttempt 0 (N.ofEntry entry) := by
  let attempt : StartAttempt := ⟨N.entry, entry.slot.generation + 1, none⟩
  let slot : Slot := ⟨.starting r.attempts.length, entry.slot.generation + 1, entry.slot.unusable⟩
  have happend : N.only { r with attempts := r.attempts ++ [attempt] } s =
      { N.only r s with
        attempts := (N.only r s).attempts ++ [⟨0, entry.slot.generation + 1, none⟩] } := by
    simp [only, attempt, ofAttempt]
  have hn : N.event? (.spawning N.entry) = some (.spawning 0) := by simp [event?]
  have hs (r : Registry) : N.only (r.modifyEntry N.entry ({ · with slot })) s =
      (N.only r s).modifyEntry 0 ({ · with slot := N.ofSlot slot }) :=
    only_modifyEntry_of fun _ => rfl
  simp only [Registry.beginAttempt]
  rw [only_note hn, hs, happend]
  simp only [slot, ofSlot, ofState, hf.length_attempts (s := s)]
  rfl

theorem only_beginAttempt_other (entry : Entry) (hne : e ≠ N.entry) :
    N.only (r.beginAttempt e entry) s = N.only r s := by
  have hn : N.event? (.spawning e) = none := by simp [event?, hne]
  simp only [Registry.beginAttempt]
  rw [only_note_other hn, only_modifyEntry_other _ hne]
  simp [only, hne]

theorem seek_of_not_closing {errand : Errand} (hc : ∀ uri, errand ≠ .closing uri) (e : Nat)
    (entry : Entry) :
    r.seek errand e entry =
      if entry.slot.unusable then (r, .done (.failed (.unusable entry.config.id)))
      else
        match entry.slot.state with
        | .started h => r.arrive errand e entry h
        | .starting a => (r, .starting a)
        | .notStarted => (r.beginAttempt e entry, .starting r.attempts.length) := by
  unfold Registry.seek
  split
  · exact absurd rfl (hc _)
  · rfl

theorem only_seek (hf : N.Fits r) (errand : Errand) (entry : Entry) :
    (N.only r s).seek errand 0 (N.ofEntry entry) =
      (N.only (r.seek errand N.entry entry).1 s, N.ofStage (r.seek errand N.entry entry).2) := by
  have hu : (N.ofEntry entry).slot.unusable = entry.slot.unusable := rfl
  have hs : (N.ofEntry entry).slot.state = N.ofState entry.slot.state := rfl
  have hh := handle?_ofEntry (N := N) entry
  by_cases hc : ∃ uri, errand = .closing uri
  · obtain ⟨uri, rfl⟩ := hc
    simp only [Registry.seek, hh]
    cases entry.handle? with
    | none => rfl
    | some h => exact only_arrive _ entry h
  · have hc (uri : String) : errand ≠ .closing uri := fun h => hc ⟨uri, h⟩
    rw [seek_of_not_closing hc, seek_of_not_closing hc, hu, hs]
    cases entry.slot.unusable with
    | true => rfl
    | false =>
      cases entry.slot.state with
      | notStarted =>
        simp only [ofState, Bool.false_eq_true, if_false, only_beginAttempt hf, ofStage,
          hf.length_attempts (s := s)]
      | starting a => rfl
      | started h => exact only_arrive errand entry h

theorem only_seek_other (errand : Errand) (entry : Entry) (hne : e ≠ N.entry) :
    N.only (r.seek errand e entry).1 s = N.only r s := by
  unfold Registry.seek
  split
  · split
    · exact only_arrive_other _ _ _ hne
    · rfl
  · split
    · rfl
    · split
      · exact only_arrive_other _ _ _ hne
      · rfl
      · exact only_beginAttempt_other entry hne

theorem only_advance (hf : N.Fits r) {errand : Errand} {d : Delivery} {entry : Entry}
    (hd : r.DeliveryFits errand d.entry d.stage) (he : d.entry = N.entry) :
    (N.only r s).advance errand (N.ofDelivery d) (N.ofEntry entry) =
      (N.only (r.advance errand d entry).1 s, N.ofStage (r.advance errand d entry).2) := by
  obtain ⟨e, stage⟩ := d
  cases he
  cases stage with
  | begun => exact only_seek hf errand entry
  | starting a =>
    obtain ⟨attempt, ha, he⟩ := hd
    have ha' := hf.attempt_only (s := s) ha he
    simp only [Registry.advance, ofDelivery, ofStage, ha, ha', Option.bind_some, ofAttempt]
    cases attempt.outcome with
    | none => rfl
    | some outcome =>
      cases outcome with
      | error error => rfl
      | ok h => exact only_arrive errand entry h
  | _ => rfl

theorem only_advance_other (errand : Errand) {d : Delivery} (entry : Entry)
    (hne : d.entry ≠ N.entry) : N.only (r.advance errand d entry).1 s = N.only r s := by
  unfold Registry.advance
  split
  · exact only_seek_other errand entry hne
  · split
    · rfl
    · exact only_arrive_other errand entry _ hne
    · rfl
  · rfl

theorem only_sent (hf : N.Fits r) (hs : r.Serves N.entry h) (t : Nat) (notice : Notice)
    (accepted : Bool) :
    (N.only r s).sent t 0 (N.handle h) notice accepted =
      (N.only (r.sent t N.entry h notice accepted).1 s,
        N.ofStage (r.sent t N.entry h notice accepted).2) := by
  obtain ⟨handle, hh, he, _⟩ := hs
  have hh' := hf.handle_only (s := s) hh he
  have hn : N.event? (.accepted t h notice) = some (.accepted t (N.handle h) notice) := by
    simp [event?, hf.owns hh, he]
  have hremove (uri : String) : N.only (r.modifyEntry N.entry (·.removeOpened uri)) s =
      (N.only r s).modifyEntry 0 (·.removeOpened uri) :=
    only_modifyEntry fun _ => rfl
  simp only [Registry.sent, hh, hh', Option.map_some]
  split
  · rw [only_note hn]
    rfl
  · cases notice with
    | didOpen uri language version text =>
      simp only [hremove]
      rfl
    | _ => rfl

theorem only_sent_other (hf : N.Fits r) (hs : r.Serves e h) (hne : e ≠ N.entry) (t : Nat)
    (notice : Notice) (accepted : Bool) :
    N.only (r.sent t e h notice accepted).1 s = N.only r s := by
  obtain ⟨handle, hh, he, _⟩ := hs
  have hn : N.event? (.accepted t h notice) = none := by
    simp [event?, hf.owns hh, he, hne]
  simp only [Registry.sent]
  split
  · exact only_note_other hn
  · cases notice with
    | didOpen uri language version text => exact only_modifyEntry_other _ hne
    | _ => rfl

theorem only_set_handle (hf : N.Fits r) {handle : Handle} (hh : r.handles[h]? = some handle)
    (he : handle.entry = N.entry) (new : Handle) (hn : new.entry = N.entry) :
    N.only { r with handles := r.handles.set h new } s =
      { N.only r s with
        handles := (N.only r s).handles.set (N.handle h) { new with entry := 0 } } := by
  have hl := (List.getElem?_eq_some_iff.1 hh).1
  have hp (x : Handle) (hx : x.entry = N.entry) : (x.entry == N.entry) = true := beq_iff_eq.2 hx
  have hset := filter_set_of_pos (p := (·.entry == N.entry)) hh (hp handle he) (hp new hn)
  simp only [only, hf.handle (Nat.le_of_lt hl), hset, List.map_set]

theorem only_set_handle_other {handle : Handle} (hh : r.handles[h]? = some handle)
    (he : handle.entry ≠ N.entry) (new : Handle) (hn : new.entry ≠ N.entry) :
    N.only { r with handles := r.handles.set h new } s = N.only r s := by
  have hp (x : Handle) (hx : x.entry ≠ N.entry) : (x.entry == N.entry) = false :=
    beq_eq_false_iff_ne.2 hx
  have hset := filter_set_of_neg (p := (·.entry == N.entry)) hh (hp handle he) (hp new hn)
  simp only [only, hset]

theorem only_dispose (hf : N.Fits r) {handle : Handle} (hh : r.handles[h]? = some handle)
    (he : handle.entry = N.entry) :
    N.only (r.dispose h) s = (N.only r s).dispose (N.handle h) := by
  have hh' := hf.handle_only (s := s) hh he
  have hn : N.event? (.disposed h) = some (.disposed (N.handle h)) := by
    simp [event?, hf.owns hh, he]
  simp only [Registry.dispose, hh, hh']
  split
  · rfl
  · rw [only_note hn, only_set_handle hf hh he { handle with disposed := true } he]

theorem only_dispose_other (hf : N.Fits r) {handle : Handle} (hh : r.handles[h]? = some handle)
    (hne : handle.entry ≠ N.entry) : N.only (r.dispose h) s = N.only r s := by
  have hn : N.event? (.disposed h) = none := by
    simp [event?, hf.owns hh, hne]
  simp only [Registry.dispose, hh]
  split
  · rfl
  · rw [only_note_other hn, only_set_handle_other hh hne { handle with disposed := true } hne]

theorem only_exit (hf : N.Fits r) (hi : r.servers.Sound) {handle : Handle}
    (hh : r.handles[h]? = some handle) (he : handle.entry = N.entry) :
    N.only (r.exit h) s = (N.only r s).exit (N.handle h) := by
  have hh' := hf.handle_only (s := s) hh he
  simp only [Registry.exit, hh, hh', he]
  cases hent : r.entries[N.entry]? with
  | none => simp [only, hent]
  | some entry =>
    have hent' := entry_only (s := s) hent
    have hst : (N.ofEntry entry).slot.state = N.ofState entry.slot.state := rfl
    have hg : (N.ofEntry entry).slot.generation = entry.slot.generation := rfl
    simp only [hent', hst, hg]
    split
    · cases hstate : entry.slot.state with
      | started i =>
        have hi' := hi.started (Registry.slot_of_entry hent) hstate
        let r' := (r.modifyEntry N.entry fun e =>
          { e.withState .notStarted with opened := [] }).note (.exited i)
        have hf' : N.Fits r' := ⟨hf.attempt, hf.handle, hf.owns⟩
        have hn : N.event? (.exited i) = some (.exited (N.handle i)) := by
          simp [event?, hf.owns hi']
        have hd : N.only (r'.dispose i) s = (N.only r' s).dispose (N.handle i) :=
          only_dispose hf' hi' rfl
        simp only [ofState]
        rw [hd, only_note hn, only_modifyEntry]
        exact fun _ => rfl
      | _ => rfl
    · rfl

theorem only_exit_other (hf : N.Fits r) (hi : r.servers.Sound) {handle : Handle}
    (hh : r.handles[h]? = some handle) (hne : handle.entry ≠ N.entry) :
    N.only (r.exit h) s = N.only r s := by
  simp only [Registry.exit, hh]
  split
  · rfl
  · rename_i entry hent
    split
    · cases hstate : entry.slot.state with
      | started i =>
        have hi' := hi.started (Registry.slot_of_entry hent) hstate
        let r' := (r.modifyEntry handle.entry fun e =>
          { e.withState .notStarted with opened := [] }).note (.exited i)
        have hf' : N.Fits r' := ⟨hf.attempt, hf.handle, hf.owns⟩
        have hn : N.event? (.exited i) = none := by
          simp [event?, hf.owns hi', hne]
        have hd : N.only (r'.dispose i) s = N.only r' s := only_dispose_other hf' hi' hne
        dsimp only
        rw [hd, only_note_other hn, only_modifyEntry_other _ hne]
      | _ => rfl
    · rfl

theorem modify_of_getElem? {α : Type} {l : List α} {i : Nat} {x : α} (hx : l[i]? = some x)
    (f : α → α) : l.modify i f = l.set i (f x) := by
  rw [List.modify_eq_set_getElem?, hx]
  rfl

theorem only_endAttempt (hf : N.Fits r) {attempt : StartAttempt}
    (ha : r.attempts[a]? = some attempt) (he : attempt.entry = N.entry)
    (outcome : Except ServerError Nat) :
    N.only (r.endAttempt a outcome) s =
      (N.only r s).endAttempt (N.attempt a) (outcome.map N.handle) := by
  have hl := (List.getElem?_eq_some_iff.1 ha).1
  have ha' := hf.attempt_only (s := s) ha he
  have hp (x : StartAttempt) (hx : x.entry = N.entry) : (x.entry == N.entry) = true :=
    beq_iff_eq.2 hx
  have hset := filter_set_of_pos (p := (·.entry == N.entry)) ha (hp attempt he)
    (hp { attempt with outcome := some outcome } he)
  simp only [Registry.endAttempt, modify_of_getElem? ha, modify_of_getElem? ha']
  simp only [only, hf.attempt (Nat.le_of_lt hl), hset, List.map_set]
  rfl

theorem only_endAttempt_other {attempt : StartAttempt} (ha : r.attempts[a]? = some attempt)
    (hne : attempt.entry ≠ N.entry) (outcome : Except ServerError Nat) :
    N.only (r.endAttempt a outcome) s = N.only r s := by
  have hp (x : StartAttempt) (hx : x.entry ≠ N.entry) : (x.entry == N.entry) = false :=
    beq_eq_false_iff_ne.2 hx
  have hset := filter_set_of_neg (p := (·.entry == N.entry)) ha (hp attempt hne)
    (hp { attempt with outcome := some outcome } hne)
  simp only [Registry.endAttempt, modify_of_getElem? ha]
  simp only [only, hset]

theorem only_failAttempt (hf : N.Fits r) {attempt : StartAttempt}
    (ha : r.attempts[a]? = some attempt) (he : attempt.entry = N.entry) (current : Bool)
    (error : ServerError) :
    N.only (r.failAttempt a attempt current error) s =
      (N.only r s).failAttempt (N.attempt a) (N.ofAttempt attempt) current error := by
  have hend := only_endAttempt (s := s) hf ha he (.error error)
  have hn : N.event? (.startFailed attempt.entry error) = some (.startFailed 0 error) := by
    simp [event?, he]
  cases current with
  | false => exact hend
  | true =>
    simp only [Registry.failAttempt, if_true]
    rw [only_note hn, he, only_modifyEntry, hend]
    · rfl
    · exact fun _ => rfl

theorem only_failAttempt_other {attempt : StartAttempt} (ha : r.attempts[a]? = some attempt)
    (hne : attempt.entry ≠ N.entry) (current : Bool) (error : ServerError) :
    N.only (r.failAttempt a attempt current error) s = N.only r s := by
  have hend := only_endAttempt_other (s := s) ha hne (.error error)
  have hn : N.event? (.startFailed attempt.entry error) = none := by
    simp [event?, hne]
  cases current with
  | false => exact hend
  | true =>
    simp only [Registry.failAttempt, if_true]
    rw [only_note_other hn, only_modifyEntry_other _ hne, hend]

theorem only_addHandle {handle : Handle} (he : handle.entry = N.entry) :
    N.only (r.addHandle handle) s = (N.only r s).addHandle { handle with entry := 0 } := by
  simp [only, Registry.addHandle, he]

theorem only_addHandle_other {handle : Handle} (hne : handle.entry ≠ N.entry) :
    N.only (r.addHandle handle) s = N.only r s := by
  simp [only, Registry.addHandle, hne]

theorem install_current (r : Registry) (a : Nat) (attempt : StartAttempt) (id : String) :
    r.install a attempt id true false =
      ((r.endAttempt a (.ok r.handles.length)).addHandle
        ⟨attempt.entry, attempt.generation, true, false⟩).modifyEntry attempt.entry fun e =>
          { e.withState (.started r.handles.length) with opened := [] } := rfl

theorem install_late (r : Registry) (a : Nat) (attempt : StartAttempt) (id : String)
    (exited : Bool) :
    r.install a attempt id false exited =
      ((r.endAttempt a (.error (.transport id "registry shut down during startup"))).addHandle
        ⟨attempt.entry, attempt.generation, false, true⟩).note (.disposed r.handles.length) := by
  simp only [Registry.install, Bool.false_eq_true, if_false, Registry.dispose_last]
  rfl

theorem only_install_current (hf : N.Fits r) {attempt : StartAttempt}
    (ha : r.attempts[a]? = some attempt) (he : attempt.entry = N.entry) (id : String) :
    N.only (r.install a attempt id true false) s =
      (N.only r s).install (N.attempt a) (N.ofAttempt attempt) id true false := by
  have hend := only_endAttempt (s := s) hf ha he (.ok r.handles.length)
  have hs (r : Registry) (h : Nat) :
      N.only (r.modifyEntry N.entry fun e => { e.withState (.started h) with opened := [] }) s =
        (N.only r s).modifyEntry 0 fun e =>
          { e.withState (.started (N.handle h)) with opened := [] } :=
    only_modifyEntry_of fun _ => rfl
  rw [install_current, install_current, he, hs, only_addHandle rfl, hend]
  simp only [Except.map, hf.length_handles (s := s)]
  rfl

theorem only_install_late (hf : N.Fits r) {attempt : StartAttempt}
    (ha : r.attempts[a]? = some attempt) (he : attempt.entry = N.entry)
    (ho : N.owns r.handles.length = true) (id : String) (exited : Bool) :
    N.only (r.install a attempt id false exited) s =
      (N.only r s).install (N.attempt a) (N.ofAttempt attempt) id false exited := by
  have hend := only_endAttempt (s := s) hf ha he
    (.error (.transport id "registry shut down during startup"))
  have hn : N.event? (.disposed r.handles.length) =
      some (.disposed (N.only r s).handles.length) := by
    simp [event?, ho, hf.length_handles (s := s)]
  rw [install_late, install_late, only_note hn, he, only_addHandle rfl, hend]
  rfl

theorem only_install_other {attempt : StartAttempt} (ha : r.attempts[a]? = some attempt)
    (hne : attempt.entry ≠ N.entry) (ho : N.owns r.handles.length = false) (id : String)
    (current : Bool) :
    N.only (r.install a attempt id current false) s = N.only r s := by
  cases current with
  | true =>
    rw [install_current, only_modifyEntry_other _ hne]
    exact (only_addHandle_other hne).trans (only_endAttempt_other ha hne _)
  | false =>
    have hn : N.event? (.disposed r.handles.length) = none := by simp [event?, ho]
    rw [install_late, only_note_other hn]
    exact (only_addHandle_other hne).trans (only_endAttempt_other ha hne _)

theorem handle_install (r : Registry) (a : Nat) (attempt : StartAttempt) (id : String)
    (current : Bool) :
    (r.install a attempt id current false).handles[r.handles.length]? =
      some ⟨attempt.entry, attempt.generation, current, !current⟩ := by
  cases current with
  | true => exact List.getElem?_concat_length
  | false =>
    rw [install_late]
    exact List.getElem?_concat_length

section Install

variable {attempt : StartAttempt} {entry : Entry} (ha : r.attempts[a]? = some attempt)
variable (ho : attempt.outcome = none) (he : r.entries[attempt.entry]? = some entry)

include ha ho he

theorem only_install (id : String) {current : Bool}
    (hc : (entry.slot.generation == attempt.generation) = current)
    (hf : N.Fits (r.install a attempt id current false)) :
    N.only (r.install a attempt id current false) s =
      if attempt.entry = N.entry then
        (N.only r s).install (N.attempt a) (N.ofAttempt attempt) id current false
      else N.only r s := by
  have hs := Registry.servers_install ha ho he id
  rw [hc] at hs
  have hfr := hf.before (Servers.Changes.steps (.single hs)).before
  have hown := hf.owns (handle_install r a attempt id current)
  split
  · rename_i heq
    cases current with
    | true => exact only_install_current hfr ha heq id
    | false => exact only_install_late hfr ha heq (hown.trans (beq_iff_eq.2 heq)) id false
  · rename_i hne
    exact only_install_other ha hne (hown.trans (beq_eq_false_iff_ne.2 hne)) id current

/-- A server that is over at once leaves nothing behind but the numbers of its own entry. -/
theorem only_install_exited (hi : r.servers.Sound) (id : String) {current : Bool}
    (hc : (entry.slot.generation == attempt.generation) = current)
    (hf : N.Fits (r.install a attempt id current true)) :
    N.only (r.install a attempt id current true) s =
      if attempt.entry = N.entry then
        (N.only r s).install (N.attempt a) (N.ofAttempt attempt) id current true
      else N.only r s := by
  have hs := Registry.servers_install ha ho he id
  rw [hc] at hs
  rw [Registry.install_exited] at hf ⊢
  rw [Registry.install_exited]
  cases current with
  | false => exact only_install ha ho he id hc hf
  | true =>
    simp only [if_true] at hf ⊢
    have hexit : Servers.Changes _ _ :=
      (Registry.servers_exit (r.install a attempt id true false) r.handles.length).to_reflTransGen
    have hf' := hf.before hexit.steps.before
    have hi' := hi.change hs
    have hh := handle_install r a attempt id true
    have hfr := hf'.before (Servers.Changes.steps (.single hs)).before
    have hinstall := only_install (s := s) ha ho he id hc hf'
    split
    · rename_i heq
      rw [if_pos heq] at hinstall
      rw [only_exit hf' hi' hh heq, hinstall, hfr.length_handles (s := s)]
    · rename_i hne
      rw [if_neg hne] at hinstall
      rw [only_exit_other hf' hi' hh hne, hinstall]

end Install

theorem only_spawned (hr : r.Reachable) {attempt : StartAttempt} {outcome : SpawnOutcome}
    (hf : N.Fits (r.spawned a outcome)) (ha : r.attempts[a]? = some attempt)
    (ho : attempt.outcome = none) :
    N.only (r.spawned a outcome) s =
      if attempt.entry = N.entry then (N.only r s).spawned (N.attempt a) outcome
      else N.only r s := by
  have hfr := hf.before (Registry.servers_spawned r a outcome).steps.before
  obtain ⟨slot, hs, _⟩ := hr.sound.attempt ha
  simp only [Registry.servers, List.getElem?_map] at hs
  obtain ⟨entry, he, _⟩ := Option.map_eq_some_iff.1 hs
  by_cases heq : attempt.entry = N.entry
  · have ha' := hfr.attempt_only (s := s) ha heq
    have he' := entry_only (s := s) (heq ▸ he)
    have ho' : (N.ofAttempt attempt).outcome = none := by simp [ofAttempt, ho]
    have hz : (N.ofAttempt attempt).entry = 0 := rfl
    rw [if_pos heq]
    simp only [Registry.spawned, ha, he, ho, ha', hz, he', ho'] at hf ⊢
    cases outcome with
    | running exited =>
      cases exited with
      | false => exact (only_install ha ho he _ rfl hf).trans (if_pos heq)
      | true => exact (only_install_exited ha ho he hr.sound _ rfl hf).trans (if_pos heq)
    | failed error => exact only_failAttempt hfr ha heq _ error
    | timedOut => exact only_failAttempt hfr ha heq _ _
  · rw [if_neg heq]
    simp only [Registry.spawned, ha, he, ho] at hf ⊢
    cases outcome with
    | running exited =>
      cases exited with
      | false => exact (only_install ha ho he _ rfl hf).trans (if_neg heq)
      | true => exact (only_install_exited ha ho he hr.sound _ rfl hf).trans (if_neg heq)
    | failed error => exact only_failAttempt_other ha heq _ error
    | timedOut => exact only_failAttempt_other ha heq _ _

theorem state_of_handle? {x : Entry} (hh : x.handle? = some h) : x.slot.state = .started h := by
  unfold Entry.handle? at hh
  split at hh
  · rename_i hs
    rw [hs, Option.some.inj hh]
  · cases hh

theorem handles_installed (hf : N.Fits r) (hi : r.servers.Sound) :
    N.handles (r.entries.filterMap Entry.handle?) =
      (N.only r s).entries.filterMap Entry.handle? := by
  have hown (i : Nat) (x : Entry) (h : Nat) (hx : r.entries[i]? = some x)
      (hh : x.handle? = some h) : N.owns h = (i == N.entry) := by
    have hs := hi.started (Registry.slot_of_entry hx) (state_of_handle? hh)
    exact hf.owns hs
  rw [handles, filter_filterMap_eq hown]
  simp only [only]
  cases r.entries[N.entry]? with
  | none => rfl
  | some x => cases hx : x.handle? <;> simp [handle?_ofEntry, hx]

theorem filterMap_event?_shuttingDown (hs : List Nat) :
    (hs.map RegistryEvent.shuttingDown).filterMap N.event? =
      (N.handles hs).map .shuttingDown := by
  induction hs with
  | nil => rfl
  | cons h hs ih =>
    rw [handles] at ih ⊢
    cases ho : N.owns h <;> simp [event?, ho, ih]

theorem only_takeAll (hf : N.Fits r) (hi : r.servers.Sound) :
    (N.only r s).takeAll = (N.only (r.takeAll).1 s, N.handles (r.takeAll).2) := by
  rw [Registry.takeAll_eq, Registry.takeAll_eq, ← handles_installed hf hi]
  simp only [only, List.filterMap_append, List.filterMap_reverse, filterMap_event?_shuttingDown,
    List.filterMap_cons, event?, List.getElem?_map]
  cases r.entries[N.entry]? with
  | none => rfl
  | some x => rfl

end Numbering

end Switchyard
