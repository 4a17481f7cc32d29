import Switchyard.Proofs.Registry.Turns

namespace Switchyard

namespace Turns

variable {x y : Turns} {events : List TurnEvent} {t u : Nat} {uri uri' : String}
variable {stage : TurnStage}

@[simp] theorem locks_stand (stage : Option (String × TurnStage)) :
    (x.stand t stage).locks = x.locks := rfl

@[simp] theorem versions_stand (stage : Option (String × TurnStage)) :
    (x.stand t stage).versions = x.versions := rfl

theorem lookup_write (x : Turns) (uri uri' : String) (event : DocumentEvent) :
    (x.write uri event).versions.lookup uri' =
      if uri' = uri then event.version (x.versions.lookup uri) else x.versions.lookup uri' := by
  have hf := lookup_filter_bne x.versions uri uri'
  cases h : event.version (x.versions.lookup uri) with
  | none =>
    simp only [write, h, Option.map_none, Option.toList_none, List.nil_append]
    exact hf
  | some v =>
    simp only [write, h, Option.map_some, Option.toList_some, List.singleton_append,
      List.lookup_cons, hf]
    by_cases heq : uri' = uri
    · simp [heq]
    · simp [heq, beq_false_of_ne heq]

/-- How locks, versions and what tasks do with them fit together. -/
structure Fits (x : Turns) : Prop where
  locks : x.locks.WellFormed
  wants {t : Nat} {uri : String} :
    t ∈ x.locks.wanting uri ↔ ∃ stage, x.stages[t]? = some (some (uri, stage))
  first {t : Nat} {uri : String} {stage : TurnStage} :
    x.stages[t]? = some (some (uri, stage)) → stage.isWaiting = false →
      (x.locks.wanting uri).head? = some t
  /-- A document whose servers are being told of it is open. -/
  written {t : Nat} {uri : String} : x.stages[t]? = some (some (uri, .telling)) →
    (x.versions.lookup uri).isSome
  /-- A lock that nobody wants is that of an open document. -/
  kept {uri : String} {l : Nat} : x.locks.lock? uri = some l → x.locks.wanting uri = [] →
    (x.versions.lookup uri).isSome

namespace Fits

theorem first_of_has (hx : x.Fits) (hs : x.stages[t]? = some (some (uri, stage)))
    (hl : x.locks.has t = true) : (x.locks.wanting uri).head? = some t := by
  obtain ⟨uri', hu⟩ := hx.locks.has_iff.1 hl
  obtain ⟨stage', hs'⟩ := hx.wants.1 (List.mem_of_mem_head? hu)
  cases hs.symm.trans hs'
  exact hu

theorem exclusive {stage' : TurnStage} (hx : x.Fits)
    (hs : x.stages[t]? = some (some (uri, stage))) (hw : stage.isWaiting = false)
    (hs' : x.stages[u]? = some (some (uri, stage'))) (hw' : stage'.isWaiting = false) : t = u :=
  Option.some.inj ((hx.first hs hw).symm.trans (hx.first hs' hw'))

/-- A task that has its lock stands at the head of the queue, and nowhere else. -/
theorem queue_of_first (hx : x.Fits) (hf : (x.locks.wanting uri).head? = some t) :
    ∃ rest, x.locks.wanting uri = t :: rest ∧ t ∉ rest := by
  obtain ⟨rest, hq⟩ := List.head?_eq_some_iff.1 hf
  refine ⟨rest, hq, ?_⟩
  have hn := hx.locks.wanting_nodup uri
  rw [hq] at hn
  exact (List.nodup_cons.1 hn).1

theorem not_wanting (hx : x.Fits) (hs : x.stages[t]? = some none) (uri : String) :
    t ∉ x.locks.wanting uri := by
  intro hm
  obtain ⟨stage, hs'⟩ := hx.wants.1 hm
  cases hs.symm.trans hs'

theorem not_queued (hx : x.Fits) (hs : x.stages[t]? = some none) (l : Nat) :
    t ∉ x.locks.queue l := by
  intro hm
  obtain ⟨uri, hu⟩ := hx.locks.used hm
  exact hx.not_wanting hs uri (DocumentLocks.mem_wanting.2 ⟨l, hu, hm⟩)

theorem call (hx : x.Fits) : Fits { x with stages := x.stages ++ [none] } where
  locks := hx.locks
  wants := by
    intro t uri
    rw [hx.wants]
    constructor
    · rintro ⟨stage, h⟩
      exact ⟨stage, getElem?_append_of_some h⟩
    · rintro ⟨stage, h⟩
      obtain ⟨_, h⟩ | h := getElem?_concat_cases h
      · cases h
      · exact ⟨stage, h⟩
  first := by
    intro t uri stage h hw
    obtain ⟨_, h⟩ | h := getElem?_concat_cases h
    · cases h
    · exact hx.first h hw
  written := by
    intro t uri h
    obtain ⟨_, h⟩ | h := getElem?_concat_cases h
    · cases h
    · exact hx.written h
  kept := hx.kept

theorem ask (hx : x.Fits) (hs : x.stages[t]? = some none) (event : DocumentEvent)
    (uri : String) :
    Fits ({ x with locks := x.locks.request t uri }.stand t (some (uri, .waiting event))) where
  locks := hx.locks.request (hx.not_queued hs) uri
  wants := by
    intro u uri'
    rw [locks_stand, hx.locks.wanting_request]
    by_cases hut : u = t
    · subst hut
      have hnew := getElem?_set_of_some (x := some (uri, TurnStage.waiting event)) hs
      constructor
      · intro hm
        split at hm
        · rename_i heq
          subst heq
          exact ⟨_, hnew⟩
        · exact absurd hm (hx.not_wanting hs uri')
      · rintro ⟨stage, h⟩
        cases hnew.symm.trans h
        rw [if_pos rfl]
        exact List.mem_append_right _ (List.mem_singleton_self u)
    · have hold : u ∈ (if uri' = uri then x.locks.wanting uri ++ [t] else x.locks.wanting uri') ↔
          u ∈ x.locks.wanting uri' := by
        split
        · rename_i heq
          rw [heq, List.mem_append, List.mem_singleton]
          exact or_iff_left hut
        · rfl
      rw [hold, hx.wants, stand, List.getElem?_set_ne (Ne.symm hut)]
  first := by
    intro u uri' stage h hw
    obtain ⟨_, heq⟩ | ⟨_, h⟩ := getElem?_set_cases h
    · cases heq
      cases hw
    · have hold := hx.first h hw
      rw [locks_stand, hx.locks.wanting_request]
      split
      · rename_i heq
        subst heq
        rw [List.head?_append, hold]
        rfl
      · exact hold
  written := by
    intro u uri' h
    obtain ⟨_, heq⟩ | ⟨_, h⟩ := getElem?_set_cases h
    · cases heq
    · exact hx.written h
  kept := by
    intro uri' l hl hq
    rw [locks_stand, hx.locks.wanting_request] at hq
    rw [locks_stand, DocumentLocks.lock?_request] at hl
    split at hq
    · cases List.append_eq_nil_iff.1 hq |>.2
    · rename_i hne
      rw [if_neg hne] at hl
      exact hx.kept hl hq

/-- A task that has its lock goes on, and may give its document another version. -/
theorem move {versions : List (String × Int32)} {new : TurnStage} (hx : x.Fits)
    (hs : x.stages[t]? = some (some (uri, stage)))
    (hf : (x.locks.wanting uri).head? = some t)
    (hv : ∀ uri', uri' ≠ uri → versions.lookup uri' = x.versions.lookup uri')
    (hn : new = .telling → (versions.lookup uri).isSome) :
    Fits ({ x with versions := versions }.stand t (some (uri, new))) where
  locks := hx.locks
  wants := by
    intro u uri'
    rw [locks_stand, hx.wants]
    obtain rfl | hut := eq_or_ne u t
    · have hnew := getElem?_set_of_some (x := some (uri, new)) hs
      constructor
      · rintro ⟨stage', h⟩
        cases hs.symm.trans h
        exact ⟨_, hnew⟩
      · rintro ⟨stage', h⟩
        cases hnew.symm.trans h
        exact ⟨stage, hs⟩
    · rw [stand, List.getElem?_set_ne hut.symm]
  first := by
    intro u uri' stage' h hw
    obtain ⟨rfl, heq⟩ | ⟨_, h⟩ := getElem?_set_cases h
    · cases heq
      exact hf
    · exact hx.first h hw
  written := by
    intro u uri' h
    obtain ⟨_, heq⟩ | ⟨hut, h⟩ := getElem?_set_cases h
    · cases heq
      exact hn rfl
    · have hold : x.stages[u]? = some (some (uri', .telling)) := h
      have hne : uri' ≠ uri := by
        rintro rfl
        exact hut (Option.some.inj ((hx.first hold rfl).symm.trans hf))
      rw [versions_stand, hv uri' hne]
      exact hx.written h
  kept := by
    intro uri' l hl hq
    have hne : uri' ≠ uri := by
      rintro rfl
      rw [locks_stand] at hq
      rw [hq] at hf
      cases hf
    rw [versions_stand, hv uri' hne]
    exact hx.kept hl hq

theorem wanting_release (hx : x.Fits) (hs : x.stages[t]? = some (some (uri, stage)))
    (hf : (x.locks.wanting uri).head? = some t) (uri' : String) :
    (x.locks.release t).wanting uri' =
      if uri' = uri then (x.locks.wanting uri).drop 1 else x.locks.wanting uri' := by
  rw [DocumentLocks.wanting_release]
  by_cases heq : uri' = uri
  · subst heq
    rw [if_pos hf, if_pos rfl]
  · rw [if_neg heq, if_neg]
    intro hf'
    obtain ⟨stage', hs'⟩ := hx.wants.1 (List.mem_of_mem_head? hf')
    cases hs.symm.trans hs'
    exact heq rfl

/-- A task gives up its lock, and its document needs none any more or is open. -/
theorem letGo {locks : DocumentLocks} (hx : x.Fits)
    (hs : x.stages[t]? = some (some (uri, stage))) (hw : stage.isWaiting = false)
    (hl : locks.WellFormed) (hq : ∀ uri', locks.wanting uri' = (x.locks.release t).wanting uri')
    (hk : ∀ uri' l, locks.lock? uri' = some l → x.locks.lock? uri' = some l)
    (ho : ∀ l, locks.lock? uri = some l → locks.wanting uri = [] →
      (x.versions.lookup uri).isSome) :
    Fits ({ x with locks := locks }.stand t none) := by
  have hf := hx.first hs hw
  obtain ⟨rest, hrest, hm⟩ := hx.queue_of_first hf
  have hq' (uri' : String) : locks.wanting uri' =
      if uri' = uri then rest else x.locks.wanting uri' := by
    rw [hq, hx.wanting_release hs hf, hrest, List.drop_one, List.tail_cons]
  have hold {u : Nat} {uri' : String} (hut : u ≠ t) :
      u ∈ locks.wanting uri' ↔ u ∈ x.locks.wanting uri' := by
    rw [hq']
    split
    · rename_i heq
      rw [heq, hrest, List.mem_cons]
      exact (or_iff_right hut).symm
    · rfl
  constructor
  case locks => exact hl
  case wants =>
    intro u uri'
    obtain rfl | hut := eq_or_ne u t
    · have hnew := getElem?_set_of_some (x := none) hs
      constructor
      · intro hmem
        rw [locks_stand, hq'] at hmem
        split at hmem
        · exact absurd hmem hm
        · rename_i hne
          obtain ⟨stage', hs'⟩ := hx.wants.1 hmem
          cases hs.symm.trans hs'
          exact absurd rfl hne
      · rintro ⟨stage', h⟩
        cases hnew.symm.trans h
    · rw [locks_stand, hold hut, hx.wants, stand, List.getElem?_set_ne hut.symm]
  case first =>
    intro u uri' stage' h hw'
    obtain ⟨_, heq⟩ | ⟨hut, h⟩ := getElem?_set_cases h
    · cases heq
    · rw [locks_stand, hq']
      split
      · rename_i heq
        subst heq
        exact absurd (hx.exclusive h hw' hs hw) hut
      · exact hx.first h hw'
  case written =>
    intro u uri' h
    obtain ⟨_, heq⟩ | ⟨_, h⟩ := getElem?_set_cases h
    · cases heq
    · exact hx.written h
  case kept =>
    intro uri' l hlock hempty
    obtain rfl | hne := eq_or_ne uri' uri
    · exact ho l hlock hempty
    · rw [locks_stand, hq', if_neg hne] at hempty
      exact hx.kept (hk uri' l hlock) hempty

theorem letGo_drop (hx : x.Fits) (hs : x.stages[t]? = some (some (uri, stage)))
    (hw : stage.isWaiting = false) :
    Fits ({ x with locks := (x.locks.release t).drop uri }.stand t none) := by
  refine hx.letGo hs hw ((hx.locks.release t).drop uri) ?_ ?_ ?_
  · intro uri'
    exact DocumentLocks.wanting_drop _ _ _
  · intro uri' l hl
    rw [DocumentLocks.lock?_drop] at hl
    split at hl
    · cases hl
    · exact hl
  · intro l hl hq
    rw [DocumentLocks.wanting_drop] at hq
    rw [DocumentLocks.lock?_drop, if_pos ⟨rfl, hq⟩] at hl
    cases hl

theorem step (hx : x.Fits) (h : Step x events y) : y.Fits := by
  cases h with
  | call => exact hx.call
  | @ask t uri event hs => exact hx.ask hs event uri
  | take hs hl => exact hx.move hs (hx.first_of_has hs hl) (fun _ _ => rfl) nofun
  | @close t uri hs hl =>
    refine hx.move hs (hx.first_of_has hs hl) ?_ nofun
    intro uri' hne
    exact (lookup_write x uri uri' .closed).trans (if_neg hne)
  | @write t uri event he hs =>
    refine hx.move hs (hx.first hs rfl) ?_ fun _ => ?_
    · intro uri' hne
      exact (lookup_write x uri uri' event).trans (if_neg hne)
    · have hv := (lookup_write x uri uri event).trans (if_pos rfl)
      simp only [write] at hv
      rw [hv]
      cases event with
      | opened => rfl
      | changed => cases x.versions.lookup uri <;> rfl
      | closed => exact absurd rfl he
  | giveUp hs => exact hx.letGo_drop hs rfl
  | leave hs =>
    refine hx.letGo hs rfl (hx.locks.release _) (fun _ => rfl) (fun _ _ h => h) ?_
    intro _ _ _
    exact hx.written hs
  | forget hs => exact hx.letGo_drop hs rfl

theorem trace (hx : x.Fits) (h : Trace x events y) : y.Fits := by
  induction h with
  | refl => exact hx
  | tail _ hs ih => exact ih.step hs

end Fits

/-- The tasks that want the lock of a document and stand at a stage that meets a condition, in the
order of the queue. -/
def standing (x : Turns) (p : TurnStage → Bool) (uri : String) : List Nat :=
  (x.locks.wanting uri).filter fun t => (x.stages[t]?).any (·.any (p ·.2))

theorem standing_congr {p : TurnStage → Bool} (hq : y.locks.wanting uri = x.locks.wanting uri)
    (hs : ∀ u ∈ x.locks.wanting uri, y.stages[u]? = x.stages[u]?) :
    y.standing p uri = x.standing p uri := by
  rw [standing, standing, hq]
  apply List.filter_congr
  intro u hu
  rw [hs u hu]

@[simp] theorem stages_stand (s : Option (String × TurnStage)) :
    (x.stand t s).stages = x.stages.set t s := rfl

theorem stages_stand_of_ne {s : Option (String × TurnStage)} (hne : u ≠ t) :
    (x.stand t s).stages[u]? = x.stages[u]? :=
  List.getElem?_set_ne hne.symm

namespace Fits

theorem ne_of_wanting (hx : x.Fits) (hs : x.stages[t]? = some (some (uri, stage)))
    (hne : uri' ≠ uri) (hu : u ∈ x.locks.wanting uri') : u ≠ t := by
  rintro rfl
  obtain ⟨stage', hs'⟩ := hx.wants.1 hu
  cases hs.symm.trans hs'
  exact hne rfl

theorem standing_ask (hx : x.Fits) (hs : x.stages[t]? = some none) (event : DocumentEvent)
    (p : TurnStage → Bool) (uri uri' : String) :
    ({ x with locks := x.locks.request t uri }.stand t (some (uri, .waiting event))).standing p
        uri' =
      x.standing p uri' ++ if uri' = uri ∧ p (.waiting event) = true then [t] else [] := by
  have hnew := getElem?_set_of_some (x := some (uri, TurnStage.waiting event)) hs
  have hold (uri' : String) : (x.locks.wanting uri').filter (fun u =>
      ((x.stand t (some (uri, .waiting event))).stages[u]?).any (·.any (p ·.2))) =
        x.standing p uri' := by
    apply List.filter_congr
    intro u hu
    have hne : u ≠ t := by
      rintro rfl
      exact hx.not_wanting hs uri' hu
    rw [stages_stand_of_ne hne]
  rw [standing, locks_stand, hx.locks.wanting_request]
  split
  · rename_i heq
    subst heq
    rw [List.filter_append]
    refine congr (congrArg _ (hold uri')) ?_
    rw [List.filter_singleton, stages_stand, hnew]
    simp
  · rename_i hne
    rw [if_neg fun hc => hne hc.1, List.append_nil]
    exact hold uri'

theorem standing_move {new : TurnStage} (hx : x.Fits)
    (hs : x.stages[t]? = some (some (uri, stage)))
    (hf : (x.locks.wanting uri).head? = some t) (hl : y.locks = x.locks)
    (hy : y.stages = x.stages.set t (some (uri, new))) (p : TurnStage → Bool) :
    ∃ others, x.standing p uri = (if p stage then [t] else []) ++ others ∧
      y.standing p uri = (if p new then [t] else []) ++ others := by
  obtain ⟨rest, hq, hm⟩ := hx.queue_of_first hf
  refine ⟨rest.filter fun u => (x.stages[u]?).any (·.any (p ·.2)), ?_, ?_⟩
  · rw [standing, hq, List.filter_cons, hs]
    simp only [Option.any_some]
    split <;> rfl
  · have hrest : rest.filter (fun u => (y.stages[u]?).any (·.any (p ·.2))) =
        rest.filter fun u => (x.stages[u]?).any (·.any (p ·.2)) := by
      apply List.filter_congr
      intro u hu
      rw [hy, List.getElem?_set_ne (ne_of_mem_of_not_mem hu hm).symm]
    rw [standing, hl, hq, List.filter_cons, hrest, hy, getElem?_set_of_some hs]
    simp only [Option.any_some]
    split <;> rfl

theorem standing_move_of_ne {s : Option (String × TurnStage)} (hx : x.Fits)
    (hs : x.stages[t]? = some (some (uri, stage))) (hl : y.locks = x.locks)
    (hy : y.stages = x.stages.set t s) (p : TurnStage → Bool) (hne : uri' ≠ uri) :
    y.standing p uri' = x.standing p uri' := by
  refine standing_congr (by rw [hl]) fun u hu => ?_
  rw [hy, List.getElem?_set_ne (hx.ne_of_wanting hs hne hu).symm]

theorem standing_letGo {locks : DocumentLocks} (hx : x.Fits)
    (hs : x.stages[t]? = some (some (uri, stage))) (hw : stage.isWaiting = false)
    (hq : ∀ uri', locks.wanting uri' = (x.locks.release t).wanting uri') (p : TurnStage → Bool) :
    x.standing p uri = (if p stage then [t] else []) ++
        ({ x with locks := locks }.stand t none).standing p uri ∧
      ∀ uri', uri' ≠ uri →
        ({ x with locks := locks }.stand t none).standing p uri' = x.standing p uri' := by
  have hf := hx.first hs hw
  obtain ⟨rest, hrest, hm⟩ := hx.queue_of_first hf
  constructor
  · have hnew : ({ x with locks := locks }.stand t none).standing p uri =
        rest.filter fun u => (x.stages[u]?).any (·.any (p ·.2)) := by
      rw [standing, locks_stand, hq, hx.wanting_release hs hf, if_pos rfl, hrest, List.drop_one,
        List.tail_cons]
      apply List.filter_congr
      intro u hu
      rw [stages_stand_of_ne (ne_of_mem_of_not_mem hu hm)]
    rw [hnew, standing, hrest, List.filter_cons, hs]
    simp only [Option.any_some]
    split <;> rfl
  · intro uri' hne
    refine standing_congr ?_ fun u hu => ?_
    · rw [locks_stand, hq, hx.wanting_release hs hf, if_neg hne]
    · exact stages_stand_of_ne (x := { x with locks := locks }) (hx.ne_of_wanting hs hne hu)

theorem standing_reading (hx : x.Fits) (hs : x.stages[t]? = some (some (uri, stage)))
    (hf : (x.locks.wanting uri).head? = some t) :
    x.standing TurnStage.isReading uri = if stage.isReading then [t] else [] := by
  obtain ⟨rest, hq, hm⟩ := hx.queue_of_first hf
  have hrest :
      rest.filter (fun u => (x.stages[u]?).any (·.any (TurnStage.isReading ·.2))) = [] := by
    rw [List.filter_eq_nil_iff]
    intro u hu hread
    obtain ⟨stage', hs'⟩ := hx.wants.1 (hq ▸ List.mem_cons_of_mem t hu)
    rw [hs'] at hread
    have hw : stage'.isWaiting = false := by
      cases stage' with
      | waiting event => cases hread
      | _ => rfl
    have heq := Option.some.inj ((hx.first hs' hw).symm.trans hf)
    exact hm (heq ▸ hu)
  rw [standing, hq, List.filter_cons, hs, hrest]
  rfl

end Fits

/-- How a task that has its lock goes on, the turn it takes and the version it writes. -/
inductive Move (t : Nat) :
    TurnStage → TurnStage → List Nat → List (Nat × DocumentEvent) → Prop
  | take (event : DocumentEvent) : Move t (.waiting event) (.reading event) [t] []
  | close : Move t (.waiting .closed) .closing [t] [(t, .closed)]
  | write (event : DocumentEvent) : Move t (.reading event) .telling [] [(t, event)]

/-- What a step makes of the queue of one document: who has asked for a turn there, who has taken
one, and which versions have been written. -/
inductive Effect (x y : Turns) (uri : String) :
    List Nat → List Nat → List (Nat × DocumentEvent) → Prop
  | none (hs : ∀ p, y.standing p uri = x.standing p uri) : Effect x y uri [] [] []
  | asked (t : Nat) (event : DocumentEvent)
      (hs : ∀ p, y.standing p uri =
        x.standing p uri ++ if p (.waiting event) then [t] else []) :
      Effect x y uri [t] [] []
  | moved {t : Nat} {old new : TurnStage} {taken : List Nat} {wrote : List (Nat × DocumentEvent)}
      (hs : ∀ p, ∃ others, x.standing p uri = (if p old then [t] else []) ++ others ∧
        y.standing p uri = (if p new then [t] else []) ++ others)
      (hr : x.standing TurnStage.isReading uri = if old.isReading then [t] else [])
      (hm : Move t old new taken wrote) :
      Effect x y uri [] taken wrote
  | left (t : Nat) {old : TurnStage} (hw : old.isWaiting = false)
      (hs : ∀ p, x.standing p uri = (if p old then [t] else []) ++ y.standing p uri) :
      Effect x y uri [] [] []

namespace Fits

theorem effect_elsewhere {z : Turns} {new : Option (String × TurnStage)} (hx : x.Fits)
    (hs : x.stages[t]? = some (some (uri', stage))) (hl : z.locks = x.locks)
    (hz : z.stages = x.stages.set t new) (hne : uri ≠ uri') : Effect x z uri [] [] [] :=
  .none fun p => hx.standing_move_of_ne hs hl hz p hne

theorem effect_left {locks : DocumentLocks} (hx : x.Fits)
    (hs : x.stages[t]? = some (some (uri', stage))) (hw : stage.isWaiting = false)
    (hq : ∀ uri, locks.wanting uri = (x.locks.release t).wanting uri) (uri : String) :
    Effect x ({ x with locks := locks }.stand t Option.none) uri [] [] [] := by
  by_cases heq : uri = uri'
  · subst heq
    exact .left t hw fun p => (hx.standing_letGo hs hw hq p).1
  · exact .none fun p => (hx.standing_letGo hs hw hq p).2 uri heq

theorem effect_moved {new : TurnStage} {z : Turns} {taken : List Nat}
    {wrote : List (Nat × DocumentEvent)} (hx : x.Fits)
    (hs : x.stages[t]? = some (some (uri, stage)))
    (hf : (x.locks.wanting uri).head? = some t) (hl : z.locks = x.locks)
    (hz : z.stages = x.stages.set t (some (uri, new))) (hm : Move t stage new taken wrote) :
    Effect x z uri [] taken wrote :=
  .moved (fun p => hx.standing_move hs hf hl hz p) (hx.standing_reading hs hf) hm

end Fits

theorem Step.effect (hx : x.Fits) (h : Step x events y) (uri : String) :
    Effect x y uri (events.filterMap (TurnEvent.asked? uri))
      (events.filterMap (TurnEvent.taken? uri)) (events.filterMap (TurnEvent.wrote? uri)) := by
  cases h with
  | call =>
    refine .none fun p => standing_congr rfl fun u hu => ?_
    obtain ⟨stage, hs⟩ := hx.wants.1 hu
    rw [hs]
    exact getElem?_append_of_some hs
  | @ask t uri' event hs =>
    have hnew := fun p => hx.standing_ask hs event p uri' uri
    simp only [List.filterMap_cons, List.filterMap_nil, TurnEvent.asked?, TurnEvent.taken?,
      TurnEvent.wrote?]
    by_cases heq : uri = uri'
    · subst heq
      simp only [true_and] at hnew
      rw [if_pos rfl]
      exact .asked t event hnew
    · simp only [heq, false_and, if_false, List.append_nil] at hnew
      rw [if_neg (Ne.symm heq)]
      exact .none hnew
  | @take t uri' event hs hl =>
    simp only [List.filterMap_cons, List.filterMap_nil, TurnEvent.asked?, TurnEvent.taken?,
      TurnEvent.wrote?]
    by_cases heq : uri = uri'
    · subst heq
      rw [if_pos rfl]
      exact hx.effect_moved hs (hx.first_of_has hs hl) rfl rfl (.take event)
    · rw [if_neg (Ne.symm heq)]
      exact hx.effect_elsewhere hs rfl rfl heq
  | @close t uri' hs hl =>
    simp only [List.filterMap_cons, List.filterMap_nil, TurnEvent.asked?, TurnEvent.taken?,
      TurnEvent.wrote?]
    by_cases heq : uri = uri'
    · subst heq
      rw [if_pos rfl, if_pos rfl]
      exact hx.effect_moved hs (hx.first_of_has hs hl) rfl rfl .close
    · rw [if_neg (Ne.symm heq), if_neg (Ne.symm heq)]
      exact hx.effect_elsewhere hs rfl rfl heq
  | @write t uri' event he hs =>
    simp only [List.filterMap_cons, List.filterMap_nil, TurnEvent.asked?, TurnEvent.taken?,
      TurnEvent.wrote?]
    by_cases heq : uri = uri'
    · subst heq
      rw [if_pos rfl]
      exact hx.effect_moved hs (hx.first hs rfl) rfl rfl (.write event)
    · rw [if_neg (Ne.symm heq)]
      exact hx.effect_elsewhere hs rfl rfl heq
  | giveUp hs => exact hx.effect_left hs rfl (fun _ => DocumentLocks.wanting_drop _ _ _) uri
  | leave hs => exact hx.effect_left hs rfl (fun _ => rfl) uri
  | forget hs => exact hx.effect_left hs rfl (fun _ => DocumentLocks.wanting_drop _ _ _) uri

theorem Effect.order {asked taken : List Nat} {wrote : List (Nat × DocumentEvent)}
    (h : Effect x y uri asked taken wrote) :
    x.standing TurnStage.isWaiting uri ++ asked =
      taken ++ y.standing TurnStage.isWaiting uri := by
  cases h with
  | none hs => rw [hs, List.append_nil, List.nil_append]
  | asked t event hs => simp [hs, TurnStage.isWaiting]
  | @moved t old new taken wrote hs hr hm =>
    obtain ⟨others, hold, hnew⟩ := hs TurnStage.isWaiting
    rw [hold, hnew]
    cases hm <;> simp [TurnStage.isWaiting]
  | left t hw hs => simp [hs TurnStage.isWaiting, hw]

theorem Effect.writes {asked taken : List Nat} {wrote : List (Nat × DocumentEvent)}
    (h : Effect x y uri asked taken wrote) :
    (wrote.map (·.1) ++ y.standing TurnStage.isReading uri).Sublist
      (x.standing TurnStage.isReading uri ++ taken) := by
  cases h with
  | none hs => simp [hs]
  | asked t event hs => simp [hs, TurnStage.isReading]
  | @moved t old new taken wrote hs hr hm =>
    obtain ⟨others, hold, hnew⟩ := hs TurnStage.isReading
    have hnone : others = [] := by
      rw [hold] at hr
      exact List.append_right_eq_self.1 hr
    rw [hr, hnew, hnone]
    cases hm <;> simp [TurnStage.isReading]
  | left t hw hs =>
    rw [hs TurnStage.isReading, List.append_nil]
    exact List.sublist_append_right _ _

theorem Step.version (h : Step x events y) (uri : String) :
    y.versions.lookup uri = (events.filterMap (TurnEvent.wrote? uri)).foldl
      (fun version written => written.2.version version) (x.versions.lookup uri) := by
  have hw (uri' : String) (t : Nat) (event : DocumentEvent) (s : Option (String × TurnStage)) :
      ((x.write uri' event).stand t s).versions.lookup uri =
        ([TurnEvent.wrote t uri' event].filterMap (TurnEvent.wrote? uri)).foldl
          (fun version written => written.2.version version) (x.versions.lookup uri) := by
    rw [versions_stand, lookup_write]
    by_cases heq : uri' = uri
    · subst heq
      simp [TurnEvent.wrote?]
    · simp [TurnEvent.wrote?, heq, Ne.symm heq]
  cases h with
  | close => exact hw _ _ _ _
  | write => exact hw _ _ _ _
  | _ => rfl

/-- A task has a turn at a document, or waits for one, since it asked for it. -/
theorem Step.asked (h : Step x events y) (hs : y.stages[t]? = some (some (uri, stage))) :
    (∃ stage', x.stages[t]? = some (some (uri, stage'))) ∨ .asked t uri ∈ events := by
  cases h with
  | call =>
    obtain ⟨_, heq⟩ | h := getElem?_concat_cases hs
    · cases heq
    · exact .inl ⟨_, h⟩
  | ask uri' event h =>
    obtain ⟨rfl, heq⟩ | ⟨_, h⟩ := getElem?_set_cases hs
    · cases heq
      exact .inr (List.mem_singleton_self _)
    · exact .inl ⟨_, h⟩
  | take h =>
    obtain ⟨rfl, heq⟩ | ⟨_, h⟩ := getElem?_set_cases hs
    · cases heq
      exact .inl ⟨_, h⟩
    · exact .inl ⟨_, h⟩
  | close h =>
    obtain ⟨rfl, heq⟩ | ⟨_, h⟩ := getElem?_set_cases hs
    · cases heq
      exact .inl ⟨_, h⟩
    · exact .inl ⟨_, h⟩
  | write _ h =>
    obtain ⟨rfl, heq⟩ | ⟨_, h⟩ := getElem?_set_cases hs
    · cases heq
      exact .inl ⟨_, h⟩
    · exact .inl ⟨_, h⟩
  | _ =>
    obtain ⟨_, heq⟩ | ⟨_, h⟩ := getElem?_set_cases hs
    · cases heq
    · exact .inl ⟨_, h⟩

theorem Step.watch (h : Step x events y) : y.watch = x.watch := by
  cases h <;> rfl

namespace Trace

theorem watch (h : Trace x events y) : y.watch = x.watch := by
  induction h with
  | refl => rfl
  | tail _ hs ih => exact hs.watch.trans ih

theorem asked (h : Trace x events y) (hs : y.stages[t]? = some (some (uri, stage))) :
    (∃ stage', x.stages[t]? = some (some (uri, stage'))) ∨ .asked t uri ∈ events := by
  induction h generalizing stage with
  | refl => exact .inl ⟨stage, hs⟩
  | tail _ h' ih =>
    obtain ⟨stage', hs'⟩ | hm := h'.asked hs
    · exact (ih hs').imp_right (List.mem_append_left _)
    · exact .inr (List.mem_append_right _ hm)

theorem order (hx : x.Fits) (h : Trace x events y) (uri : String) :
    x.standing TurnStage.isWaiting uri ++ events.filterMap (TurnEvent.asked? uri) =
      events.filterMap (TurnEvent.taken? uri) ++ y.standing TurnStage.isWaiting uri := by
  induction h with
  | refl => simp
  | @tail y z events more h hs ih =>
    have ho := (hs.effect (hx.trace h) uri).order
    rw [List.filterMap_append, List.filterMap_append, ← List.append_assoc, ih, List.append_assoc,
      ho, List.append_assoc]

theorem writes (hx : x.Fits) (h : Trace x events y) (uri : String) :
    ((events.filterMap (TurnEvent.wrote? uri)).map (·.1) ++
        y.standing TurnStage.isReading uri).Sublist
      (x.standing TurnStage.isReading uri ++ events.filterMap (TurnEvent.taken? uri)) := by
  induction h with
  | refl => simp
  | @tail y z events more h hs ih =>
    have hw := (hs.effect (hx.trace h) uri).writes
    simp only [List.filterMap_append, List.map_append, List.append_assoc]
    have hstep := hw.append_left ((events.filterMap (TurnEvent.wrote? uri)).map (·.1))
    refine hstep.trans ?_
    simp only [← List.append_assoc]
    exact ih.append_right _

theorem version (h : Trace x events y) (uri : String) :
    y.versions.lookup uri = (events.filterMap (TurnEvent.wrote? uri)).foldl
      (fun version written => written.2.version version) (x.versions.lookup uri) := by
  induction h with
  | refl => rfl
  | tail _ hs ih => rw [List.filterMap_append, List.foldl_append, ← ih, hs.version]

end Trace

end Turns

namespace Registry

variable {r : Registry}

theorem Reachable.turnsFit (hr : r.Reachable) : r.turns.Fits := by
  apply hr.induction (p := fun r => r.turns.Fits)
  · intro root configs watch commandExists handshakeMs
    exact ⟨.empty, by simp [turns, ofConfigs, DocumentLocks.empty, DocumentLocks.wanting,
      DocumentLocks.lock?], nofun, nofun, nofun⟩
  · intro r action hr hx
    exact hx.trace (turns_step hr.taskFits action)

variable {t : Nat} {uri : String} {task : Task} {stage : TurnStage}

theorem asks?_step (hf : ∀ t, r.TaskFits t) (action : RegistryAction) (call : RegistryCall) :
    (r.step action).asks? call = r.asks? call := by
  have hroot : (r.step action).root = r.root := (servers_steps r action).before.root
  have hwatch : (r.step action).watch = r.watch := (turns_step hf action).watch
  simp only [asks?, resolve, hroot, hwatch]

theorem asked_mem_turn {event : DocumentEvent} {uri' : String} {u : Nat} :
    .asked t uri ∉ TurnEvent.turn u event uri' := by
  cases event <;> simp [TurnEvent.turn]

theorem asked_turnEvents {action : RegistryAction}
    (hm : .asked t uri ∈ r.turnEvents action) :
    action = .resume t ∧ ∃ call event, r.tasks[t]? = some ⟨call, .begun⟩ ∧
      r.asks? call = some (event, uri) := by
  cases action with
  | resume u =>
    simp only [turnEvents] at hm
    split at hm
    · rename_i call ht
      split at hm
      · rename_i event uri' ha
        obtain h | h := List.mem_cons.1 hm
        · cases h
          exact ⟨rfl, call, event, ht, ha⟩
        · split at h
          · exact absurd h asked_mem_turn
          · cases h
      · cases hm
    · split at hm
      · exact absurd hm asked_mem_turn
      · cases hm
    · cases hm
  | read u result =>
    cases result with
    | error e => cases hm
    | ok text =>
      simp only [turnEvents] at hm
      split at hm
      · cases List.mem_singleton.1 hm
      · cases hm
  | _ => cases hm

theorem Reachable.asks (hr : r.Reachable) (ht : r.tasks[t]? = some task)
    (hs : task.stage.turn? = some (uri, stage)) :
    ∃ event, r.asks? task.call = some (event, uri) := by
  refine hr.induction (p := fun r => ∀ (t : Nat) (task : Task) (uri : String) (stage : TurnStage),
    r.tasks[t]? = some task → task.stage.turn? = some (uri, stage) →
      ∃ event, r.asks? task.call = some (event, uri)) ?_ ?_ t task uri stage ht hs
  · intro root configs watch commandExists handshakeMs t task uri stage ht
    cases ht
  · intro r action hr ih t task uri stage ht hs
    have htrace := turns_step hr.taskFits action
    have hsame : (r.step action).turns.stages[t]? = some (some (uri, stage)) := by
      rw [turns_of_task ht, hs]
    obtain ⟨stage', hold⟩ | hm := htrace.asked hsame
    · simp only [turns, List.getElem?_map] at hold
      obtain ⟨old, hold, hstage⟩ := Option.map_eq_some_iff.1 hold
      obtain ⟨new, hnew, hcall⟩ := calls_step r action t old hold
      cases ht.symm.trans hnew
      rw [asks?_step hr.taskFits, hcall]
      exact ih t old uri stage' hold hstage
    · obtain ⟨_, call, event, hold, hasks⟩ := asked_turnEvents hm
      obtain ⟨new, hnew, hcall⟩ := calls_step r action t _ hold
      cases ht.symm.trans hnew
      rw [asks?_step hr.taskFits, hcall]
      exact ⟨event, hasks⟩

end Registry
end Switchyard
