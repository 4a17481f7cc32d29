import Switchyard.Proofs.Rpc.History
import Switchyard.Proofs.Rpc.Requests
import Switchyard.Proofs.Rpc.RoundTrip

namespace Switchyard.Rpc

def requestCount (log : List ClientEvent) : Nat := log.countP ClientEvent.isNumber

/-- A request with this id was registered, and a response to it came in later. -/
def Answered (log : List ClientEvent) (id : Nat) (body : Json) : Prop :=
  ∃ (k i j : Nat), i < j ∧ log[i]? = some (.requested k id) ∧
    log[j]? = some (.dispatched (.response id body))

/-- The event at `j` ends a request by the body of the response at `i`, which came in after the
request was registered. -/
def Completes (log : List ClientEvent) (i j : Nat) : Prop :=
  ∃ (k id m : Nat) (body : Json), m < i ∧ i < j ∧ log[m]? = some (.requested k id) ∧
    log[i]? = some (.dispatched (.response id body)) ∧ log[j]? = some (.settled k id (.ok body))

variable {log : List ClientEvent} {e : ClientEvent} {id : Nat} {body : Json}

theorem requestCount_concat (he : ∀ k id : Nat, e ≠ .numbered k id) :
    requestCount (log ++ [e]) = requestCount log := by
  have hr : e.isNumber = false := by
    cases e <;> first | rfl | exact absurd rfl (he _ _)
  rw [requestCount, requestCount, List.countP_append, List.countP_singleton, hr]
  rfl

theorem requestCount_numbered (k id : Nat) :
    requestCount (log ++ [.numbered k id]) = requestCount log + 1 :=
  List.countP_append

theorem Answered.append (h : Answered log id body) (log' : List ClientEvent) :
    Answered (log ++ log') id body := by
  obtain ⟨k, i, j, hij, hi, hj⟩ := h
  exact ⟨k, i, j, hij, getElem?_append_of_some hi, getElem?_append_of_some hj⟩

theorem Answered.of_append (h : Answered (log ++ [e]) id body)
    (he : e ≠ .dispatched (.response id body)) : Answered log id body := by
  obtain ⟨k, i, j, hij, hi, hj⟩ := h
  have hj := getElem?_of_concat hj he
  obtain ⟨rfl, -⟩ | hi := getElem?_concat_cases hi
  · obtain ⟨hlt, -⟩ := List.getElem?_eq_some_iff.1 hj
    exact absurd (Nat.lt_trans hij hlt) (Nat.lt_irrefl _)
  · exact ⟨k, i, j, hij, hi, hj⟩

/-- Calls take ids from 1 on, and register their requests under them. -/
structure Numbered (r : Requests) : Prop where
  nextId_eq : r.nextId = (requestCount r.log + 1) % Nat.pow 2 64
  le_count : ∀ i k id : Nat, r.log[i]? = some (.numbered k id) → id ≤ requestCount r.log
  apart : ∀ id, AtMostOnce (ClientEvent.Numbers id) r.log
  held : ∀ k id : Nat, r.active[k]? = some (.number id) →
    ∃ i : Nat, r.log[i]? = some (.numbered k id)
  unregistered : ∀ k id : Nat, r.active[k]? = some (.number id) →
    ∀ i k' : Nat, r.log[i]? ≠ some (.requested k' id)
  taken : ∀ i k id : Nat, r.log[i]? = some (.requested k id) →
    ∃ j : Nat, r.log[j]? = some (.numbered k id)
  distinct : ∀ id, AtMostOnce (ClientEvent.Registers id) r.log

namespace Numbered

variable {r : Requests} {k : Nat} {active : List Hold}

theorem append (h : Numbered r) (hn : ∀ k id : Nat, e ≠ .numbered k id)
    (hq : ∀ k id : Nat, e ≠ .requested k id)
    (ha : ∀ k id : Nat, active[k]? = some (.number id) → r.active[k]? = some (.number id))
    (pending : List Nat) (answers : List (Nat × Json)) :
    Numbered { r with pending, answers, active, log := r.log ++ [e] } where
  nextId_eq := by rw [requestCount_concat hn, h.nextId_eq]
  le_count i k id hi := by
    rw [requestCount_concat hn]
    exact h.le_count i k id (getElem?_of_concat hi (hn k id))
  apart id := (h.apart id).concat fun ⟨k, hk⟩ => absurd hk (hn k id)
  held k id hk := by
    obtain ⟨i, hi⟩ := h.held k id (ha k id hk)
    exact ⟨i, getElem?_append_of_some hi⟩
  unregistered k id hk i k' hi :=
    h.unregistered k id (ha k id hk) i k' (getElem?_of_concat hi (hq k' id))
  taken i k id hi := by
    obtain ⟨j, hj⟩ := h.taken i k id (getElem?_of_concat hi (hq k id))
    exact ⟨j, getElem?_append_of_some hj⟩
  distinct id := (h.distinct id).concat fun ⟨k, hk⟩ => absurd hk (hq k id)

theorem nextId_eq_of_lt (h : Numbered r) (hn : requestCount r.log + 1 < Nat.pow 2 64) :
    r.nextId = requestCount r.log + 1 := by
  rw [h.nextId_eq, Nat.mod_eq_of_lt hn]

theorem fresh (h : Numbered r) (hn : requestCount r.log + 1 < Nat.pow 2 64) (i k : Nat) :
    r.log[i]? ≠ some (.numbered k r.nextId) := by
  intro hi
  have hle := h.le_count i k r.nextId hi
  rw [h.nextId_eq_of_lt hn] at hle
  exact Nat.not_succ_le_self _ hle

theorem number (h : Numbered r) (hn : requestCount r.log + 1 < Nat.pow 2 64)
    (hk : r.active[k]? = some .nothing) :
    Numbered { r with
      nextId := (r.nextId + 1) % Nat.pow 2 64
      active := r.active.set k (.number r.nextId)
      log := r.log ++ [.numbered k r.nextId] } where
  nextId_eq := by rw [requestCount_numbered, ← h.nextId_eq_of_lt hn]
  le_count i k id hi := by
    rw [requestCount_numbered]
    obtain ⟨-, he⟩ | hi := getElem?_concat_cases hi
    · cases he
      exact Nat.le_of_eq (h.nextId_eq_of_lt hn)
    · exact Nat.le_succ_of_le (h.le_count i k id hi)
  apart id := by
    apply (h.apart id).concat
    rintro ⟨_, he⟩ i _ hi ⟨k', rfl⟩
    cases he
    exact h.fresh hn i k' hi
  held k' id hk' := by
    obtain ⟨rfl, he⟩ | ⟨-, hk'⟩ := getElem?_set_cases hk'
    · cases he
      exact ⟨_, List.getElem?_concat_length⟩
    · obtain ⟨i, hi⟩ := h.held k' id hk'
      exact ⟨i, getElem?_append_of_some hi⟩
  unregistered k' id hk' i k'' hi := by
    have hi := getElem?_of_concat hi nofun
    obtain ⟨-, he⟩ | ⟨-, hk'⟩ := getElem?_set_cases hk'
    · cases he
      obtain ⟨j, hj⟩ := h.taken i k'' _ hi
      exact h.fresh hn j k'' hj
    · exact h.unregistered k' id hk' i k'' hi
  taken i k id hi := by
    obtain ⟨j, hj⟩ := h.taken i k id (getElem?_of_concat hi nofun)
    exact ⟨j, getElem?_append_of_some hj⟩
  distinct id := (h.distinct id).concat fun ⟨k, hk⟩ => absurd hk nofun

theorem register (h : Numbered r) (hk : r.active[k]? = some (.number id)) :
    Numbered { r with
      pending := id :: r.pending
      active := r.active.set k (.request id)
      log := r.log ++ [.requested k id] } where
  nextId_eq := by rw [requestCount_concat (e := .requested k id) nofun, h.nextId_eq]
  le_count i k' id' hi := by
    rw [requestCount_concat (e := .requested k id) nofun]
    exact h.le_count i k' id' (getElem?_of_concat hi nofun)
  apart id := (h.apart id).concat fun ⟨k, hk⟩ => absurd hk nofun
  held k' id' hk' := by
    obtain ⟨-, he⟩ | ⟨-, hk'⟩ := getElem?_set_cases hk'
    · cases he
    · obtain ⟨i, hi⟩ := h.held k' id' hk'
      exact ⟨i, getElem?_append_of_some hi⟩
  unregistered k' id' hk' i k'' hi := by
    obtain ⟨-, he⟩ | ⟨hne, hk'⟩ := getElem?_set_cases hk'
    · cases he
    · obtain ⟨-, he⟩ | hi := getElem?_concat_cases hi
      · cases he
        obtain ⟨j, hj⟩ := h.held k id hk
        obtain ⟨j', hj'⟩ := h.held k' id hk'
        cases h.apart id j j' _ _ hj hj' ⟨k, rfl⟩ ⟨k', rfl⟩
        cases hj.symm.trans hj'
        exact hne rfl
      · exact h.unregistered k' id' hk' i k'' hi
  taken i k' id' hi := by
    obtain ⟨-, he⟩ | hi := getElem?_concat_cases hi
    · cases he
      obtain ⟨j, hj⟩ := h.held k id hk
      exact ⟨j, getElem?_append_of_some hj⟩
    · obtain ⟨j, hj⟩ := h.taken i k' id' hi
      exact ⟨j, getElem?_append_of_some hj⟩
  distinct id' := by
    apply (h.distinct id').concat
    rintro ⟨_, he⟩ i _ hi ⟨k', rfl⟩
    cases he
    exact h.unregistered k id hk i k' hi

end Numbered

/-- Requests end once, and by a body only if it has come in for them. -/
structure Ended (log : List ClientEvent) : Prop where
  once : ∀ id, AtMostOnce (ClientEvent.Settles id) log
  requested : ∀ (j k id : Nat) (o : Except RequestError Json), log[j]? = some (.settled k id o) →
    ∃ i < j, log[i]? = some (.requested k id)
  completed : ∀ (j k id : Nat) (body : Json), log[j]? = some (.settled k id (.ok body)) →
    ∃ i, Completes log i j

theorem Completes.append {i j : Nat} (h : Completes log i j) (log' : List ClientEvent) :
    Completes (log ++ log') i j := by
  obtain ⟨k, id, m, body, hm, hi, h₁, h₂, h₃⟩ := h
  exact ⟨k, id, m, body, hm, hi, getElem?_append_of_some h₁, getElem?_append_of_some h₂,
    getElem?_append_of_some h₃⟩

namespace Ended

theorem append (h : Ended log)
    (he : ∀ (k id : Nat) (o : Except RequestError Json), e ≠ .settled k id o) :
    Ended (log ++ [e]) where
  once id := (h.once id).concat fun ⟨k, o, hk⟩ => absurd hk (he k id o)
  requested j k id o hj := by
    obtain ⟨i, hij, hi⟩ := h.requested j k id o (getElem?_of_concat hj (he k id o))
    exact ⟨i, hij, getElem?_append_of_some hi⟩
  completed j k id body hj := by
    obtain ⟨i, hi⟩ := h.completed j k id body (getElem?_of_concat hj (he k id _))
    exact ⟨i, hi.append [e]⟩

theorem settle {k m : Nat} {o : Except RequestError Json} (h : Ended log)
    (hm : log[m]? = some (.requested k id))
    (hn : ∀ (j k' : Nat) (o' : Except RequestError Json), log[j]? ≠ some (.settled k' id o'))
    (ho : ∀ body, o = .ok body → ∃ i, m < i ∧ log[i]? = some (.dispatched (.response id body))) :
    Ended (log ++ [.settled k id o]) where
  once id := by
    apply (h.once id).concat
    rintro ⟨_, _, he⟩ j _ hj ⟨k', o', rfl⟩
    cases he
    exact hn j k' o' hj
  requested j k id o hj := by
    obtain ⟨rfl, he⟩ | hj := getElem?_concat_cases hj
    · cases he
      obtain ⟨hlt, -⟩ := List.getElem?_eq_some_iff.1 hm
      exact ⟨m, hlt, getElem?_append_of_some hm⟩
    · obtain ⟨i, hij, hi⟩ := h.requested j k id o hj
      exact ⟨i, hij, getElem?_append_of_some hi⟩
  completed j k id body hj := by
    obtain ⟨rfl, he⟩ | hj' := getElem?_concat_cases hj
    · cases he
      obtain ⟨i, hmi, hi⟩ := ho body rfl
      obtain ⟨hil, -⟩ := List.getElem?_eq_some_iff.1 hi
      exact ⟨i, k, id, m, body, hmi, hil, getElem?_append_of_some hm, getElem?_append_of_some hi,
        hj⟩
    · obtain ⟨i, hi⟩ := h.completed j k id body hj'
      exact ⟨i, hi.append _⟩

end Ended

/-- Calls make requests that have not ended; pending are those of them that were not answered. -/
structure UnderWay (r : Requests) : Prop where
  requested : ∀ k id : Nat, r.active[k]? = some (.request id) →
    ∃ i : Nat, r.log[i]? = some (.requested k id)
  unsettled : ∀ k id : Nat, r.active[k]? = some (.request id) →
    ∀ (j k' : Nat) (o : Except RequestError Json), r.log[j]? ≠ some (.settled k' id o)
  waiting : ∀ id ∈ r.pending, ∃ k : Nat, r.active[k]? = some (.request id)
  unanswered : ∀ id ∈ r.pending, ∀ body, ¬ Answered r.log id body
  answered : ∀ id body, (id, body) ∈ r.answers → Answered r.log id body

namespace UnderWay

variable {r : Requests} {k : Nat}

theorem call (h : UnderWay r) : UnderWay { r with active := r.active ++ [.nothing] } where
  requested k id hk := h.requested k id (getElem?_of_concat hk nofun)
  unsettled k id hk := h.unsettled k id (getElem?_of_concat hk nofun)
  waiting id hid := by
    obtain ⟨k, hk⟩ := h.waiting id hid
    exact ⟨k, getElem?_append_of_some hk⟩
  unanswered := h.unanswered
  answered := h.answered

theorem append (h : UnderWay r)
    (hs : ∀ (k id : Nat) (o : Except RequestError Json), e ≠ .settled k id o)
    (hr : ∀ id ∈ r.pending, ∀ body, e ≠ .dispatched (.response id body)) :
    UnderWay { r with log := r.log ++ [e] } where
  requested k id hk := by
    obtain ⟨i, hi⟩ := h.requested k id hk
    exact ⟨i, getElem?_append_of_some hi⟩
  unsettled k id hk j k' o hj := h.unsettled k id hk j k' o (getElem?_of_concat hj (hs k' id o))
  waiting := h.waiting
  unanswered id hid body ha := h.unanswered id hid body (ha.of_append (hr id hid body))
  answered id body ha := (h.answered id body ha).append [e]

theorem forget {ids : List Nat} (h : UnderWay r) (hi : ids ⊆ r.pending) :
    UnderWay { r with pending := ids } where
  requested := h.requested
  unsettled := h.unsettled
  waiting id hid := h.waiting id (hi hid)
  unanswered id hid := h.unanswered id (hi hid)
  answered := h.answered

theorem answer (h : UnderWay r) (hid : id ∈ r.pending) (body : Json) :
    UnderWay { r with
      pending := r.pending.filter (· != id)
      answers := (id, body) :: r.answers
      log := r.log ++ [.dispatched (.response id body)] } := by
  have hne : ∀ id' ∈ r.pending.filter (· != id), ∀ body',
      ClientEvent.dispatched (.response id body) ≠ .dispatched (.response id' body') := by
    rintro id' hid' body' he
    cases he
    simp at hid'
  have hf := (h.forget List.filter_sublist.subset).append
    (e := .dispatched (.response id body)) nofun hne
  refine ⟨hf.requested, hf.unsettled, hf.waiting, hf.unanswered, ?_⟩
  intro id' body' hm
  obtain he | hm := List.mem_cons.1 hm
  · cases he
    obtain ⟨k, hk⟩ := h.waiting id hid
    obtain ⟨i, hi⟩ := h.requested k id hk
    obtain ⟨hlt, -⟩ := List.getElem?_eq_some_iff.1 hi
    exact ⟨k, i, r.log.length, hlt, getElem?_append_of_some hi, List.getElem?_concat_length⟩
  · exact hf.answered id' body' hm

theorem number (h : UnderWay r) (hk : r.active[k]? = some .nothing) (nextId id : Nat) :
    UnderWay { r with
      nextId
      active := r.active.set k (.number id)
      log := r.log ++ [.numbered k id] } := by
  have active (k' id' : Nat) (hk' : (r.active.set k (.number id))[k']? = some (.request id')) :
      r.active[k']? = some (.request id') := by
    obtain ⟨-, he⟩ | ⟨-, hk'⟩ := getElem?_set_cases hk'
    · cases he
    · exact hk'
  have ha := h.append (e := .numbered k id) nofun nofun
  refine ⟨fun k' id' hk' => ha.requested k' id' (active k' id' hk'),
    fun k' id' hk' => ha.unsettled k' id' (active k' id' hk'), fun id' hid' => ?_, ha.unanswered,
    ha.answered⟩
  obtain ⟨k', hk'⟩ := h.waiting id' hid'
  refine ⟨k', getElem?_set_of_ne hk' ?_⟩
  rintro rfl
  cases hk.symm.trans hk'

theorem register (h : UnderWay r) (hn : Numbered r) (he : Ended r.log)
    (hk : r.active[k]? = some (.number id)) :
    UnderWay { r with
      pending := id :: r.pending
      active := r.active.set k (.request id)
      log := r.log ++ [.requested k id] } where
  requested k' id' hk' := by
    obtain ⟨rfl, he⟩ | ⟨-, hk'⟩ := getElem?_set_cases hk'
    · cases he
      exact ⟨_, List.getElem?_concat_length⟩
    · obtain ⟨i, hi⟩ := h.requested k' id' hk'
      exact ⟨i, getElem?_append_of_some hi⟩
  unsettled k' id' hk' j k'' o hj := by
    have hj := getElem?_of_concat hj nofun
    obtain ⟨-, hid⟩ | ⟨-, hk'⟩ := getElem?_set_cases hk'
    · cases hid
      obtain ⟨i, -, hi⟩ := he.requested j k'' _ o hj
      exact hn.unregistered k id hk i k'' hi
    · exact h.unsettled k' id' hk' j k'' o hj
  waiting id' hid := by
    obtain rfl | hid := List.mem_cons.1 hid
    · exact ⟨k, getElem?_set_of_some hk⟩
    · obtain ⟨k', hk'⟩ := h.waiting id' hid
      refine ⟨k', getElem?_set_of_ne hk' ?_⟩
      rintro rfl
      cases hk.symm.trans hk'
  unanswered id' hid body ha := by
    obtain rfl | hid := List.mem_cons.1 hid
    · obtain ⟨k', i, j, -, hi, -⟩ : Answered r.log id' body := ha.of_append nofun
      exact hn.unregistered k id' hk i k' hi
    · exact h.unanswered id' hid body (ha.of_append nofun)
  answered id body ha := (h.answered id body ha).append _

theorem call_unique {k' : Nat} (h : UnderWay r) (hn : Numbered r)
    (hk : r.active[k]? = some (.request id)) (hk' : r.active[k']? = some (.request id)) :
    k = k' := by
  obtain ⟨i, hi⟩ := h.requested k id hk
  obtain ⟨i', hi'⟩ := h.requested k' id hk'
  cases hn.distinct id i i' _ _ hi hi' ⟨k, rfl⟩ ⟨k', rfl⟩
  cases hi.symm.trans hi'
  rfl

theorem not_pending_of_ends {o : Except RequestError Json} (h : UnderWay r) (ho : r.Ends id o) :
    id ∉ r.pending := by
  cases o with
  | ok body => exact fun hid => h.unanswered id hid body (h.answered id body ho)
  | error e => exact ho

theorem settle {o : Except RequestError Json} (h : UnderWay r) (hn : Numbered r)
    (hk : r.active[k]? = some (.request id)) (ho : r.Ends id o) :
    UnderWay { r with
      active := r.active.set k .nothing
      log := r.log ++ [.settled k id o] } where
  requested k' id' hk' := by
    obtain ⟨-, he⟩ | ⟨-, hk'⟩ := getElem?_set_cases hk'
    · cases he
    · obtain ⟨i, hi⟩ := h.requested k' id' hk'
      exact ⟨i, getElem?_append_of_some hi⟩
  unsettled k' id' hk' j k'' o' hj := by
    obtain ⟨-, he⟩ | ⟨hne, hk'⟩ := getElem?_set_cases hk'
    · cases he
    · obtain ⟨-, he⟩ | hj := getElem?_concat_cases hj
      · cases he
        exact hne (h.call_unique hn hk' hk)
      · exact h.unsettled k' id' hk' j k'' o' hj
  waiting id' hid' := by
    obtain ⟨k', hk'⟩ := h.waiting id' hid'
    refine ⟨k', getElem?_set_of_ne hk' ?_⟩
    rintro rfl
    cases hk.symm.trans hk'
    exact h.not_pending_of_ends ho hid'
  unanswered id' hid' body ha := h.unanswered id' hid' body (ha.of_append nofun)
  answered id' body ha := (h.answered id' body ha).append _

end UnderWay

structure Correlated (r : Requests) : Prop where
  numbered : Numbered r
  ended : Ended r.log
  underWay : UnderWay r

namespace Correlated

variable {r r' : Requests} {who : Option Nat}

theorem change (h : Correlated r) (hc : Requests.Change r who r')
    (hn : requestCount r'.log < Nat.pow 2 64) : Correlated r' := by
  obtain ⟨hnum, hend, hway⟩ := h
  cases hc with
  | call =>
    refine ⟨⟨hnum.nextId_eq, hnum.le_count, hnum.apart, fun k id hk => ?_, fun k id hk => ?_,
      hnum.taken, hnum.distinct⟩, hend, hway.call⟩
    · exact hnum.held k id (getElem?_of_concat hk nofun)
    · exact hnum.unregistered k id (getElem?_of_concat hk nofun)
  | @note _ e he =>
    have hs : ∀ (k id : Nat) (o : Except RequestError Json), e ≠ .settled k id o := by
      rintro k id o rfl
      cases he
    have hr : ∀ id ∈ r.pending, ∀ body, e ≠ .dispatched (.response id body) := by
      rintro id - body rfl
      cases he
    have hq : ∀ k id : Nat, e ≠ .numbered k id := by
      rintro k id rfl
      cases he
    have hq' : ∀ k id : Nat, e ≠ .requested k id := by
      rintro k id rfl
      cases he
    exact ⟨hnum.append hq hq' (fun _ _ h => h) _ _, hend.append hs, hway.append hs hr⟩
  | @number k hk =>
    have hlt : requestCount r.log + 1 < Nat.pow 2 64 := by
      rwa [requestCount_numbered] at hn
    exact ⟨hnum.number hlt hk, hend.append nofun, hway.number hk _ _⟩
  | register hk => exact ⟨hnum.register hk, hend.append nofun, hway.register hnum hend hk⟩
  | @expire k id hk hp =>
    exact ⟨hnum.append (e := .expired k id) nofun nofun (fun _ _ h => h) _ _,
      hend.append nofun, hway.append nofun nofun⟩
  | forget hk =>
    refine ⟨⟨hnum.nextId_eq, hnum.le_count, hnum.apart, hnum.held, hnum.unregistered, hnum.taken,
      hnum.distinct⟩, hend, hway.forget List.filter_sublist.subset⟩
  | cutOff =>
    exact ⟨hnum.append (e := .cutOff) nofun nofun (fun _ _ h => h) _ _, hend.append nofun,
      (hway.forget (List.nil_subset _)).append nofun nofun⟩
  | @answer id body hid =>
    exact ⟨hnum.append (e := .dispatched (.response id body)) nofun nofun (fun _ _ h => h) _ _,
      hend.append nofun, hway.answer hid body⟩
  | @ignore id body hid =>
    have hr : ∀ id' ∈ r.pending, ∀ body', ClientEvent.dispatched (.response id body) ≠
        .dispatched (.response id' body') := by
      rintro id' hid' body' he
      cases he
      exact hid hid'
    exact ⟨hnum.append (e := .dispatched (.response id body)) nofun nofun (fun _ _ h => h) _ _,
      hend.append nofun, hway.append nofun hr⟩
  | @settle k id o hk ho =>
    obtain ⟨m, hm⟩ := hway.requested k id hk
    have ho' : ∀ body, o = .ok body →
        ∃ i, m < i ∧ r.log[i]? = some (.dispatched (.response id body)) := by
      rintro body rfl
      obtain ⟨k', m', i, hmi, hm', hi⟩ := hway.answered id body ho
      cases hnum.distinct id m m' _ _ hm hm' ⟨k, rfl⟩ ⟨k', rfl⟩
      exact ⟨i, hmi, hi⟩
    have ha (k' id' : Nat) (hk' : (r.active.set k .nothing)[k']? = some (.number id')) :
        r.active[k']? = some (.number id') := by
      obtain ⟨-, he⟩ | ⟨-, hk'⟩ := getElem?_set_cases hk'
      · cases he
      · exact hk'
    exact ⟨hnum.append (e := .settled k id o) nofun nofun ha _ _,
      hend.settle hm (hway.unsettled k id hk) ho',
      hway.settle hnum hk ho⟩

theorem requestCount_le_of_change (hc : Requests.Change r who r') :
    requestCount r.log ≤ requestCount r'.log := by
  cases hc <;> simp [requestCount]

theorem changes (h : Correlated r) (hc : Requests.Changes who r r')
    (hn : requestCount r'.log < Nat.pow 2 64) : Correlated r' := by
  induction hc with
  | refl => exact h
  | tail _ hc ih =>
    have hle := requestCount_le_of_change hc
    exact (ih (Nat.lt_of_le_of_lt hle hn)).change hc hn

theorem requestCount_le_of_changes (hc : Requests.Changes who r r') :
    requestCount r.log ≤ requestCount r'.log := by
  induction hc with
  | refl => exact Nat.le_refl _
  | tail _ hc ih => exact Nat.le_trans ih (requestCount_le_of_change hc)

theorem requestCount_le_run (c : Client) (actions : List ClientAction) :
    requestCount c.requests.log ≤ requestCount (c.run actions).requests.log := by
  induction actions generalizing c with
  | nil => exact Nat.le_refl _
  | cons a actions ih =>
    exact Nat.le_trans (requestCount_le_of_changes (Client.requests_step c a)) (ih (c.step a))

theorem run {c : Client} (h : Correlated c.requests) {actions : List ClientAction}
    (hn : requestCount (c.run actions).requests.log < Nat.pow 2 64) :
    Correlated (c.run actions).requests := by
  induction actions generalizing c with
  | nil => exact h
  | cons a actions ih =>
    have hle := requestCount_le_run (c.step a) actions
    exact ih (h.changes (Client.requests_step c a) (Nat.lt_of_le_of_lt hle hn)) hn

theorem connect (server : String) (processId : Nat) :
    Correlated (Client.connect server processId).requests where
  numbered := ⟨(by decide : 1 = (0 + 1) % Nat.pow 2 64), nofun, fun _ => .nil, nofun, nofun, nofun,
    fun _ => .nil⟩
  ended := ⟨fun _ => .nil, nofun, nofun⟩
  underWay := ⟨nofun, nofun, nofun, nofun, nofun⟩

end Correlated

/-- No request with this id was registered, or it was answered before, or it has ended. -/
def Stale (log : List ClientEvent) (id : Nat) : Prop :=
  (∀ i k : Nat, log[i]? ≠ some (.requested k id)) ∨ (∃ body, Answered log id body) ∨
    ∃ (j k : Nat) (o : Except RequestError Json), log[j]? = some (.settled k id o)

theorem UnderWay.not_pending {r : Requests} (h : UnderWay r) (hs : Stale r.log id) :
    id ∉ r.pending := by
  intro hid
  obtain ⟨k, hk⟩ := h.waiting id hid
  obtain hu | ⟨body, ha⟩ | ⟨j, k', o, hj⟩ := hs
  · obtain ⟨i, hi⟩ := h.requested k id hk
    exact hu i k hi
  · exact h.unanswered id hid body ha
  · exact h.unsettled k id hk j k' o hj

namespace Client

def outcomes (c : Client) : List (Nat × Nat × Except RequestError Json) :=
  c.history.filterMap ClientEvent.ending?

theorem run_push (c : Client) {e : ClientEvent} (he : e.ending? = none)
    (later : List ClientAction) :
    ((c.push e).run later).pending = (c.run later).pending ∧
      ((c.push e).run later).outcomes = (c.run later).outcomes := by
  let bare := { c with history := [] }
  have hpush : (c.push e).run later = (bare.run later).after (e :: c.history) :=
    run_after bare (e :: c.history) later
  have hrun : c.run later = (bare.run later).after c.history := run_after bare c.history later
  rw [hpush, hrun]
  refine ⟨rfl, ?_⟩
  rw [outcomes, outcomes, after, after, List.filterMap_append, List.filterMap_append,
    List.filterMap_cons_none he]

theorem dispatch_stale {c : Client} (h : id ∉ c.pending) (body : Json) :
    c.dispatch (.response id body) = c.push (.dispatched (.response id body)) := by
  have hp : ¬ c.pending.contains id = true := fun hc => h (List.contains_iff_mem.1 hc)
  exact if_neg hp

theorem read_response {c : Client} {rest : List UInt8} (hr : c.reader = .reading)
    (hn : nextMessage c.ended c.unread = .found (.response id body) rest) :
    c.read = { c with unread := rest }.dispatch (.response id body) := by
  simp only [read, hr, hn]

end Client

/-- Requests and responses in any run with fewer than 2^64 requests. -/
theorem responses_correlated (server : String) (processId : Nat) (actions : List ClientAction)
    (hn : requestCount ((Client.connect server processId).run actions).history.reverse <
      Nat.pow 2 64) :
    let c := (Client.connect server processId).run actions
    let log := c.history.reverse
    (∀ i i' k k' id : Nat, log[i]? = some (.requested k id) → log[i']? = some (.requested k' id) →
      i = i') ∧
    (∀ (j k id : Nat) (body : Json), log[j]? = some (.settled k id (.ok body)) →
      ∃ i, Completes log i j) ∧
    (∀ i j j', Completes log i j → Completes log i j' → j = j') ∧
    (∀ (j k id : Nat) (o : Except RequestError Json), log[j]? = some (.settled k id o) →
      id ∉ c.pending) ∧
    ∀ id body rest, c.reader = .reading →
      nextMessage c.ended c.unread = .found (.response id body) rest → Stale log id →
      c.read.pending = c.pending ∧ ∀ later : List ClientAction,
        (c.read.run later).pending = ({ c with unread := rest }.run later).pending ∧
        (c.read.run later).outcomes = ({ c with unread := rest }.run later).outcomes := by
  intro c log
  obtain ⟨hnum, hend, hway⟩ : Correlated c.requests := (Correlated.connect server processId).run hn
  refine ⟨?_, hend.completed, ?_, ?_, ?_⟩
  · intro i i' k k' id hi hi'
    exact hnum.distinct id i i' _ _ hi hi' ⟨k, rfl⟩ ⟨k', rfl⟩
  · rintro i j j' ⟨k, id, m, body, -, -, -, hi, hj⟩ ⟨k', id', m', body', -, -, -, hi', hj'⟩
    cases hi.symm.trans hi'
    exact hend.once id j j' _ _ hj hj' ⟨k, _, rfl⟩ ⟨k', _, rfl⟩
  · intro j k id o hj
    exact hway.not_pending (.inr (.inr ⟨j, k, o, hj⟩))
  · intro id body rest hr hm hstale
    have hp : id ∉ { c with unread := rest }.pending := hway.not_pending hstale
    rw [Client.read_response hr hm, Client.dispatch_stale hp]
    exact ⟨rfl, Client.run_push { c with unread := rest } rfl⟩

def emptyResponse (id : Nat) : Json := reply (.nat id) "workspace/workspaceFolders" none

/-- A shutdown whose request is answered twice; the second response has not been read yet. -/
def answeredTwice : List ClientAction :=
  [.call .shutdown, .resume 0, .resume 0, .resume 0, .resume 0,
    .receive (write (emptyResponse 1) ++ write (emptyResponse 1)), .read, .resume 0]

theorem answeredTwice_correlated :
    let c := (Client.connect "server" 7).run answeredTwice
    requestCount c.history.reverse = 1 ∧ (∃ i, Completes c.history.reverse i 4) ∧ 1 ∉ c.pending ∧
      nextMessage c.ended c.unread = .found (.response 1 (emptyResponse 1)) [] ∧
      c.read.pending = c.pending ∧
      (c.read.run [.resume 0]).outcomes = ({ c with unread := [] }.run [.resume 0]).outcomes := by
  intro c
  have hcount : requestCount c.history.reverse = 1 := by decide +kernel
  have hend : ∃ body, c.history.reverse[4]? = some (.settled 0 1 (.ok body)) := by
    have hb : (c.history.reverse[4]?.bind ClientEvent.ending?).map
        (fun r => (r.1, r.2.1, r.2.2.toBool)) = some (0, 1, true) := by decide +kernel
    obtain ⟨⟨k, id, o⟩, ho, hb⟩ := Option.map_eq_some_iff.1 hb
    obtain ⟨e, he, hr⟩ := Option.bind_eq_some_iff.1 ho
    rw [ClientEvent.ending?_eq_some] at hr
    cases o <;> cases hb
    exact ⟨_, hr ▸ he⟩
  obtain ⟨body, hj⟩ := hend
  have hsend : Sendable (emptyResponse 1) := ⟨by decide +kernel, by rfl⟩
  have hunread : c.unread = write (emptyResponse 1) ++ [] := by decide +kernel
  have hnext : nextMessage c.ended c.unread = .found (.response 1 (emptyResponse 1)) [] := by
    rw [hunread]
    exact hsend.nextMessage_write (classify?_reply (by decide) _ _) _ []
  obtain ⟨-, hcompleted, -, hsettled, hstale⟩ :=
    responses_correlated "server" 7 answeredTwice (by rw [hcount]; decide)
  have hreading : c.reader = .reading := by
    have hb : (match c.reader with | .reading => true | _ => false) = true := by decide +kernel
    cases hr : c.reader <;> simp [hr] at hb ⊢
  obtain ⟨hp, hl⟩ := hstale 1 _ [] hreading hnext (.inr (.inr ⟨4, 0, _, hj⟩))
  exact ⟨hcount, hcompleted 4 0 1 body hj, hsettled 4 0 1 _ hj, hnext, hp, (hl [.resume 0]).2⟩

end Switchyard.Rpc
