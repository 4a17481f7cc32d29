import Switchyard.Proofs.Rpc.Correlation

namespace Switchyard.Rpc

/-- What becomes of a registered request: the first response to it comes in, it is cut off at the
end of the connection, or its time is over. Only the first of these counts. -/
inductive Verdict where
  | answered (body : Json)
  | cutOff
  | late

def Verdict.body? : Verdict → Option Json
  | .answered body => some body
  | .cutOff | .late => none

namespace ClientEvent

def verdict? (id : Nat) : ClientEvent → Option Verdict
  | .dispatched (.response id' body) => if id' = id then some (.answered body) else none
  | .cutOff => some .cutOff
  | .expired _ id' => if id' = id then some .late else none
  | _ => none

def requestOf? (k : Nat) : ClientEvent → Option Nat
  | .requested k' id => if k' = k then some id else none
  | _ => none

theorem requestOf?_eq_some {e : ClientEvent} {k id : Nat} :
    e.requestOf? k = some id ↔ e = .requested k id := by
  unfold requestOf?
  split
  · simp
  · rename_i h
    exact iff_of_false nofun (h k id)

theorem eq_of_verdict {e : ClientEvent} {id : Nat} {v : Verdict} {body : Json}
    (hv : e.verdict? id = some v) (hb : v.body? = some body) :
    e = .dispatched (.response id body) := by
  unfold verdict? at hv
  split at hv
  · split at hv
    · rename_i hid
      cases hv
      cases hb
      rw [hid]
    · cases hv
  · cases hv
    cases hb
  · split at hv
    · cases hv
      cases hb
    · cases hv
  · cases hv

theorem of_isQuiet {e : ClientEvent} (h : e.isQuiet = true) (k id : Nat) :
    e.requestOf? k = none ∧ e.verdict? id = none := by
  cases e with
  | dispatched m =>
    cases m with
    | response => cases h
    | _ => exact ⟨rfl, rfl⟩
  | numbered | requested | expired | cutOff | settled => cases h
  | _ => exact ⟨rfl, rfl⟩

end ClientEvent

def idOf? (k : Nat) (log : List ClientEvent) : Option Nat := log.findSome? (·.requestOf? k)

def verdict? (k : Nat) : List ClientEvent → Option Verdict
  | [] => none
  | e :: log =>
    match e.requestOf? k with
    | some id => log.findSome? (·.verdict? id)
    | none => verdict? k log

section

variable {log more : List ClientEvent} {k id : Nat} {v : Verdict}

theorem verdict?_append (h : idOf? k log = some id) (more : List ClientEvent) :
    verdict? k (log ++ more) = (verdict? k log).or (more.findSome? (·.verdict? id)) := by
  induction log with
  | nil => cases h
  | cons e log ih =>
    rw [idOf?, List.findSome?_cons] at h
    rw [List.cons_append, verdict?, verdict?]
    cases he : e.requestOf? k with
    | some id' =>
      rw [he] at h
      cases h
      exact List.findSome?_append
    | none =>
      rw [he] at h
      exact ih h

theorem verdict?_of_idOf?_none (h : idOf? k log = none) (more : List ClientEvent) :
    verdict? k (log ++ more) = verdict? k more := by
  induction log with
  | nil => rfl
  | cons e log ih =>
    rw [idOf?, List.findSome?_cons] at h
    rw [List.cons_append, verdict?]
    cases he : e.requestOf? k with
    | some id' =>
      rw [he] at h
      cases h
    | none =>
      rw [he] at h
      exact ih h

theorem verdict?_eq_none (h : idOf? k log = none) : verdict? k log = none := by
  rw [← List.append_nil log, verdict?_of_idOf?_none h]
  rfl

theorem idOf?_append (log more : List ClientEvent) :
    idOf? k (log ++ more) = (idOf? k log).or (idOf? k more) :=
  List.findSome?_append

theorem isSome_of_verdict (h : verdict? k log = some v) : (idOf? k log).isSome = true := by
  cases hi : idOf? k log with
  | none => cases h.symm.trans (verdict?_eq_none hi)
  | some id => rfl

theorem verdict?_append_some (h : verdict? k log = some v) (more : List ClientEvent) :
    verdict? k (log ++ more) = some v := by
  obtain ⟨id, hid⟩ := Option.isSome_iff_exists.1 (isSome_of_verdict h)
  rw [verdict?_append hid, h, Option.some_or]

theorem exists_requested (h : idOf? k log = some id) :
    ∃ i : Nat, log[i]? = some (.requested k id) := by
  obtain ⟨e, hm, he⟩ := List.exists_of_findSome?_eq_some h
  rw [ClientEvent.requestOf?_eq_some.1 he] at hm
  exact List.mem_iff_getElem?.1 hm

end

namespace Requests

variable {r r' : Requests} {k id : Nat} {who : Option Nat} {e : ClientEvent}

/-- The request of a call is under way, and what it waits for has come or not. -/
structure Standing (r : Requests) (k id : Nat) : Prop where
  asked : idOf? k r.log = some id
  answer : r.answers.lookup id = (verdict? k r.log).bind Verdict.body?
  waits : id ∈ r.pending ↔ verdict? k r.log = none
  timely : ∀ v, verdict? k r.log = some v → v ≠ .late

theorem Change.log (h : Change r who r') (hne : who ≠ some k) :
    ∃ es, r'.log = r.log ++ es ∧ ∀ e ∈ es, e.requestOf? k = none := by
  cases h with
  | call | forget => exact ⟨[], (List.append_nil _).symm, List.forall_mem_nil _⟩
  | note he => exact ⟨_, rfl, List.forall_mem_singleton.2 (ClientEvent.of_isQuiet he k 0).1⟩
  | @register j id hj =>
    exact ⟨_, rfl, List.forall_mem_singleton.2 (if_neg fun h => hne (congrArg some h))⟩
  | number | expire | cutOff | answer | ignore | settle =>
    exact ⟨_, rfl, List.forall_mem_singleton.2 rfl⟩

theorem Change.active (h : Change r who r') (hne : who ≠ some k) {hold : Hold}
    (hk : r.active[k]? = some hold) : r'.active[k]? = some hold := by
  cases h with
  | call => exact getElem?_append_of_some hk
  | number | register | settle => exact getElem?_set_of_ne hk fun h => hne (congrArg some h.symm)
  | _ => exact hk

theorem Standing.log_append (h : r.Standing k id) (e : ClientEvent) :
    idOf? k (r.log ++ [e]) = some id ∧
      verdict? k (r.log ++ [e]) = (verdict? k r.log).or (e.verdict? id) := by
  rw [idOf?_append, h.asked, verdict?_append h.asked, List.findSome?_singleton]
  exact ⟨rfl, rfl⟩

theorem Standing.pass (h : r.Standing k id) (he : e.verdict? id = none)
    (hl : r'.log = r.log ++ [e]) (ha : r'.answers = r.answers)
    (hp : id ∈ r'.pending ↔ id ∈ r.pending) : r'.Standing k id := by
  obtain ⟨hi, hv⟩ := h.log_append e
  rw [he, Option.or_none, ← hl] at hv
  rw [← hl] at hi
  exact ⟨hi, by rw [ha, hv, h.answer], by rw [hp, hv, h.waits], hv ▸ h.timely⟩

theorem Standing.answered (h : r.Standing k id) (hp : id ∈ r.pending) (body : Json) :
    Standing { r with
      pending := r.pending.filter (· != id)
      answers := (id, body) :: r.answers
      log := r.log ++ [.dispatched (.response id body)] } k id := by
  obtain ⟨hi, hv⟩ := h.log_append (.dispatched (.response id body))
  rw [h.waits.1 hp, Option.none_or, ClientEvent.verdict?, if_pos rfl] at hv
  refine ⟨hi, ?_, ?_, ?_⟩
  · rw [hv, List.lookup_cons_self]
    rfl
  · rw [hv]
    exact iff_of_false (by simp) nofun
  · rw [hv]
    rintro _ ⟨⟩
    nofun

theorem Standing.cut (h : r.Standing k id) :
    Standing { r with pending := [], log := r.log ++ [.cutOff] } k id := by
  obtain ⟨hi, hv⟩ := h.log_append .cutOff
  have hanswer := h.answer
  have htimely := h.timely
  cases hw : verdict? k r.log with
  | none =>
    rw [hw] at hv hanswer
    exact ⟨hi, by rw [hv, hanswer]; rfl, by rw [hv]; simp [ClientEvent.verdict?],
      by rw [hv]; rintro _ ⟨⟩; nofun⟩
  | some v =>
    rw [hw] at hv hanswer htimely
    exact ⟨hi, by rw [hv, hanswer]; rfl, by rw [hv]; simp, by rw [hv]; exact htimely⟩

theorem Standing.change (h : r.Standing k id) (hr : Correlated r)
    (hk : r.active[k]? = some (.request id)) (hc : Change r who r') (hne : who ≠ some k) :
    r'.Standing k id := by
  have other {j id' : Nat} (hj : r.active[j]? = some (.request id')) (hw : some j ≠ some k) :
      id' ≠ id := by
    rintro rfl
    exact hw (congrArg some (hr.underWay.call_unique hr.numbered hj hk))
  cases hc with
  | call => exact ⟨h.asked, h.answer, h.waits, h.timely⟩
  | note he => exact h.pass (ClientEvent.of_isQuiet he k id).2 rfl rfl Iff.rfl
  | number hj => exact h.pass (e := .numbered _ _) rfl rfl rfl Iff.rfl
  | @register j id' hj =>
    have hid : id ≠ id' := by
      rintro rfl
      obtain ⟨i, hi⟩ := exists_requested h.asked
      exact hr.numbered.unregistered j id hj i k hi
    exact h.pass (e := .requested j id') rfl rfl rfl (List.mem_cons.trans (or_iff_right hid))
  | @expire j id' hj hp =>
    exact h.pass (e := .expired j id') (if_neg (other hj hne)) rfl rfl Iff.rfl
  | @forget j id' hj =>
    have hid := (other hj hne).symm
    refine ⟨h.asked, h.answer, ?_, h.timely⟩
    rw [← h.waits]
    simp [hid]
  | cutOff => exact h.cut
  | @answer id' body hp =>
    by_cases hid : id' = id
    · subst hid
      exact h.answered hp body
    · have hp' : Standing { r with
          pending := r.pending.filter (· != id')
          log := r.log ++ [.dispatched (.response id' body)] } k id :=
        h.pass (e := .dispatched (.response id' body)) (if_neg hid) rfl rfl (by simp [Ne.symm hid])
      refine ⟨hp'.asked, ?_, hp'.waits, hp'.timely⟩
      rw [List.lookup_cons, beq_false_of_ne (Ne.symm hid)]
      exact hp'.answer
  | @ignore id' body hp =>
    by_cases hid : id' = id
    · subst hid
      obtain ⟨hi, hv⟩ := h.log_append (.dispatched (.response id' body))
      obtain ⟨v, hw⟩ := Option.ne_none_iff_exists'.1 fun hn => hp (h.waits.2 hn)
      rw [hw, Option.some_or, ← hw] at hv
      exact ⟨hi, hv ▸ h.answer, hv ▸ h.waits, hv ▸ h.timely⟩
    · exact h.pass (e := .dispatched (.response id' body)) (if_neg hid) rfl rfl Iff.rfl
  | settle hj ho => exact h.pass (e := .settled _ _ _) rfl rfl rfl Iff.rfl

theorem Changes.log (h : Changes who r r') (hne : who ≠ some k) :
    ∃ es, r'.log = r.log ++ es ∧ ∀ e ∈ es, e.requestOf? k = none := by
  induction h with
  | refl => exact ⟨[], (List.append_nil _).symm, List.forall_mem_nil _⟩
  | tail _ hc ih =>
    obtain ⟨es, hl, he⟩ := ih
    obtain ⟨es', hl', he'⟩ := hc.log hne
    exact ⟨es ++ es', by rw [hl', hl, List.append_assoc], List.forall_mem_append.2 ⟨he, he'⟩⟩

theorem Changes.active (h : Changes who r r') (hne : who ≠ some k) {hold : Hold}
    (hk : r.active[k]? = some hold) : r'.active[k]? = some hold := by
  induction h with
  | refl => exact hk
  | tail _ hc ih => exact hc.active hne ih

theorem Standing.changes (h : r.Standing k id) (hr : Correlated r)
    (hk : r.active[k]? = some (.request id)) (hc : Changes who r r') (hne : who ≠ some k)
    (hn : requestCount r'.log < Nat.pow 2 64) : r'.Standing k id := by
  induction hc with
  | refl => exact h
  | tail hc hc' ih =>
    have hle := Correlated.requestCount_le_of_change hc'
    have hn' := Nat.lt_of_le_of_lt hle hn
    exact (ih hn').change (hr.changes hc hn') (Changes.active hc hne hk) hc' hne

end Requests
end Switchyard.Rpc
