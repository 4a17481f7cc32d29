import Switchyard.Registry.Start

namespace Switchyard

namespace Registry

/-- A delivery has its server. A server that has not seen a document yet gets an opening in the
place of a change, and nothing in the place of a closing. -/
def arrive (r : Registry) (errand : Errand) (e : Nat) (entry : Entry) (h : Nat) :
    Registry × DeliveryStage :=
  match errand with
  | .start => (r, .done (.accepted h))
  | .opening uri language text =>
    (r.modifyEntry e (·.addOpened uri), .sending h (.didOpen uri language 1 text))
  | .changing uri language text version =>
    if entry.opened.contains uri then (r, .sending h (.didChange uri version text))
    else (r.modifyEntry e (·.addOpened uri), .sending h (.didOpen uri language version text))
  | .closing uri =>
    if entry.opened.contains uri then
      (r.modifyEntry e (·.removeOpened uri), .sending h (.didClose uri))
    else (r, .done (.accepted h))
  | .telling method params => (r, .sending h (.other method params))

def seek (r : Registry) (errand : Errand) (e : Nat) (entry : Entry) : Registry × DeliveryStage :=
  match errand with
  | .closing _ =>
    match entry.handle? with
    | some h => r.arrive errand e entry h
    | none => (r, .done .declined)
  | _ =>
    if entry.slot.unusable then (r, .done (.failed (.unusable entry.config.id)))
    else
      match entry.slot.state with
      | .started h => r.arrive errand e entry h
      | .starting a => (r, .starting a)
      | .notStarted => (r.beginAttempt e entry, .starting r.attempts.length)

def advance (r : Registry) (errand : Errand) (d : Delivery) (entry : Entry) :
    Registry × DeliveryStage :=
  match d.stage with
  | .begun => r.seek errand d.entry entry
  | .starting a =>
    match (r.attempts[a]?).bind (·.outcome) with
    | none => (r, .starting a)
    | some (.ok h) => r.arrive errand d.entry entry h
    | some (.error e) => (r, .done (.failed e))
  | stage => (r, stage)

/-- A server has been sent a notification. One that is disposed takes none; an opening that is not
taken does not count as sent. -/
def sent (r : Registry) (t : Nat) (e h : Nat) (notice : Notice) (accepted : Bool) :
    Registry × DeliveryStage :=
  let alive := ((r.handles[h]?).map fun x => !x.disposed).getD false
  if accepted && alive then (r.note (.accepted t h notice), .done (.accepted h))
  else
    match notice with
    | .didOpen uri _ _ _ => (r.modifyEntry e (·.removeOpened uri), .done .declined)
    | _ => (r, .done .declined)

end Registry
end Switchyard
