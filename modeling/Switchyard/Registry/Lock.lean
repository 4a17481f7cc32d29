namespace Switchyard

structure DocumentLocks where
  table : List (String × Nat)
  /-- For each lock that has been made, the tasks that want it; the first of them has it. -/
  queues : List (List Nat)
  deriving Inhabited

namespace DocumentLocks

def empty : DocumentLocks := ⟨[], []⟩

def lock? (x : DocumentLocks) (uri : String) : Option Nat := x.table.lookup uri

def queue (x : DocumentLocks) (l : Nat) : List Nat := (x.queues[l]?).getD []

def request (x : DocumentLocks) (t : Nat) (uri : String) : DocumentLocks :=
  match x.lock? uri with
  | some l => { x with queues := x.queues.modify l (· ++ [t]) }
  | none => ⟨(uri, x.queues.length) :: x.table, x.queues ++ [[t]]⟩

def has (x : DocumentLocks) (t : Nat) : Bool := x.queues.any (·.head? == some t)

def release (x : DocumentLocks) (t : Nat) : DocumentLocks :=
  { x with queues := x.queues.map fun q => if q.head? == some t then q.drop 1 else q }

def drop (x : DocumentLocks) (uri : String) : DocumentLocks :=
  match x.lock? uri with
  | some l => if (x.queue l).isEmpty then { x with table := x.table.filter (·.1 != uri) } else x
  | none => x

end DocumentLocks
end Switchyard
