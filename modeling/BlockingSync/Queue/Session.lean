import BlockingSync.Monitor.Session
import BlockingSync.Queue.Text

namespace BlockingSync

inductive QueueRequest (α : Type)
  | push (a : α)
  | pop (limit : Limit)
  | shutDown
  | setCapacity (size : Nat)
  | text (pretty : Bool)

inductive QueueAnswer
  | text (s : String)
  | zeroCapacity
deriving DecidableEq, Repr

abbrev QueueRoom (α : Type) := Room (Queue α) (QueueCall α) QueueStage

structure QueueView where
  length : Nat
  isEmpty : Bool
  shutDown : Bool
  capacity : Capacity
  text : String

namespace Queue

variable {α : Type}

def plan (room : QueueRoom α) : QueueRequest α → Plan (QueueCall α) QueueAnswer
  | .push a => .call (.push a)
  | .pop limit => .call (.pop (limit.start room.now))
  | .shutDown => .call .shutDown
  | .setCapacity size =>
    match Capacity.ofNat? size with
    | some capacity => .call (.setCapacity capacity)
    | none => .answer .zeroCapacity
  | .text pretty => .answer (.text (room.state.tree.render pretty))

def session (capacity : Capacity) (now : Instant) (steps : List (Step (QueueRequest α))) :
    List (StepAnswer (QueueCall α) QueueAnswer (QueueResult α) × QueueRoom α) :=
  (monitor α).session plan { state := .new capacity, now := now } steps

def view (queue : Queue α) : QueueView where
  length := queue.length
  isEmpty := queue.isEmpty
  shutDown := queue.shutDown
  capacity := queue.capacity
  text := queue.tree.line

end Queue

end BlockingSync
