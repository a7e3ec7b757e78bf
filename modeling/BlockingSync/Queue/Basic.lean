import BlockingSync.Fault
import BlockingSync.Monitor.Basic

namespace BlockingSync

structure Capacity where
  size : Nat
  size_pos : 0 < size := by decide
deriving DecidableEq, Repr

def Capacity.ofNat? (n : Nat) : Option Capacity :=
  if h : 0 < n then some ⟨n, h⟩ else none

def Capacity.unbounded : Capacity where
  size := 0xffffffffffffffff

/-- A first-in first-out queue. A push waits while the queue is full, a pop while it is empty, and
both stop waiting once it has been shut down. They share one condition, and the queue counts both
kinds from the wait to the next turn, so that it can signal only when the other kind is waiting, and
to everyone when its own kind is waiting too. -/
structure Queue (α : Type) where
  items : List α := []
  shutDown : Bool := false
  blockedPushers : Nat := 0
  blockedPoppers : Nat := 0
  capacity : Capacity
deriving DecidableEq, Repr

inductive QueueCall (α : Type)
  | push (a : α)
  | pop (timeout : Timeout)
  | shutDown
  | setCapacity (capacity : Capacity)
deriving DecidableEq, Repr

inductive QueueStage
  | pusher
  | popper
deriving DecidableEq, Repr

inductive PopError
  | timedOut
  | shutDown
deriving DecidableEq, Repr

inductive QueueResult (α : Type)
  | done
  | refused (a : α)
  | popped (a : α)
  | failed (error : PopError)
  | fault (fault : Fault)
deriving DecidableEq, Repr

abbrev QueueTurn (α : Type) := Turn (Queue α) QueueStage Unit (QueueResult α)

namespace QueueCall

variable {α : Type}

def timeout : QueueCall α → Timeout
  | pop timeout => timeout
  | _ => .infinite

end QueueCall

namespace Queue

variable {α : Type}

def new (capacity : Capacity) : Queue α := { capacity }

def length (queue : Queue α) : Nat := queue.items.length

def isEmpty (queue : Queue α) : Bool := queue.items.isEmpty

def isFull (queue : Queue α) : Bool := queue.capacity.size ≤ queue.length

/-- The signal of a call that has made room, or an item, for the waiting calls of the other kind. -/
def wakeOther (others own : Nat) : List (Signal Unit) :=
  if others = 0 then [] else if own = 0 then [.one ()] else [.all ()]

def push (queue : Queue α) (a : α) : QueueTurn α :=
  if queue.shutDown then .returns queue (.refused a)
  else if queue.isFull then
    .waits { queue with blockedPushers := queue.blockedPushers + 1 } .pusher
  else
    (Turn.returns { queue with items := queue.items ++ [a] } .done).signalling
      (wakeOther queue.blockedPoppers queue.blockedPushers)

def pop (queue : Queue α) (now : Instant) (timeout : Timeout) : QueueTurn α :=
  match queue.items with
  | a :: rest =>
    (Turn.returns { queue with items := rest } (.popped a)).signalling
      (wakeOther queue.blockedPushers queue.blockedPoppers)
  | [] =>
    if queue.shutDown then .returns queue (.failed .shutDown)
    else if timeout.isExpired now then .returns queue (.failed .timedOut)
    else .waits { queue with blockedPoppers := queue.blockedPoppers + 1 } .popper

def close (queue : Queue α) : QueueTurn α :=
  if queue.shutDown then .returns queue .done
  else
    (Turn.returns { queue with shutDown := true } .done).signalling
      (if 0 < queue.blockedPushers ∨ 0 < queue.blockedPoppers then [.all ()] else [])

def start (now : Instant) (queue : Queue α) : QueueCall α → QueueTurn α
  | .push a => queue.push a
  | .pop timeout => queue.pop now timeout
  | .shutDown => queue.close
  | .setCapacity capacity => .returns { queue with capacity := capacity } .done

/-- Goes on with a push or pop. It is no longer counted as waiting, then it tries again. -/
def resume (now : Instant) (queue : Queue α) (call : QueueCall α) : QueueStage → QueueTurn α
  | .pusher =>
    match queue.blockedPushers with
    | 0 => .returns queue (.fault .belowZero)
    | n + 1 => start now { queue with blockedPushers := n } call
  | .popper =>
    match queue.blockedPoppers with
    | 0 => .returns queue (.fault .belowZero)
    | n + 1 => start now { queue with blockedPoppers := n } call

/-- The queue as a monitor. The capacity may only be changed while no call waits. -/
def monitor (α : Type) : Monitor (Queue α) (QueueCall α) QueueStage Unit (QueueResult α) where
  start := start
  resume := resume
  condition _ := ()
  timeout := QueueCall.timeout
  excludes
    | .setCapacity _, _ => true
    | _, _ => false

end Queue

end BlockingSync
