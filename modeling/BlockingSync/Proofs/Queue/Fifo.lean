import BlockingSync.Proofs.Queue.Move

namespace BlockingSync

abbrev QueueReport (α : Type) := Report (QueueCall α) (QueueResult α)

/-- A queue as its callers see it. However often a call waits, all it does to this is done in the
turn in which it returns. -/
structure Fifo (α : Type) where
  items : List α
  shutDown : Bool
deriving DecidableEq, Repr

namespace Fifo

variable {α : Type}

/-- What a report at the time `now` says of a queue on which nobody waits. Only a call that returns
does anything. -/
inductive Step (now : Instant) (fifo : Fifo α) : Option (QueueReport α) → Fifo α → Prop
  | silent : Step now fifo none fifo
  | wait {task : Nat} {call : QueueCall α} : Step now fifo (some ⟨task, call, .waiting⟩) fifo
  | push {task : Nat} {a : α} (isOpen : fifo.shutDown = false) :
      Step now fifo (some ⟨task, .push a, .returned .done⟩)
        { fifo with items := fifo.items ++ [a] }
  | refuse {task : Nat} {a : α} (closed : fifo.shutDown = true) :
      Step now fifo (some ⟨task, .push a, .returned (.refused a)⟩) fifo
  | pop {task : Nat} {timeout : Timeout} {a : α} {rest : List α} (items : fifo.items = a :: rest) :
      Step now fifo (some ⟨task, .pop timeout, .returned (.popped a)⟩) { fifo with items := rest }
  | drained {task : Nat} {timeout : Timeout} (empty : fifo.items = [])
      (closed : fifo.shutDown = true) :
      Step now fifo (some ⟨task, .pop timeout, .returned (.failed .shutDown)⟩) fifo
  | late {task : Nat} {timeout : Timeout} (empty : fifo.items = []) (isOpen : fifo.shutDown = false)
      (late : timeout.isExpired now = true) :
      Step now fifo (some ⟨task, .pop timeout, .returned (.failed .timedOut)⟩) fifo
  | close {task : Nat} :
      Step now fifo (some ⟨task, .shutDown, .returned .done⟩) { fifo with shutDown := true }
  | resize {task : Nat} {capacity : Capacity} :
      Step now fifo (some ⟨task, .setCapacity capacity, .returned .done⟩) fifo

end Fifo

namespace Queue

variable {α : Type}

def pushed? (report : QueueReport α) : Option α :=
  match report.outcome, report.call with
  | .returned .done, .push a => some a
  | _, _ => none

def popped? (report : QueueReport α) : Option α :=
  match report.outcome, report.call with
  | .returned (.popped a), .pop _ => some a
  | _, _ => none

def pushed (reports : List (QueueReport α)) : List α := reports.filterMap pushed?

def popped (reports : List (QueueReport α)) : List α := reports.filterMap popped?

def fifo (queue : Queue α) : Fifo α := ⟨queue.items, queue.shutDown⟩

variable {queue : Queue α} {now : Instant} {call : QueueCall α} {turn : QueueTurn α}
  {reports : List (QueueReport α)} {report : Option (QueueReport α)} {before after : Fifo α}

theorem items_of_step (h : before.Step now report after) :
    before.items ++ pushed report.toList = popped report.toList ++ after.items := by
  cases h with
  | silent | wait | refuse | drained | late | close | resize => exact List.append_nil before.items
  | push => rfl
  | pop items => exact (List.append_nil before.items).trans items

theorem pushed_of_step (h : before.Step now report after)
    (law : pushed reports = popped reports ++ before.items) :
    pushed (reports ++ report.toList) = popped (reports ++ report.toList) ++ after.items := by
  calc pushed (reports ++ report.toList)
      = popped reports ++ (before.items ++ pushed report.toList) := by
        rw [pushed, List.filterMap_append, ← pushed, ← pushed, law, List.append_assoc]
    _ = popped reports ++ (popped report.toList ++ after.items) := by rw [items_of_step h]
    _ = popped (reports ++ report.toList) ++ after.items := by
        rw [popped, popped, popped, List.filterMap_append, List.append_assoc]

theorem Move.fifo (m : Move now queue call turn) (task : Nat) :
    queue.fifo.Step now (some ⟨task, call, turn.outcome⟩) turn.state.fifo := by
  cases m with
  | pushRefuse closed => exact .refuse closed
  | pushWait => exact .wait
  | pushEnter isOpen => exact .push isOpen
  | popTake items => exact .pop items
  | popRefuse empty closed => exact .drained empty closed
  | popTimeout empty isOpen late => exact .late empty isOpen late
  | popWait => exact .wait
  | closeAgain closed =>
    have h : queue.fifo.Step now (some ⟨task, .shutDown, .returned .done⟩) _ := .close
    rwa [← closed] at h
  | close => exact .close
  | resize => exact .resize

theorem fifo_unblock (queue : Queue α) (stage : QueueStage) :
    (queue.unblock stage).fifo = queue.fifo := by
  cases stage <;> rfl

theorem fifo_of_change {room after : QueueRoom α} {event : Event (QueueCall α)}
    (hc : (monitor α).Change room event after report)
    (counted : Counted room.state room.suspended) :
    room.state.fifo.Step room.now report after.state.fifo := by
  cases hc with
  | number => exact .silent
  | wake _ hw =>
    rw [hw.state]
    exact .silent
  | start call free =>
    rw [Monitor.conclude_state]
    exact (start_move room.now room.state call).fifo room.next
  | run s earlier later hr =>
    rw [Monitor.conclude_state, ← fifo_unblock room.state s.stage]
    obtain ⟨m, -⟩ := (counted.perm (Monitor.suspended_of_ready hr)).resume room.now
    exact m.fifo s.task

/-- A queue on which calls wait, are overtaken, give up and go on does what one does on which nobody
waits: each call is answered as there, and values come out in the order in which they went in. -/
theorem refines_fifo (capacity : Capacity) (now : Instant) (events : List (Event (QueueCall α))) :
    pushed (run capacity now events).2 =
        popped (run capacity now events).2 ++ (run capacity now events).1.state.items ∧
      ∀ event, (run capacity now events).1.state.fifo.Step (run capacity now events).1.now
        ((monitor α).step (run capacity now events).1 event).2
        ((monitor α).step (run capacity now events).1 event).1.state.fifo := by
  constructor
  · refine ((monitor α).exec_induction
      (P := fun _ room reports => Counted room.state room.suspended ∧
        pushed reports = popped reports ++ room.state.items) ?_ ?_ events).2
    · exact ⟨counted_new capacity, rfl⟩
    · rintro events room reports event ⟨counted, law⟩
      have hc := (monitor α).step_change room event
      have hs := fifo_of_change hc counted
      exact ⟨keeps_counted.change reports hc counted, pushed_of_step hs law⟩
  · intro event
    exact fifo_of_change ((monitor α).step_change _ event) (counted_run capacity now events)

-- A push that waits for room is overtaken by one that comes later.
example :
    let events : List (Event (QueueCall Nat)) :=
      [.start (.push 1), .start (.push 2), .start (.pop .infinite), .start (.push 3), .run 1,
        .start (.pop .infinite), .run 1]
    let (room, reports) := run ⟨1, by decide⟩ .zero events
    pushed reports = [1, 3, 2] ∧ popped reports = [1, 3] ∧ room.state.items = [2] := by
  decide

end Queue

end BlockingSync
