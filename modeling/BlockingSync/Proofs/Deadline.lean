import BlockingSync.Proofs.Lock.Wakeup
import BlockingSync.Proofs.Monitor.Deadline
import BlockingSync.Proofs.Queue.Move

namespace BlockingSync

open Monitor (Punctual OnTime)

def LockResult.isLate : LockResult → Bool
  | .failed (.timedOut _) => true
  | _ => false

namespace Lock

variable {ι : Type} [DecidableEq ι]

/-- What the call waits for at its stage, or would have to wait for now, is not so. -/
def HeldUp (lock : Lock ι) : LockCall ι → Option LockStage → Prop
  | _, some stage => lock.admits stage = false
  | .acquire .read id _, none => lock.heldBy id = none ∧ lock.readable = false
  | .acquire .write id _, none =>
    match lock.heldBy id with
    | none => lock.writable = false
    -- a reader waits for the other readers
    | some held => held.writes = 0 ∧ lock.writers = 0 ∧ 1 < lock.readers
  | .release .., none => False

variable {lock : Lock ι} {now : Instant} {id : ι} {timeout : Timeout} {heldUp : Prop}

theorem wait_timely {stage : LockStage} (h : lock.admits stage = false → heldUp) :
    Timely LockResult.isLate now timeout heldUp (lock.wait now stage id timeout).outcome := by
  obtain ⟨-, ht⟩ | ⟨closed, late, ht⟩ | ⟨closed, early, ht⟩ := lock.wait_cases now stage id timeout
  all_goals rw [ht]
  · exact .of_returns rfl
  · obtain ⟨mode, failed⟩ := lock.giveUp_outcome id stage
    rw [failed]
    exact .of_late (h closed) late
  · exact .of_waits (h closed) early

theorem acquireRead_timely :
    Timely LockResult.isLate now timeout (lock.HeldUp (.acquire .read id timeout) none)
      (lock.acquireRead now id timeout).outcome := by
  rw [acquireRead]
  cases hi : lock.heldBy id with
  | some held => exact .of_returns rfl
  | none => exact wait_timely fun closed => ⟨hi, closed⟩

theorem acquireWrite_timely :
    Timely LockResult.isLate now timeout (lock.HeldUp (.acquire .write id timeout) none)
      (lock.acquireWrite now id timeout).outcome := by
  rw [acquireWrite, HeldUp]
  cases hi : lock.heldBy id with
  | none => exact wait_timely fun closed => closed
  | some held =>
    dsimp only
    by_cases hw : 0 < held.writes
    · rw [if_pos hw]
      exact .of_returns rfl
    · rw [if_neg hw]
      by_cases hp : 0 < lock.writers
      · rw [if_pos hp]
        exact .of_returns rfl
      · rw [if_neg hp]
        cases hr : lock.readers with
        | zero => exact .of_returns rfl
        | succ others =>
          refine wait_timely fun left => ?_
          have hpos : others ≠ 0 := beq_eq_false_iff_ne.mp left
          omega

theorem release_timely (mode : Mode) :
    Timely LockResult.isLate now timeout heldUp (lock.release mode id).outcome := by
  obtain h | h | ⟨fault, h⟩ := lock.release_returned mode id
  all_goals
    rw [h]
    exact .of_returns rfl

theorem punctual : (monitor ι).Punctual LockResult.isLate HeldUp := by
  intro now lock call place
  cases place with
  | none =>
    obtain ⟨_ | _, id, timeout⟩ | ⟨mode, id⟩ := call
    · exact acquireRead_timely
    · exact acquireWrite_timely
    · exact release_timely mode
  | some stage => exact wait_timely fun closed => closed

theorem report_of_admits {events : List (Event (LockCall ι))}
    {s : Suspended (LockCall ι) LockStage} (hs : s ∈ (run now events).1.ready)
    (ha : (run now events).1.state.admits s.stage = true) :
    ((monitor ι).step (run now events).1 (.run s.task)).2 =
      some ⟨s.task, s.call, .returned .ok⟩ := by
  have ho : ((monitor ι).resume (run now events).1.now (run now events).1.state s.call
      s.stage).outcome = .returned .ok := wait_ok_iff.mpr ha
  rw [Monitor.step_run (numbered_run now events) hs, ho]

end Lock

def QueueResult.isLate {α : Type} : QueueResult α → Bool
  | .failed .timedOut => true
  | _ => false

namespace Queue

variable {α : Type}

/-- The queue is open, and there is no room for the push or no item for the pop. -/
def HeldUp (queue : Queue α) : QueueCall α → Option QueueStage → Prop
  | .push _, _ => queue.shutDown = false ∧ queue.capacity.size ≤ queue.length
  | .pop _, _ => queue.shutDown = false ∧ queue.items = []
  | .shutDown, _ => False
  | .setCapacity _, _ => False

theorem Move.timely {queue : Queue α} {now : Instant} {call : QueueCall α} {turn : QueueTurn α}
    (m : Move now queue call turn) (place : Option QueueStage) :
    Timely QueueResult.isLate now call.timeout (queue.HeldUp call place) turn.outcome := by
  cases m with
  | pushRefuse | pushEnter | popTake | popRefuse | closeAgain | close | resize =>
    exact .of_returns rfl
  | pushWait isOpen full => exact .of_waits ⟨isOpen, full⟩ rfl
  | popTimeout empty isOpen late => exact .of_late ⟨isOpen, empty⟩ late
  | popWait empty isOpen early => exact .of_waits ⟨isOpen, empty⟩ early

theorem heldUp_unblock (queue : Queue α) (stage : QueueStage) :
    (queue.unblock stage).HeldUp = queue.HeldUp := by
  funext call place
  cases stage <;> cases call <;> rfl

theorem resume_of_uncounted {queue : Queue α} {stage : QueueStage} (h : queue.blocked stage = 0)
    (now : Instant) (call : QueueCall α) :
    resume now queue call stage = .returns queue (.fault .belowZero) := by
  cases stage with
  | pusher | popper =>
    rw [blocked] at h
    simp [resume, h]

theorem punctual : (monitor α).Punctual QueueResult.isLate HeldUp := by
  intro now queue call place
  cases place with
  | none => exact (start_move now queue call).timely none
  | some stage =>
    change Timely QueueResult.isLate now call.timeout (queue.HeldUp call (some stage))
      (resume now queue call stage).outcome
    by_cases hb : 0 < queue.blocked stage
    · rw [resume_eq hb, ← heldUp_unblock queue stage]
      exact (start_move now _ call).timely (some stage)
    · rw [resume_of_uncounted (Nat.eq_zero_of_not_pos hb)]
      exact .of_returns rfl

theorem Move.popped {queue : Queue α} {now : Instant} {timeout : Timeout} {turn : QueueTurn α}
    (m : Move now queue (.pop timeout) turn) {a : α} {rest : List α} (h : queue.items = a :: rest) :
    turn.outcome = .returned (.popped a) := by
  cases m with
  | popTake items =>
    rw [h] at items
    cases items
    rfl
  | popRefuse empty | popTimeout empty | popWait empty =>
    rw [h] at empty
    cases empty

theorem report_of_items {capacity : Capacity} {now : Instant} {events : List (Event (QueueCall α))}
    {s : Suspended (QueueCall α) QueueStage} (hs : s ∈ (run capacity now events).1.ready)
    {timeout : Timeout} (hc : s.call = .pop timeout) {a : α} {rest : List α}
    (hi : (run capacity now events).1.state.items = a :: rest) :
    ((monitor α).step (run capacity now events).1 (.run s.task)).2 =
      some ⟨s.task, s.call, .returned (.popped a)⟩ := by
  have fresh : ({ state := new capacity, now := now } : QueueRoom α).suspended = [] := rfl
  have numbered := Monitor.numbered_exec (m := monitor α) fresh events
  rw [← run] at numbered
  obtain ⟨earlier, later, hl⟩ := List.append_of_mem hs
  have counted := (counted_run capacity now events).perm (Monitor.suspended_of_ready hl)
  obtain ⟨m, -⟩ := counted.resume (run capacity now events).1.now
  rw [hc] at m
  have ho : ((monitor α).resume (run capacity now events).1.now (run capacity now events).1.state
      s.call s.stage).outcome = .returned (.popped a) := by
    rw [hc]
    exact m.popped ((items_unblock _ _).trans hi)
  rw [Monitor.step_run numbered hs, ho]

end Queue

theorem Limit.start_within {t : Instant} {d : Duration} (h : 0x8000000000000000 ≤ t.secsAfter d) :
    (Limit.within d).start t = .infinite := by
  have hn : t.add? d = none := dif_neg fun hlt => absurd hlt.1 (Int.not_lt.mpr h)
  rw [Limit.start, Timeout.after, hn]
  rfl

/-- A lock and a queue keep the deadlines of their calls, in every state that a run reaches. A woken
call that can go on does so, whatever the clock says. A limit that ends beyond the last reading of
the clock is no limit. -/
theorem deadlines_kept (ι α : Type) [DecidableEq ι] :
    (∀ now (events : List (Event (LockCall ι))),
      let (room, reports) := Lock.run now events
      OnTime (Lock.monitor ι) LockResult.isLate Lock.HeldUp room reports ∧
        ∀ s ∈ room.ready, room.state.admits s.stage = true →
          ((Lock.monitor ι).step room (.run s.task)).2 = some ⟨s.task, s.call, .returned .ok⟩) ∧
    (∀ capacity now (events : List (Event (QueueCall α))),
      let (room, reports) := Queue.run capacity now events
      OnTime (Queue.monitor α) QueueResult.isLate Queue.HeldUp room reports ∧
        ∀ s ∈ room.ready, ∀ timeout a rest, s.call = .pop timeout →
          room.state.items = a :: rest →
          ((Queue.monitor α).step room (.run s.task)).2 =
            some ⟨s.task, s.call, .returned (.popped a)⟩) ∧
    ∀ (t : Instant) (d : Duration), 0x8000000000000000 ≤ t.secsAfter d →
      (Limit.within d).start t = .infinite := by
  refine ⟨?_, ?_, fun t d => Limit.start_within⟩
  · intro now events
    exact ⟨Lock.punctual.onTime rfl events, fun s => Lock.report_of_admits⟩
  · intro capacity now events
    exact ⟨Queue.punctual.onTime rfl events,
      fun s hs timeout a rest hc => Queue.report_of_items hs hc⟩

end BlockingSync
