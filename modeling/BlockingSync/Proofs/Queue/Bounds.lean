import BlockingSync.Proofs.Queue.Fifo
import BlockingSync.Proofs.Queue.Wakeup

namespace BlockingSync

namespace QueueCall

variable {α : Type}

def isResize : QueueCall α → Bool
  | setCapacity _ => true
  | _ => false

def serves (call other : QueueCall α) : Bool :=
  call.isPush && other.isPop || call.isPop && other.isPush

end QueueCall

theorem Fifo.Step.noFault {α : Type} {now : Instant} {before after : Fifo α}
    {report : QueueReport α} (h : before.Step now (some report) after) (fault : Fault) :
    report.outcome ≠ .returned (.fault fault) := by
  cases h <;> simp

namespace Queue

variable {α : Type} {queue : Queue α} {now : Instant} {call : QueueCall α} {turn : QueueTurn α}
  {waiting : List (Suspended (QueueCall α) QueueStage)} {room after : QueueRoom α}
  {event : Event (QueueCall α)} {report : QueueReport α}

theorem one_mem_wakeOther {others own : Nat} (h : .one () ∈ wakeOther others own) : own = 0 := by
  rw [wakeOther] at h
  split at h
  · cases h
  · split at h
    · next hown => exact hown
    · simp at h

theorem Counted.stage?_of_blocked (h : Counted queue waiting) {stage : QueueStage}
    (hb : queue.blocked stage = 0) {s : Suspended (QueueCall α) QueueStage} (hs : s ∈ waiting) :
    s.call.stage? = some stage.other := by
  rw [h.places s hs, (stage.eq_or_eq_other s.stage).resolve_left (h.stage_ne hb hs)]

theorem Move.serves (m : Move now queue call turn) (h : Counted queue waiting)
    (one : .one () ∈ turn.signals) : ∀ s ∈ waiting, call.serves s.call = true := by
  intro s hs
  cases m with
  | pushEnter =>
    have none : queue.blocked .pusher = 0 := one_mem_wakeOther one
    have pop := QueueCall.isPop_iff.mpr (h.stage?_of_blocked none hs)
    simp [QueueCall.serves, QueueCall.isPush, pop]
  | popTake =>
    have none : queue.blocked .popper = 0 := one_mem_wakeOther one
    have push := QueueCall.isPush_iff.mpr (h.stage?_of_blocked none hs)
    simp [QueueCall.serves, QueueCall.isPop, push]
  | close =>
    split at one
    · simp at one
    · cases one
  | _ => cases one

theorem Counted.move (counted : Counted room.state room.suspended)
    (hc : (monitor α).Change room event after (some report)) :
    ∃ task call queue turn, report = ⟨task, call, turn.outcome⟩ ∧ Move room.now queue call turn ∧
      after.state = turn.state ∧ queue.fifo = room.state.fifo ∧
      queue.capacity = room.state.capacity := by
  cases hc with
  | start call free =>
    have m := start_move room.now room.state call
    exact ⟨_, _, _, _, rfl, m, Monitor.conclude_state .., rfl, rfl⟩
  | run s earlier later hr =>
    obtain ⟨m, -⟩ := (counted.perm (Monitor.suspended_of_ready hr)).resume room.now
    refine ⟨_, _, _, _, rfl, m, Monitor.conclude_state .., fifo_unblock _ _, ?_⟩
    cases s.stage <;> rfl

theorem length_eq_of_fifo {other : Queue α} (h : queue.fifo = other.fifo) :
    queue.length = other.length :=
  congrArg (fun fifo : Fifo α => fifo.items.length) h

theorem Move.length_of_pushed (m : Move now queue call turn) (task : Nat)
    (pushed : (pushed? ⟨task, call, turn.outcome⟩).isSome = true) :
    turn.state.length ≤ turn.state.capacity.size := by
  cases m with
  | pushEnter isOpen space =>
    rw [length, List.length_append, List.length_singleton]
    exact space
  | _ => cases pushed

theorem Move.length_le (m : Move now queue call turn) (h : call.isResize = false) :
    turn.state.capacity = queue.capacity ∧
      turn.state.length ≤ max queue.capacity.size queue.length := by
  cases m with
  | pushEnter isOpen space =>
    refine ⟨rfl, Nat.le_trans ?_ (Nat.le_max_left _ _)⟩
    rw [length, List.length_append, List.length_singleton]
    exact space
  | popTake items =>
    refine ⟨rfl, Nat.le_trans ?_ (Nat.le_max_right _ _)⟩
    rw [length, length, items]
    exact Nat.le_succ _
  | resize => cases h
  | _ => exact ⟨rfl, Nat.le_max_right _ _⟩

theorem Counted.length_le {report : Option (QueueReport α)}
    (counted : Counted room.state room.suspended)
    (hc : (monitor α).Change room event after report)
    (h : ∀ r ∈ report.toList, r.call.isResize = false) :
    after.state.capacity = room.state.capacity ∧
      after.state.length ≤ max room.state.capacity.size room.state.length := by
  cases report with
  | none =>
    rw [hc.state_eq]
    exact ⟨rfl, Nat.le_max_right _ _⟩
  | some report =>
    obtain ⟨task, call, queue, turn, rfl, m, state, fifo, capacity⟩ := counted.move hc
    rw [state, ← capacity, ← length_eq_of_fifo fifo]
    exact m.length_le (h _ (List.mem_singleton.mpr rfl))

theorem length_exec_le (room : QueueRoom α) (counted : Counted room.state room.suspended)
    (events : List (Event (QueueCall α)))
    (h : ∀ r ∈ ((monitor α).exec room events).2, r.call.isResize = false) :
    ((monitor α).exec room events).1.state.capacity = room.state.capacity ∧
      ((monitor α).exec room events).1.state.length ≤
        max room.state.capacity.size room.state.length := by
  refine ((monitor α).exec_induction
    (P := fun _ now reports => Counted now.state now.suspended ∧
      ((∀ r ∈ reports, r.call.isResize = false) →
        now.state.capacity = room.state.capacity ∧
          now.state.length ≤ max room.state.capacity.size room.state.length)) ?_ ?_ events).2 h
  · exact ⟨counted, fun _ => ⟨rfl, Nat.le_max_right _ _⟩⟩
  · rintro events now reports event ⟨counted, ih⟩
    have hc := (monitor α).step_change now event
    refine ⟨keeps_counted.change reports hc counted, ?_⟩
    intro h
    obtain ⟨capacity, length⟩ := ih fun r hr => h r (List.mem_append_left _ hr)
    obtain ⟨capacity', length'⟩ := counted.length_le hc fun r hr => h r (List.mem_append_right _ hr)
    rw [capacity] at capacity' length'
    exact ⟨capacity', Nat.le_trans length' (Nat.max_le.mpr ⟨Nat.le_max_left _ _, length⟩)⟩

theorem length_of_resize (room : QueueRoom α) (capacity : Capacity) :
    ((monitor α).step room (.start (.setCapacity capacity))).1.state.length =
      room.state.length := by
  cases hb : (monitor α).busy room (.setCapacity capacity) with
  | true => simp [Monitor.step, hb]
  | false =>
    rw [(monitor α).step_start_room hb, Monitor.conclude_state]
    rfl

/-- The counters are the numbers of pushes and pops that are parked or ready, no call takes one
below zero, and a call that signals one call reaches one of the other kind. -/
structure Balanced (room : QueueRoom α) : Prop where
  pushers : room.state.blockedPushers = room.suspended.countP (·.call.isPush)
  poppers : room.state.blockedPoppers = room.suspended.countP (·.call.isPop)
  noFault : ∀ event report, ((monitor α).step room event).2 = some report →
    ∀ fault, report.outcome ≠ .returned (.fault fault)
  started : ∀ call, .one () ∈ (start room.now room.state call).signals →
    ∀ s ∈ room.parked, call.serves s.call = true
  resumed : ∀ s ∈ room.ready, .one () ∈ (resume room.now room.state s.call s.stage).signals →
    ∀ t ∈ room.parked, s.call.serves t.call = true

theorem Counted.balanced (counted : Counted room.state room.suspended) : Balanced room where
  pushers := (counted.blocked .pusher).trans (countAt_eq_countP counted.places QueueCall.isPush_iff)
  poppers := (counted.blocked .popper).trans (countAt_eq_countP counted.places QueueCall.isPop_iff)
  noFault event report he := by
    have hc := (monitor α).step_change room event
    rw [he] at hc
    exact (fifo_of_change hc counted).noFault
  started call one s hs :=
    (start_move room.now room.state call).serves counted one s (List.mem_append_left _ hs)
  resumed s hs one t ht := by
    obtain ⟨earlier, later, hr⟩ := List.append_of_mem hs
    -- when it signals, the call is no longer counted itself
    obtain ⟨m, counted'⟩ := (counted.perm (Monitor.suspended_of_ready hr)).resume room.now
    exact m.serves counted' one t (List.mem_append_left _ ht)

/-- A push that enters leaves the queue within its capacity, and so is a queue whose capacity has
never been set. Since its capacity was last set, a queue has been at most as long as it was then, or
within its capacity. -/
structure Bounded (capacity : Capacity) (now : Instant) (events : List (Event (QueueCall α))) :
    Prop where
  pushed : ∀ event report, ((monitor α).step (run capacity now events).1 event).2 = some report →
    (pushed? report).isSome = true →
    ((monitor α).step (run capacity now events).1 event).1.state.length ≤
      ((monitor α).step (run capacity now events).1 event).1.state.capacity.size
  kept : (∀ r ∈ (run capacity now events).2, r.call.isResize = false) →
    (run capacity now events).1.state.capacity = capacity ∧
      (run capacity now events).1.state.length ≤ capacity.size
  resized : ∀ before c later, events = before ++ .start (.setCapacity c) :: later →
    (∀ r ∈ ((monitor α).exec
        ((monitor α).step (run capacity now before).1 (.start (.setCapacity c))).1 later).2,
      r.call.isResize = false) →
    (run capacity now events).1.state.length ≤
      max (run capacity now events).1.state.capacity.size
        (run capacity now before).1.state.length

theorem bounded_run (capacity : Capacity) (now : Instant) (events : List (Event (QueueCall α))) :
    Bounded capacity now events where
  pushed event report he pushed := by
    have hc := (monitor α).step_change (run capacity now events).1 event
    rw [he] at hc
    have counted := counted_run capacity now events
    obtain ⟨task, call, queue, turn, rfl, m, state, -, -⟩ := counted.move hc
    rw [state]
    exact m.length_of_pushed task pushed
  kept h := by
    have hl := length_exec_le { state := new capacity, now := now } (counted_new capacity) events h
    exact ⟨hl.1, Nat.le_trans hl.2 (Nat.max_le.mpr ⟨Nat.le_refl _, Nat.zero_le _⟩)⟩
  resized before c later he h := by
    have counted := counted_run capacity now before
    have hc := (monitor α).step_change (run capacity now before).1 (.start (.setCapacity c))
    have hl := length_exec_le _ (keeps_counted.change [] hc counted) later h
    rw [← hl.1, length_of_resize] at hl
    rw [he, run, Monitor.exec_append]
    exact hl.2

/-- In every state that a run reaches, the counters of the queue are exact, and its length is
bounded by its capacity and by the length it had when the capacity was last set. -/
theorem balanced_and_bounded (capacity : Capacity) (now : Instant)
    (events : List (Event (QueueCall α))) :
    Balanced (run capacity now events).1 ∧ Bounded capacity now events :=
  ⟨(counted_run capacity now events).balanced, bounded_run capacity now events⟩

/-- The capacity is set below the length, and a push waits. -/
def loweredEvents : List (Event (QueueCall Nat)) :=
  [.start (.push 1), .start (.push 2), .start (.setCapacity ⟨1, by decide⟩), .start (.push 3)]

theorem balanced_and_bounded_lowered :
    let room := (run .unbounded .zero loweredEvents).1
    let later := ((monitor Nat).exec room [.start (.pop .infinite), .run 3]).1
    Balanced room ∧ room.state.blockedPushers = 1 ∧ room.state.capacity.size = 1 ∧
      room.state.length = 2 ∧ room.state.length ≤ max room.state.capacity.size 2 ∧
      later.state.length = 1 ∧ later.state.blockedPushers = 1 := by
  intro room later
  obtain ⟨balanced, bounded⟩ := balanced_and_bounded .unbounded .zero loweredEvents
  have le : room.state.length ≤ max room.state.capacity.size 2 :=
    bounded.resized [.start (.push 1), .start (.push 2)] _ [.start (.push 3)] rfl (by decide)
  exact ⟨balanced, by decide, by decide, by decide, le, by decide, by decide⟩

end Queue

end BlockingSync
