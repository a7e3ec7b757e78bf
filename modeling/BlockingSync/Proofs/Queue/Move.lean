import BlockingSync.Proofs.Monitor.Run
import BlockingSync.Queue.Session

namespace BlockingSync

def QueueCall.stage? {α : Type} : QueueCall α → Option QueueStage
  | push _ => some .pusher
  | pop _ => some .popper
  | shutDown => none
  | setCapacity _ => none

def QueueStage.other : QueueStage → QueueStage
  | pusher => popper
  | popper => pusher

namespace Queue

variable {α : Type}

def blocked (queue : Queue α) : QueueStage → Nat
  | .pusher => queue.blockedPushers
  | .popper => queue.blockedPoppers

def unblock (queue : Queue α) : QueueStage → Queue α
  | .pusher => { queue with blockedPushers := queue.blockedPushers - 1 }
  | .popper => { queue with blockedPoppers := queue.blockedPoppers - 1 }

theorem items_unblock (queue : Queue α) (stage : QueueStage) :
    (queue.unblock stage).items = queue.items := by
  cases stage <;> rfl

/-- What a turn of a call does that starts, or goes on and is no longer counted. -/
inductive Move (now : Instant) (queue : Queue α) : QueueCall α → QueueTurn α → Prop
  | pushRefuse {a : α} (closed : queue.shutDown = true) :
      Move now queue (.push a) (.returns queue (.refused a))
  | pushWait {a : α} (isOpen : queue.shutDown = false)
      (full : queue.capacity.size ≤ queue.length) :
      Move now queue (.push a)
        (.waits { queue with blockedPushers := queue.blockedPushers + 1 } .pusher)
  | pushEnter {a : α} (isOpen : queue.shutDown = false)
      (space : queue.length < queue.capacity.size) :
      Move now queue (.push a)
        ⟨{ queue with items := queue.items ++ [a] },
          wakeOther queue.blockedPoppers queue.blockedPushers, .returns .done⟩
  | popTake {timeout : Timeout} {a : α} {rest : List α} (items : queue.items = a :: rest) :
      Move now queue (.pop timeout)
        ⟨{ queue with items := rest }, wakeOther queue.blockedPushers queue.blockedPoppers,
          .returns (.popped a)⟩
  | popRefuse {timeout : Timeout} (empty : queue.items = []) (closed : queue.shutDown = true) :
      Move now queue (.pop timeout) (.returns queue (.failed .shutDown))
  | popTimeout {timeout : Timeout} (empty : queue.items = []) (isOpen : queue.shutDown = false)
      (late : timeout.isExpired now = true) :
      Move now queue (.pop timeout) (.returns queue (.failed .timedOut))
  | popWait {timeout : Timeout} (empty : queue.items = []) (isOpen : queue.shutDown = false)
      (early : timeout.isExpired now = false) :
      Move now queue (.pop timeout)
        (.waits { queue with blockedPoppers := queue.blockedPoppers + 1 } .popper)
  | closeAgain (closed : queue.shutDown = true) : Move now queue .shutDown (.returns queue .done)
  | close (isOpen : queue.shutDown = false) :
      Move now queue .shutDown
        ⟨{ queue with shutDown := true },
          if 0 < queue.blockedPushers ∨ 0 < queue.blockedPoppers then [.all ()] else [],
          .returns .done⟩
  | resize (capacity : Capacity) :
      Move now queue (.setCapacity capacity) (.returns { queue with capacity := capacity } .done)

theorem isFull_iff {queue : Queue α} :
    queue.isFull = true ↔ queue.capacity.size ≤ queue.length :=
  decide_eq_true_iff

theorem push_move (now : Instant) (queue : Queue α) (a : α) :
    Move now queue (.push a) (queue.push a) := by
  rw [push]
  by_cases hs : queue.shutDown = true
  · rw [if_pos hs]
    exact .pushRefuse hs
  · rw [if_neg hs]
    have isOpen := Bool.eq_false_iff.mpr hs
    by_cases hf : queue.isFull = true
    · rw [if_pos hf]
      exact .pushWait isOpen (isFull_iff.mp hf)
    · rw [if_neg hf]
      exact .pushEnter isOpen (Nat.lt_of_not_le fun hle => hf (isFull_iff.mpr hle))

theorem pop_move (now : Instant) (queue : Queue α) (timeout : Timeout) :
    Move now queue (.pop timeout) (queue.pop now timeout) := by
  rw [pop]
  split
  · next a rest items => exact .popTake items
  · next empty =>
    by_cases hs : queue.shutDown = true
    · rw [if_pos hs]
      exact .popRefuse empty hs
    · rw [if_neg hs]
      have isOpen := Bool.eq_false_iff.mpr hs
      by_cases ht : timeout.isExpired now = true
      · rw [if_pos ht]
        exact .popTimeout empty isOpen ht
      · rw [if_neg ht]
        exact .popWait empty isOpen (Bool.eq_false_iff.mpr ht)

theorem close_move (now : Instant) (queue : Queue α) : Move now queue .shutDown queue.close := by
  rw [close]
  by_cases hs : queue.shutDown = true
  · rw [if_pos hs]
    exact .closeAgain hs
  · rw [if_neg hs]
    exact .close (Bool.eq_false_iff.mpr hs)

theorem start_move (now : Instant) (queue : Queue α) (call : QueueCall α) :
    Move now queue call (start now queue call) := by
  cases call with
  | push a => exact push_move now queue a
  | pop timeout => exact pop_move now queue timeout
  | shutDown => exact close_move now queue
  | setCapacity capacity => exact .resize capacity

theorem resume_eq {queue : Queue α} {stage : QueueStage} (h : 0 < queue.blocked stage)
    (now : Instant) (call : QueueCall α) :
    resume now queue call stage = start now (queue.unblock stage) call := by
  cases stage with
  | pusher =>
    obtain ⟨n, hn⟩ := Nat.exists_eq_succ_of_ne_zero (Nat.ne_of_gt h)
    rw [blocked] at hn
    simp [resume, unblock, hn]
  | popper =>
    obtain ⟨n, hn⟩ := Nat.exists_eq_succ_of_ne_zero (Nat.ne_of_gt h)
    rw [blocked] at hn
    simp [resume, unblock, hn]

def countAt (stage : QueueStage) (calls : List (Suspended (QueueCall α) QueueStage)) : Nat :=
  calls.countP (·.stage = stage)

/-- The calls wait where they may wait, and the queue counts them. -/
structure Counted (queue : Queue α) (waiting : List (Suspended (QueueCall α) QueueStage)) :
    Prop where
  places : ∀ s ∈ waiting, s.call.stage? = some s.stage
  blocked : ∀ stage, queue.blocked stage = countAt stage waiting

variable {queue : Queue α} {waiting others : List (Suspended (QueueCall α) QueueStage)}
  {now : Instant} {call : QueueCall α} {turn : QueueTurn α}

theorem Counted.perm (h : Counted queue waiting) (hp : waiting.Perm others) :
    Counted queue others where
  places s hs := h.places s (hp.mem_iff.mpr hs)
  blocked stage := (h.blocked stage).trans (hp.countP_eq _)

theorem countAt_cons (s : Suspended (QueueCall α) QueueStage) (stage : QueueStage) :
    countAt stage (s :: waiting) = countAt stage waiting + if s.stage = stage then 1 else 0 := by
  simp [countAt, List.countP_cons]

theorem countAt_append (stage : QueueStage) :
    countAt stage (waiting ++ others) = countAt stage waiting + countAt stage others :=
  List.countP_append

theorem Counted.unblock {s : Suspended (QueueCall α) QueueStage}
    (h : Counted queue (s :: waiting)) :
    0 < queue.blocked s.stage ∧ Counted (queue.unblock s.stage) waiting := by
  have hb := h.blocked
  simp only [countAt_cons] at hb
  refine ⟨by rw [hb, if_pos rfl]; exact Nat.succ_pos _, ?_, ?_⟩
  · exact fun t ht => h.places t (List.mem_cons_of_mem s ht)
  · intro stage
    have hs := hb stage
    cases hk : s.stage <;> cases stage <;> simp_all [Queue.unblock, Queue.blocked]

theorem Counted.resume {s : Suspended (QueueCall α) QueueStage} (h : Counted queue (s :: waiting))
    (now : Instant) :
    Move now (queue.unblock s.stage) s.call (resume now queue s.call s.stage) ∧
      Counted (queue.unblock s.stage) waiting := by
  obtain ⟨hb, h'⟩ := h.unblock
  rw [resume_eq hb]
  exact ⟨start_move now _ s.call, h'⟩

theorem Counted.wait (h : Counted queue waiting) {stage : QueueStage}
    (hc : call.stage? = some stage) {after : Queue α}
    (hb : ∀ k, after.blocked k = queue.blocked k + if stage = k then 1 else 0)
    (task : Nat) : Counted after (⟨task, call, stage⟩ :: waiting) where
  places s hs := by
    obtain rfl | hs := List.mem_cons.mp hs
    · exact hc
    · exact h.places s hs
  blocked k := by rw [hb, h.blocked, countAt_cons]

theorem Move.counted (m : Move now queue call turn) (h : Counted queue waiting) (task : Nat) :
    Counted turn.state (turn.left task call ++ waiting) := by
  cases m with
  | pushRefuse => exact ⟨h.places, h.blocked⟩
  | pushWait => exact h.wait rfl (fun k => by cases k <;> rfl) task
  | pushEnter => exact ⟨h.places, h.blocked⟩
  | popTake => exact ⟨h.places, h.blocked⟩
  | popRefuse => exact ⟨h.places, h.blocked⟩
  | popTimeout => exact ⟨h.places, h.blocked⟩
  | popWait => exact h.wait rfl (fun k => by cases k <;> rfl) task
  | closeAgain => exact ⟨h.places, h.blocked⟩
  | close => exact ⟨h.places, h.blocked⟩
  | resize => exact ⟨h.places, h.blocked⟩

theorem counted_new (capacity : Capacity) : Counted (new capacity : Queue α) [] where
  places s hs := by cases hs
  blocked stage := by cases stage <;> rfl

theorem keeps_counted : (monitor α).Keeps fun queue waiting _ => Counted queue waiting where
  perm hp h := h.perm hp
  start now task call _ h := (start_move now _ call).counted h task
  resume now s h := by
    obtain ⟨m, h'⟩ := h.resume now
    exact m.counted h' s.task

def run (capacity : Capacity) (now : Instant) (events : List (Event (QueueCall α))) :
    QueueRoom α × List (Report (QueueCall α) (QueueResult α)) :=
  (monitor α).exec { state := new capacity, now := now } events

theorem counted_run (capacity : Capacity) (now : Instant) (events : List (Event (QueueCall α))) :
    Counted (run capacity now events).1.state (run capacity now events).1.suspended :=
  keeps_counted.exec (counted_new capacity) events

end Queue

end BlockingSync
