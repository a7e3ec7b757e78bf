import BlockingSync.Proofs.Deadline
import BlockingSync.Proofs.Guarded.Backing
import BlockingSync.Proofs.Monitor.Settling

namespace BlockingSync

open Turn (Discreet discreet_waits discreet_of_returned)

namespace Lock

variable {ι : Type} [DecidableEq ι]

theorem wait_discreet (lock : Lock ι) (now : Instant) (stage : LockStage) (id : ι)
    (timeout : Timeout) : (lock.wait now stage id timeout).Discreet := by
  obtain ⟨-, ht⟩ | ⟨-, -, ht⟩ | ⟨-, -, ht⟩ := lock.wait_cases now stage id timeout
  all_goals rw [ht]
  · exact discreet_of_returned rfl
  · obtain ⟨mode, failed⟩ := lock.giveUp_outcome id stage
    exact discreet_of_returned failed
  · exact discreet_waits lock stage

theorem acquire_discreet (lock : Lock ι) (now : Instant) (mode : Mode) (id : ι)
    (timeout : Timeout) : (lock.acquire now mode id timeout).Discreet := by
  cases mode with
  | read =>
    rw [acquire, acquireRead]
    cases lock.heldBy id with
    | some held => exact discreet_of_returned rfl
    | none => exact lock.wait_discreet now .reader id timeout
  | write =>
    rw [acquire, acquireWrite]
    cases lock.heldBy id with
    | none => exact lock.wait_discreet now .writer id timeout
    | some held =>
      by_cases hw : 0 < held.writes
      · simpa only [hw, if_true] using discreet_of_returned rfl
      · by_cases hp : 0 < lock.writers
        · simpa only [hw, hp, if_true, if_false] using discreet_of_returned rfl
        · cases hr : lock.readers with
          | zero => simpa only [hw, hp, hr, if_false] using discreet_of_returned rfl
          | succ others =>
            simpa only [hw, hp, hr, if_false] using wait_discreet _ now .upgrader id timeout

theorem release_returns (lock : Lock ι) (mode : Mode) (id : ι) :
    ∃ result, (lock.release mode id).outcome = .returned result := by
  obtain h | h | ⟨fault, h⟩ := lock.release_returned mode id
  all_goals exact ⟨_, h⟩

theorem release_discreet (lock : Lock ι) (mode : Mode) (id : ι) :
    (lock.release mode id).Discreet := by
  obtain ⟨result, h⟩ := lock.release_returns mode id
  exact discreet_of_returned h

theorem discreet : (monitor ι).Discreet := by
  intro now lock call place
  cases place with
  | none =>
    cases call with
    | acquire mode id timeout => exact lock.acquire_discreet now mode id timeout
    | release mode id => exact lock.release_discreet mode id
  | some stage => exact lock.wait_discreet now stage call.id call.timeout

end Lock

namespace GuardedLock

variable {τ ν ι : Type} [DecidableEq τ] [DecidableEq ν] [DecidableEq ι]

omit [DecidableEq τ] [DecidableEq ν] in
theorem dropGuard_returns (lock : Lock ι) (guards : List (Guard τ ν ι)) (guard : Guard τ ν ι) :
    ∃ result, (dropGuard lock guards guard).outcome = .returned result := by
  obtain ⟨result, h⟩ := lock.release_returns guard.mode guard.id
  exact ⟨_, Turn.lift_outcome h _ _⟩

theorem keep_returns (g : GuardedLock τ ν ι) (lock : Lock ι) (guard : Guard τ ν ι) :
    ∃ result, (g.keep lock guard).outcome = .returned result := by
  rw [GuardedLock.keep]
  cases g.guard? guard.thread guard.name with
  | none => exact ⟨.ok, rfl⟩
  | some old => exact dropGuard_returns lock _ old

omit [DecidableEq τ] [DecidableEq ν] [DecidableEq ι] in
theorem unguarded_discreet (g : GuardedLock τ ν ι) {turn : LockTurn ι} (h : turn.Discreet) :
    Discreet (turn.lift (⟨·, g.guards⟩ : Lock ι → GuardedLock τ ν ι) GuardResult.ofLock) :=
  h.lift _ GuardResult.ofLock

theorem guarding_discreet (g : GuardedLock τ ν ι) (guard : Guard τ ν ι) {turn : LockTurn ι}
    (h : turn.Discreet) : (g.guarding guard turn).Discreet := by
  by_cases ok : turn.outcome = .returned .ok
  · obtain ⟨result, hk⟩ := g.keep_returns turn.state guard
    rw [guarding_of_ok ok]
    exact discreet_of_returned hk
  · rw [guarding_of_ne ok]
    exact g.unguarded_discreet h

theorem drop_discreet (g : GuardedLock τ ν ι) (thread : τ) (name : ν) :
    (g.drop thread name).Discreet := by
  rw [GuardedLock.drop]
  cases g.guard? thread name with
  | none => exact discreet_of_returned rfl
  | some guard =>
    obtain ⟨result, h⟩ := dropGuard_returns g.lock (g.without thread name) guard
    exact discreet_of_returned h

theorem discreet (who : τ → ι) : (monitor (ν := ν) who).Discreet := by
  intro now g call place
  cases place with
  | none =>
    cases call with
    | take mode thread name timeout =>
      exact g.guarding_discreet _ (g.lock.acquire_discreet now mode (who thread) timeout)
    | drop thread name => exact g.drop_discreet thread name
    | acquire mode thread timeout =>
      exact g.unguarded_discreet (g.lock.acquire_discreet now mode (who thread) timeout)
    | release mode thread =>
      exact g.unguarded_discreet (g.lock.release_discreet mode (who thread))
  | some stage =>
    have h := g.lock.wait_discreet now stage (who call.thread) call.timeout
    cases call with
    | take mode thread name timeout => exact g.guarding_discreet _ h
    | drop | acquire | release => exact g.unguarded_discreet h

end GuardedLock

namespace Queue

variable {α : Type}

theorem Move.discreet {queue : Queue α} {now : Instant} {call : QueueCall α} {turn : QueueTurn α}
    (m : Move now queue call turn) : turn.Discreet := by
  cases m with
  | pushWait | popWait => exact discreet_waits _ _
  | pushRefuse | pushEnter | popTake | popRefuse | popTimeout | closeAgain | close | resize =>
    exact discreet_of_returned rfl

theorem discreet : (monitor α).Discreet := by
  intro now queue call place
  cases place with
  | none => exact (start_move now queue call).discreet
  | some stage =>
    change (resume now queue call stage).Discreet
    by_cases hb : 0 < queue.blocked stage
    · rw [resume_eq hb]
      exact (start_move now _ call).discreet
    · rw [resume_of_uncounted (Nat.eq_zero_of_not_pos hb)]
      exact discreet_of_returned rfl

end Queue

/-- In every state that a run of a lock, of a lock behind guards or of a queue reaches, the ready
calls run until none is left. A call that waits again has woken nobody, and one that signals has
returned. -/
theorem wakeups_subside (τ ν ι α : Type) [DecidableEq τ] [DecidableEq ν] [DecidableEq ι] :
    (∀ now (events : List (Event (LockCall ι))),
      (Lock.monitor ι).Settles (Lock.run now events).1) ∧
    (∀ (who : τ → ι) now (events : List (Event (GuardCall τ ν))),
      (GuardedLock.monitor who).Settles (GuardedLock.run who now events).1) ∧
    ∀ capacity now (events : List (Event (QueueCall α))),
      (Queue.monitor α).Settles (Queue.run capacity now events).1 := by
  refine ⟨?_, ?_, ?_⟩
  · intro now events
    exact Lock.discreet.settles (Monitor.numbered_exec rfl events)
  · intro who now events
    exact (GuardedLock.discreet who).settles (Monitor.numbered_exec rfl events)
  · intro capacity now events
    exact Queue.discreet.settles (Monitor.numbered_exec rfl events)

-- All turns may be needed. A reader that has been woken for no reason waits again, and is woken
-- once more by the upgrade that gives up after it.
example :
    let events : List (Event (LockCall Nat)) :=
      [.start (.acquire .read 1 .infinite), .start (.acquire .read 2 .infinite),
        .start (.acquire .write 1 (.after .zero { secs := 1, nanos := 0 })),
        .start (.acquire .read 3 .infinite), .wake 3, .advance { secs := 1, nanos := 0 }]
    let room := (Lock.run .zero events).1
    room.turnsLeft = 3 ∧ ((Lock.monitor Nat).settle room).2.map (·.task) = [3, 2, 3] := by
  cbv

end BlockingSync
