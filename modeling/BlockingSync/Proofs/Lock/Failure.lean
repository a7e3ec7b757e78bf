import BlockingSync.Proofs.Lock.Rollback

namespace BlockingSync

namespace Lock

variable {ι : Type} [DecidableEq ι] {lock : Lock ι} {now : Instant} {call : LockCall ι}
  {turn : LockTurn ι} {stray : Nat} {error : LockError}

/-- What a turn that fails at once has done: nothing, but that it may have signalled the readers of
an open lock. -/
structure Undone (lock : Lock ι) (turn : LockTurn ι) : Prop where
  state : turn.state = lock
  signals : ∀ signal ∈ turn.signals, signal = .all .readers ∧ lock.writers = 0

theorem Move.undone (m : Move now lock none call turn) (h : lock.Phase stray)
    (failed : turn.outcome = .returned (.failed error)) : Undone lock turn := by
  cases m with
  | expire | readUnheld | writeRefuse | writeUnheld => exact ⟨rfl, nofun⟩
  | upgradeBack claim _ _ reads =>
    -- claimed and taken back in one turn
    cases claim with
    | fresh registered idle writers readers =>
      have upgradable : lock.Upgradable _ :=
        ⟨Option.isSome_of_eq_some registered, (held_eq registered).symm ▸ idle, writers⟩
      have back := upgradable.abandon_claimed h
      rw [claimed, readers, Nat.add_sub_cancel, abandonUpgrade_back reads] at back
      exact ⟨back, fun signal hs => ⟨List.mem_singleton.mp hs, writers⟩⟩
  | upgradeWithdraw claim _ _ reads =>
    cases claim with
    | @fresh held _ registered idle writers =>
      have reading := ((h.shared_of_writers writers).reading _ held registered).1
      rw [← held_eq registered] at reading
      exact absurd reads (Nat.ne_of_gt reading)
  | _ => cases failed

theorem Undone.conclude {room : LockRoom ι} {task : Nat} (undone : Undone room.state turn)
    (none_lost : NoneLost room) (failed : turn.outcome = .returned (.failed error)) :
    ((monitor ι).conclude room task call turn).1 = room := by
  have unheard : ∀ signal ∈ turn.signals, ∀ s ∈ room.parked,
      s.stage.condition ≠ signal.condition := by
    intro signal hs s hp hc
    -- at an open lock no reader is parked that would hear the signal
    obtain ⟨rfl, free⟩ := undone.signals signal hs
    have taken := none_lost.reader s hp hc
    rw [free] at taken
    cases taken
  have silent : turn.signals.foldl (monitor ι).signal room = room :=
    Monitor.foldl_signal_of_nobody unheard
  rw [Monitor.conclude_eq, undone.state, Turn.left_eq_nil failed]
  simp only [silent, List.append_nil]

/-- A call that fails in the turn in which it starts changes nothing of the lock, the parked calls
and the ready ones. -/
theorem failed_at_once (now : Instant) (events : List (Event (LockCall ι))) {call : LockCall ι}
    {error : LockError}
    (failed : ((monitor ι).step (run now events).1 (.start call)).2 =
      some ⟨(run now events).1.next, call, .returned (.failed error)⟩) :
    ((monitor ι).step (run now events).1 (.start call)).1 =
      { (run now events).1 with next := (run now events).1.next + 1 } := by
  obtain ⟨stray, k⟩ := kept_run now events
  have none_lost := (no_lost_wakeup now events).1
  rw [report_start, Option.some.injEq, Report.mk.injEq] at failed
  have undone := (start_move k.sound.phase _ call).undone k.sound.phase failed.2.2
  rw [(monitor ι).step_start_room (not_busy _ call)]
  exact Undone.conclude undone { none_lost with } failed.2.2

def queuedWritersEvents : List (Event (LockCall Nat)) :=
  twoReadersEvents ++ [.start (.acquire .write 3 .infinite), .start (.acquire .write 4 .infinite),
    .wake 3]

theorem failed_at_once_queuedWriters :
    let room := (run .zero queuedWritersEvents).1
    let after := (monitor Nat).step room (.start (.acquire .write 1 (.expired .zero)))
    after.2 = some ⟨4, .acquire .write 1 (.expired .zero), .returned (.failed (.timedOut .write))⟩ ∧
      after.1 = { room with next := 5 } ∧ room.isParked 2 = true ∧ room.isReady 3 = true ∧
      room.state.state = ⟨2, 0, true, 2⟩ := by
  have failed : ((monitor Nat).step (run .zero queuedWritersEvents).1
      (.start (.acquire .write 1 (.expired .zero)))).2 =
        some ⟨(run .zero queuedWritersEvents).1.next, .acquire .write 1 (.expired .zero),
          .returned (.failed (.timedOut .write))⟩ := by
    decide
  exact ⟨failed, failed_at_once .zero queuedWritersEvents failed, by decide, by decide, by decide⟩

end Lock

end BlockingSync
