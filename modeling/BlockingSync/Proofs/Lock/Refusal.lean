import BlockingSync.Proofs.Lock.Consistency
import BlockingSync.Proofs.Lock.Upgrade

namespace BlockingSync

namespace Lock

variable {ι : Type} [DecidableEq ι] {lock : Lock ι} {id u : ι} {held : HeldCounts}
  {now : Instant} {timeout : Timeout} {stray : Nat} {room : LockRoom ι}
  {s : Suspended (LockCall ι) LockStage}

theorem wait_ne_deadlock (lock : Lock ι) (now : Instant) (stage : LockStage) (id : ι)
    (timeout : Timeout) :
    (lock.wait now stage id timeout).outcome ≠ .returned (.failed .deadlock) := by
  intro refused
  obtain ⟨-, ht⟩ := wait_of_failed refused
  obtain ⟨mode, failed⟩ := lock.giveUp_outcome id stage
  rw [ht, failed] at refused
  cases refused

theorem WaitsAt.claims_of_upgrader (h : WaitsAt s.call s.stage) (hk : s.stage = .upgrader) :
    s.claims s.call.id = true := by
  obtain ⟨task, call, stage⟩ := s
  cases h with
  | reader | writer => cases hk
  | upgrader id timeout => simp [Suspended.claims, LockCall.acquires, LockCall.id]

theorem Upgrading.acquireWrite_eq (h : lock.Upgrading u stray)
    (registered : lock.heldBy id = some held) (now : Instant) (timeout : Timeout) :
    lock.acquireWrite now id timeout = .returns lock (.failed .deadlock) := by
  have idle := (h.reading id held registered).2
  have claimed : 0 < lock.writers := h.writers ▸ Nat.one_pos
  rw [acquireWrite, registered]
  dsimp only
  rw [idle, if_neg (Nat.lt_irrefl 0), if_pos claimed]

/-- The upgrade for which `s` waits in the room is not granted before `id` has given back the read
locks that it holds there and those that it takes later. -/
def HeldOff (room : LockRoom ι) (s : Suspended (LockCall ι) LockStage) (id : ι) : Prop :=
  ∀ more, Monitor.Unreturned s.task ((monitor ι).exec room more).2 →
    ∀ event report, ((monitor ι).step ((monitor ι).exec room more).1 event).2 = some report →
      report.task = s.task → report.outcome = .returned .ok →
      ((monitor ι).exec room more).1.state.heldBy id = none ∧
        released ((monitor ι).exec room more).2 .read id =
          (room.state.held id).reads + acquired ((monitor ι).exec room more).2 .read id

theorem heldOff_run {events : List (Event (LockCall ι))} (hs : s ∈ (run now events).1.suspended)
    (hk : s.stage = .upgrader) (hne : id ≠ s.call.id) : HeldOff (run now events).1 s id := by
  intro more unreturned event report he hn granted
  obtain ⟨stray, k⟩ := kept_run now events
  have p := pending_exec k.sound hs hk unreturned
  have balance := p.shut.balance .read id
  have waits := p.waits
  rw [run_append] at he waits balance ⊢
  obtain ⟨stray', k'⟩ := kept_run now (events ++ more)
  -- when the upgrade is granted, nobody but its own identity is registered
  have upgrading := k'.sound.upgrading_of_upgrader waits hk
  obtain ⟨rest, -, rfl⟩ := run_of_upgrader (numbered_run now (events ++ more)) waits hk he hn
  obtain ⟨hr, -⟩ := upgrade_of_ok granted
  have left := upgrading.unregistered_of_ne hr hne
  refine ⟨left, ?_⟩
  rw [held_eq_of_none left] at balance
  exact (Nat.zero_add _).symm.trans balance

theorem Move.place_of_refused {place : Option LockStage} {call : LockCall ι} {turn : LockTurn ι}
    (m : Move now lock place call turn) (h : turn.outcome = .returned (.failed .deadlock)) :
    place = none := by
  cases m with
  | writeRefuse => rfl
  | _ => cases h

theorem Sound.not_refused (sound : Sound room.state room.suspended stray) {task : Nat}
    {after : LockRoom ι} {report : LockReport ι}
    (hc : (monitor ι).Change room (.run task) after (some report)) :
    report.outcome ≠ .returned (.failed .deadlock) := by
  cases hc with
  | run s earlier later hr =>
    have waits := (sound.perm (Monitor.suspended_of_ready hr)).waits s List.mem_cons_self
    intro refused
    cases (resume_move waits _ _).place_of_refused refused

theorem Phase.refused_iff (phase : room.state.Phase stray)
    (registered : room.state.heldBy id = some held) (idle : held.writes = 0) (timeout : Timeout) :
    ((monitor ι).step room (.start (.acquire .write id timeout))).2 =
        some ⟨room.next, .acquire .write id timeout, .returned (.failed .deadlock)⟩ ↔
      room.state.upgrading.isSome := by
  rw [report_start, Option.some.injEq, Report.mk.injEq]
  simp only [true_and, start, acquire]
  obtain ⟨u, h⟩ | h := phase.upgrading_or_shared registered idle
  · rw [h.acquireWrite_eq registered, h.upgrading]
    exact iff_of_true rfl rfl
  · have upgradable : room.state.Upgradable id :=
      ⟨Option.isSome_of_eq_some registered, h.writes_eq_zero id, h.writers⟩
    rw [upgradable.acquireWrite_eq phase, h.upgrading]
    exact iff_of_false (wait_ne_deadlock _ _ _ _ _) nofun

/-- What becomes of an acquisition of the write lock by the reader `id`. -/
structure Refusal (id : ι) (room : LockRoom ι) : Prop where
  iff : ∀ timeout, ((monitor ι).step room (.start (.acquire .write id timeout))).2 =
      some ⟨room.next, .acquire .write id timeout, .returned (.failed .deadlock)⟩ ↔
    room.state.upgrading.isSome
  atOnce : ∀ more task report,
    ((monitor ι).step ((monitor ι).exec room more).1 (.run task)).2 = some report →
      report.outcome ≠ .returned (.failed .deadlock)
  unwritten : ∀ y, (room.state.held y).writes = 0
  right : ∀ u, room.state.upgrading = some u → u ≠ id → 0 < (room.state.held id).reads ∧
    ∃ s ∈ room.suspended, s.claims u = true ∧ HeldOff room s id

/-- A reader is refused the write lock just when an upgrade is pending, which waits for it. -/
theorem refused_iff_upgrading {events : List (Event (LockCall ι))}
    (registered : (run now events).1.state.heldBy id = some held) (idle : held.writes = 0) :
    Refusal id (run now events).1 := by
  obtain ⟨stray, k⟩ := kept_run now events
  have phase := k.sound.phase
  refine ⟨phase.refused_iff registered idle, ?_, ?_, ?_⟩
  · intro more task report he
    rw [run_append] at he
    obtain ⟨stray', k'⟩ := kept_run now (events ++ more)
    have hc := (monitor ι).step_change (run now (events ++ more)).1 (.run task)
    rw [he] at hc
    exact k'.sound.not_refused hc
  · obtain ⟨u, h⟩ | h := phase.upgrading_or_shared registered idle
    · exact h.writes_eq_zero
    · exact h.writes_eq_zero
  · intro u hu hne
    obtain ⟨s, hs, hk, rfl⟩ := k.sound.upgrading_iff.mp hu
    refine ⟨?_, s, hs, (k.sound.waits s hs).claims_of_upgrader hk, heldOff_run hs hk hne.symm⟩
    rw [held_eq registered]
    exact ((phase.upgrading_of_pending hu).reading id held registered).1 hne.symm

def pendingUpgradeEvents : List (Event (LockCall Nat)) :=
  twoReadersEvents ++ [.start (.acquire .write 1 .infinite)]

theorem refused_iff_upgrading_pendingUpgrade :
    let room := (run .zero pendingUpgradeEvents).1
    let later := (monitor Nat).exec room [.start (.release .read 2)]
    room.state.heldBy 2 = some { reads := 1 } ∧ room.state.upgrading = some 1 ∧ Refusal 2 room ∧
      Monitor.Unreturned 2 later.2 ∧
      ((monitor Nat).step later.1 (.run 2)).2 =
        some ⟨2, .acquire .write 1 .infinite, .returned .ok⟩ := by
  have registered : (run .zero pendingUpgradeEvents).1.state.heldBy 2 = some { reads := 1 } := by
    decide
  exact ⟨registered, by decide, refused_iff_upgrading registered rfl, by decide, by decide⟩

end Lock

end BlockingSync
