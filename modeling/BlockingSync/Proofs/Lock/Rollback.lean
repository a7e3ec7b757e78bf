import Mathlib
import BlockingSync.Proofs.Lock.Upgrade

namespace BlockingSync

namespace Lock

variable {ι : Type} [DecidableEq ι] {lock before after : Lock ι} {u : ι} {now : Instant}
  {timeout : Timeout} {stray : Nat} {reports : List (LockReport ι)} {room later rest : LockRoom ι}

def readersOf (lock : Lock ι) (u : ι) : Nat := if 0 < (lock.held u).reads then 1 else 0

structure Unclaimed (u : ι) (lock after : Lock ι) (stray : Nat) : Prop where
  shared : after.Shared stray
  held : ∀ y, after.held y = lock.held y
  others : ∀ y, y ≠ u → after.heldBy y = lock.heldBy y
  readers : after.readers = lock.readers + after.readersOf u

theorem Upgrading.unclaimed (h : lock.Upgrading u stray) (hr : lock.readers ≠ 0) :
    Unclaimed u lock (lock.abandonUpgrade u).state stray := by
  by_cases hk : 0 < (lock.held u).reads
  · rw [abandonUpgrade_back hk]
    refine ⟨h.back hk, fun _ => rfl, fun _ _ => rfl, ?_⟩
    change lock.readers + 1 = lock.readers + lock.readersOf u
    rw [readersOf, if_pos hk]
  · -- its read locks were released meanwhile, and the entry goes with the claim
    have empty := HeldCounts.eq_empty (Nat.eq_zero_of_not_pos hk) (h.writes_eq_zero u)
    rw [abandonUpgrade_withdraw hk hr]
    have held : ∀ y, (lock.forget u).held y = lock.held y := by
      intro y
      rw [held_forget]
      split
      · next hy => rw [hy, empty]
      · rfl
    refine ⟨h.withdraw, held, ?_, ?_⟩
    · intro y hy
      exact (heldBy_forget lock u y).trans (if_neg hy)
    · change lock.readers = lock.readers + (lock.forget u).readersOf u
      rw [readersOf, held u, if_neg hk, Nat.add_zero]

theorem Upgradable.abandon_claimed (h : lock.Upgradable u) (phase : lock.Phase stray) :
    ((lock.claimed u).abandonUpgrade u).state = lock := by
  have shared := phase.shared_of_writers h.free
  obtain ⟨held, registered⟩ := Option.isSome_iff_exists.mp h.registered
  have reads : 0 < ((lock.claimed u).held u).reads := by
    change 0 < (lock.held u).reads
    rw [held_eq registered]
    exact (shared.reading u held registered).1
  rw [abandonUpgrade_back reads]
  change { lock with
    upgrading := none, writers := 0, canRead := true, readers := lock.readers - 1 + 1 } = lock
  rw [← h.readers phase, ← shared.upgrading, ← shared.writers, ← shared.canRead]

theorem all_readers_mem_abandonUpgrade (lock : Lock ι) (u : ι) :
    .all .readers ∈ (lock.abandonUpgrade u).signals := by
  rw [abandonUpgrade]
  split
  · exact List.mem_singleton.mpr rfl
  · split
    · exact List.mem_cons_of_mem _ List.mem_cons_self
    · exact List.mem_singleton.mpr rfl

theorem stage_ne_reader_of_abandonUpgrade (rest : LockRoom ι) (task : Nat) (call : LockCall ι)
    (lock : Lock ι) (u : ι) {s : Suspended (LockCall ι) LockStage}
    (hs : s ∈ ((monitor ι).conclude rest task call (lock.abandonUpgrade u)).1.parked) :
    s.stage ≠ .reader := by
  obtain ⟨woken, c⟩ := (monitor ι).conclude_concluded rest task call (lock.abandonUpgrade u)
  obtain own | ⟨-, unsignalled⟩ := c.mem s hs
  · rw [Turn.left_eq_nil (abandonUpgrade_outcome lock u)] at own
    cases own
  · intro hk
    exact unsignalled .readers (all_readers_mem_abandonUpgrade lock u) (congrArg _ hk)

/-- An upgrade of `u` that was claimed in `before` is taken back in `lock`. The reports tell of the
time between. -/
structure TakenBack (u : ι) (before lock : Lock ι) (reports : List (LockReport ι))
    (after : LockRoom ι) : Prop where
  upgrading : after.state.upgrading = none
  writers : after.state.writers = 0
  canRead : after.state.canRead = true
  unparked : ∀ s ∈ after.parked, s.stage ≠ .reader
  writes : (after.state.held u).writes = 0
  reads : (after.state.held u).reads + released reports .read u =
    (before.held u).reads + acquired reports .read u
  absent : after.state.heldBy u = none ↔ (after.state.held u).reads = 0
  readers : after.state.readers = lock.readers + after.state.readersOf u
  others : ∀ y, y ≠ u → after.state.heldBy y = lock.heldBy y
  occupied : after.state.readersOf u < after.state.readers
  taken : after.state.writable = false
  restored : (∀ r ∈ reports, r.outcome ≠ .returned .ok) → after.state = before

theorem Shared.heldBy_eq_none_iff (h : lock.Shared stray) :
    lock.heldBy u = none ↔ (lock.held u).reads = 0 := by
  constructor
  · intro unregistered
    rw [held_eq_of_none unregistered]
  · intro hz
    cases registered : lock.heldBy u with
    | none => rfl
    | some held =>
      have reads := (h.reading u held registered).1
      rw [held_eq registered] at hz
      exact absurd hz (Nat.ne_of_gt reads)

theorem UnderClaim.takenBack (c : UnderClaim u timeout room later reports)
    (h : room.state.Upgradable u) (phase : room.state.Phase stray) {stray' : Nat}
    (upgrading : later.state.Upgrading u stray') (hr : later.state.readers ≠ 0) (task : Nat)
    (call : LockCall ι) :
    TakenBack u room.state later.state reports
      ((monitor ι).conclude rest task call (later.state.abandonUpgrade u)).1 := by
  have undone := upgrading.unclaimed hr
  have shared := undone.shared
  have occupied : (later.state.abandonUpgrade u).state.readersOf u <
      (later.state.abandonUpgrade u).state.readers := by
    rw [undone.readers]
    exact Nat.lt_add_of_pos_left (Nat.pos_of_ne_zero hr)
  have unparked := fun s => stage_ne_reader_of_abandonUpgrade rest task call later.state u (s := s)
  have state := (monitor ι).conclude_state rest task call (later.state.abandonUpgrade u)
  refine ⟨?_, ?_, ?_, unparked, ?_, ?_, ?_, ?_, ?_, ?_, ?_, ?_⟩ <;> rw [state]
  · exact shared.upgrading
  · exact shared.writers
  · exact shared.canRead
  · exact shared.writes_eq_zero u
  · rw [undone.held]
    exact c.shut.balance .read u
  · exact shared.heldBy_eq_none_iff
  · exact undone.readers
  · exact undone.others
  · exact occupied
  · refine Bool.eq_false_iff.mpr fun writable => ?_
    exact Nat.not_lt_zero _ ((writable_iff.mp writable).1 ▸ occupied)
  · intro quiet
    rw [c.unmoved quiet]
    exact h.abandon_claimed phase

/-- An upgrade that waited until its time was over is taken back, and only its claim is undone. -/
theorem upgrade_taken_back {events : List (Event (LockCall ι))}
    (h : (run now events).1.state.Upgradable u) (timeout : Timeout)
    (more : List (Event (LockCall ι))) :
    let room := (run now events).1
    let later := (monitor ι).exec room (.start (.acquire .write u timeout) :: more)
    Monitor.Unreturned room.next later.2 →
    ∀ event report, ((monitor ι).step later.1 event).2 = some report → report.task = room.next →
      report.outcome = .returned (.failed (.timedOut .write)) →
      TakenBack u room.state later.1.state later.2 ((monitor ι).step later.1 event).1 := by
  intro room later unreturned event report he hn failed
  obtain ⟨stray, k⟩ := kept_run now events
  have c : UnderClaim u timeout room later.1 later.2 := h.exec k.sound unreturned
  have hl : later.1 = (run now (events ++ .start (.acquire .write u timeout) :: more)).1 :=
    run_append now events _
  obtain ⟨stray', k'⟩ := kept_run now (events ++ .start (.acquire .write u timeout) :: more)
  have numbered := numbered_run now (events ++ .start (.acquire .write u timeout) :: more)
  rw [← hl] at k' numbered
  have upgrading := k'.sound.upgrading_of_upgrader c.waits rfl
  obtain ⟨rest, hroom, rfl⟩ := run_of_upgrader numbered c.waits rfl he hn
  obtain ⟨hr, ht⟩ := upgrade_of_failed failed
  rw [hroom, ht]
  exact c.takenBack h k.sound.phase upgrading hr room.next _

/-- While the upgrade of 1 is pending, 1 reads once more and then gives all its read locks back, and
3 waits to read; then the time of the upgrade is over. -/
def releasedElsewhereEvents : List (Event (LockCall Nat)) :=
  [.start (.acquire .read 1 .infinite), .start (.release .read 1), .start (.release .read 1),
    .start (.acquire .read 3 .infinite), .advance { Duration.zero with secs := 9 }]

theorem upgrade_taken_back_releasedElsewhere :
    let room := (run .zero twoReadersEvents).1
    let timeout := Timeout.after .zero { Duration.zero with secs := 5 }
    let events := .start (.acquire .write 1 timeout) :: releasedElsewhereEvents
    let later := (monitor Nat).exec room events
    let failed := LockResult.failed (.timedOut .write)
    let after := (monitor Nat).step later.1 (.run room.next)
    room.state.Upgradable 1 ∧ Monitor.Unreturned room.next later.2 ∧
      after.2 = some ⟨room.next, .acquire .write 1 timeout, .returned failed⟩ ∧
      TakenBack 1 room.state later.1.state later.2 after.1 ∧
      after.1.state.heldBy 1 = none ∧ after.1.state.readers = 1 ∧ after.1.isReady 6 = true := by
  have upgradable : (run .zero twoReadersEvents).1.state.Upgradable 1 :=
    ⟨by decide, by decide, by decide⟩
  refine ⟨upgradable, by decide, by cbv, ?_, by cbv, by cbv, by cbv⟩
  let call := LockCall.acquire .write 1 (Timeout.after .zero { Duration.zero with secs := 5 })
  exact upgrade_taken_back upgradable _ releasedElsewhereEvents (by decide) (.run 2)
    ⟨2, call, .returned (.failed (.timedOut .write))⟩ (by cbv) rfl rfl

end Lock

end BlockingSync
