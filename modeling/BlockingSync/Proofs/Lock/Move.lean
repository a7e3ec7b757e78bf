import BlockingSync.Proofs.Lock.Phase
import BlockingSync.Proofs.Lock.Waiting

namespace BlockingSync

namespace Lock

variable {ι : Type} [DecidableEq ι]

/-- A call that asks for the lock from outside: it has just found `id` unregistered, or it goes on
at a stage and does not look again. -/
inductive Outside (lock : Lock ι) (id : ι) (stage : LockStage) : Option LockStage → Prop
  | newcomer (unregistered : lock.heldBy id = none) : Outside lock id stage none
  | waiter : Outside lock id stage (some stage)

/-- A call that upgrades: it has just taken `id` out of the readers, or did so before it waited. -/
inductive Claim (lock : Lock ι) (id : ι) : Option LockStage → Lock ι → Prop
  | fresh {held : HeldCounts} {others : Nat} (registered : lock.heldBy id = some held)
      (idle : held.writes = 0) (writers : lock.writers = 0) (readers : lock.readers = others + 1) :
      Claim lock id none (lock.claimUpgrade id others)
  | pending : Claim lock id (some .upgrader) lock

/-- What a turn of a call does that starts, or goes on at a stage. -/
inductive Move (now : Instant) (lock : Lock ι) :
    Option LockStage → LockCall ι → LockTurn ι → Prop
  | readAgain {id : ι} {timeout : Timeout} {held : HeldCounts}
      (registered : lock.heldBy id = some held) :
      Move now lock none (.acquire .read id timeout)
        (.returns (lock.record id { held with reads := held.reads + 1 }) .ok)
  | expire {place : Option LockStage} {mode : Mode} {id : ι} {timeout : Timeout}
      (outside : Outside lock id mode.stage place) (closed : lock.admits mode.stage = false)
      (late : timeout.isExpired now = true) :
      Move now lock place (.acquire mode id timeout) (.returns lock (.failed (.timedOut mode)))
  | wait {place : Option LockStage} {mode : Mode} {id : ι} {timeout : Timeout}
      (outside : Outside lock id mode.stage place) (closed : lock.admits mode.stage = false)
      (early : timeout.isExpired now = false) :
      Move now lock place (.acquire mode id timeout) (.waits lock mode.stage)
  | readEnter {place : Option LockStage} {id : ι} {timeout : Timeout}
      (outside : Outside lock id .reader place) (readable : lock.readable = true) :
      Move now lock place (.acquire .read id timeout) (.returns (lock.admitReader id) .ok)
  | readUnheld {id : ι} (unheld : (lock.held id).reads = 0) :
      Move now lock none (.release .read id) (.returns lock (.failed (.notHeld .read)))
  | readRelease {id : ι} {held : HeldCounts} (registered : lock.heldBy id = some held)
      (reads : 0 < held.reads)
      (stays : { held with reads := held.reads - 1 } ≠ ({} : HeldCounts) ∨
        lock.upgrading = some id) :
      Move now lock none (.release .read id)
        (.returns (lock.record id { held with reads := held.reads - 1 }) .ok)
  | readLeave {id : ι} {others : Nat} (registered : lock.heldBy id = some { reads := 1 })
      (idle : lock.upgrading ≠ some id) (readers : lock.readers = others + 1) :
      Move now lock none (.release .read id)
        ⟨{ lock.forget id with readers := others }, if others = 0 then [.all .writers] else [],
          .returns .ok⟩
  | writeAgain {id : ι} {timeout : Timeout} {held : HeldCounts}
      (registered : lock.heldBy id = some held) (writes : 0 < held.writes) :
      Move now lock none (.acquire .write id timeout) (.returns (lock.grantWrite id) .ok)
  | writeRefuse {id : ι} {timeout : Timeout} {held : HeldCounts}
      (registered : lock.heldBy id = some held) (idle : held.writes = 0)
      (writers : 0 < lock.writers) :
      Move now lock none (.acquire .write id timeout) (.returns lock (.failed .deadlock))
  | upgradeGrant {place : Option LockStage} {id : ι} {timeout : Timeout} {claimed : Lock ι}
      (claim : Claim lock id place claimed) (readers : claimed.readers = 0) :
      Move now lock place (.acquire .write id timeout)
        (.returns ({ claimed with upgrading := none }.grantWrite id) .ok)
  /-- The upgrade is taken back, and the identity is a reader again. -/
  | upgradeBack {place : Option LockStage} {id : ι} {timeout : Timeout} {claimed : Lock ι}
      (claim : Claim lock id place claimed) (readers : 0 < claimed.readers)
      (late : timeout.isExpired now = true) (reads : 0 < (claimed.held id).reads) :
      Move now lock place (.acquire .write id timeout)
        ⟨{ claimed with
            upgrading := none, writers := 0, canRead := true, readers := claimed.readers + 1 },
          [.all .readers], .returns (.failed (.timedOut .write))⟩
  /-- The upgrade is taken back, and the identity has released its read locks meanwhile. -/
  | upgradeWithdraw {place : Option LockStage} {id : ι} {timeout : Timeout} {claimed : Lock ι}
      (claim : Claim lock id place claimed) (readers : 0 < claimed.readers)
      (late : timeout.isExpired now = true) (reads : (claimed.held id).reads = 0) :
      Move now lock place (.acquire .write id timeout)
        ⟨{ claimed with upgrading := none, writers := 0, canRead := true }.forget id,
          [.all .readers], .returns (.failed (.timedOut .write))⟩
  | upgradeWait {place : Option LockStage} {id : ι} {timeout : Timeout} {claimed : Lock ι}
      (claim : Claim lock id place claimed) (readers : 0 < claimed.readers)
      (early : timeout.isExpired now = false) :
      Move now lock place (.acquire .write id timeout) (.waits claimed .upgrader)
  | writeEnter {place : Option LockStage} {id : ι} {timeout : Timeout}
      (outside : Outside lock id .writer place) (writable : lock.writable = true) :
      Move now lock place (.acquire .write id timeout)
        (.returns ({ lock with writers := 1, canRead := false }.grantWrite id) .ok)
  | writeUnheld {id : ι} (unheld : (lock.held id).writes = 0) :
      Move now lock none (.release .write id) (.returns lock (.failed (.notHeld .write)))
  | writeRelease {id : ι} {held : HeldCounts} (registered : lock.heldBy id = some held)
      (writes : 1 < held.writes) :
      Move now lock none (.release .write id)
        (.returns (lock.record id { held with writes := held.writes - 1 }) .ok)
  | writeDowngrade {id : ι} {held : HeldCounts} (registered : lock.heldBy id = some held)
      (writes : held.writes = 1) (reads : 0 < held.reads) :
      Move now lock none (.release .write id)
        ⟨{ lock.record id { held with writes := 0 } with
            writers := 0, canRead := true, readers := lock.readers + 1 },
          [.all .readers], .returns .ok⟩
  | writeLeave {id : ι} (registered : lock.heldBy id = some { writes := 1 }) :
      Move now lock none (.release .write id)
        ⟨{ (lock.record id {}).forget id with writers := 0, canRead := true },
          [.one .writers, .all .readers], .returns .ok⟩

variable {lock : Lock ι} {now : Instant} {id : ι} {timeout : Timeout} {stray : Nat}

inductive WaitsAt : LockCall ι → LockStage → Prop
  | reader (id : ι) (timeout : Timeout) : WaitsAt (.acquire .read id timeout) .reader
  | writer (id : ι) (timeout : Timeout) : WaitsAt (.acquire .write id timeout) .writer
  | upgrader (id : ι) (timeout : Timeout) : WaitsAt (.acquire .write id timeout) .upgrader

theorem Phase.readers_pos (h : lock.Phase stray) {held : HeldCounts}
    (registered : lock.heldBy id = some held) (idle : held.writes = 0)
    (hu : lock.upgrading ≠ some id) : 0 < lock.readers := by
  cases h with
  | shared h => exact h.readers_pos registered
  | @upgrading u _ h =>
    have hne : id ≠ u := fun he => hu (by rw [h.upgrading, he])
    have hs := Registry.two_le_size h.registered (Option.isSome_of_eq_some registered) hne
    have hr := h.readers
    omega
  | exclusive h =>
    obtain ⟨rfl, rfl⟩ := h.eq_of_heldBy registered
    exact absurd idle (Nat.ne_of_gt h.writing)

theorem Phase.shared_of_writers (h : lock.Phase stray) (hw : lock.writers = 0) :
    lock.Shared stray := by
  cases h with
  | shared h => exact h
  | upgrading h => exact absurd (h.writers.symm.trans hw) (by decide)
  | exclusive h => exact absurd (h.writers.symm.trans hw) (by decide)

theorem Phase.exclusive_of_writes (h : lock.Phase stray) {held : HeldCounts}
    (registered : lock.heldBy id = some held) (hw : 0 < held.writes) : lock.Exclusive id := by
  cases h with
  | shared h => exact absurd (h.reading id held registered).2 (Nat.ne_of_gt hw)
  | upgrading h => exact absurd (h.reading id held registered).2 (Nat.ne_of_gt hw)
  | exclusive h =>
    obtain ⟨rfl, -⟩ := h.eq_of_heldBy registered
    exact h

theorem Phase.upgrading_or_shared (h : lock.Phase stray) {held : HeldCounts}
    (registered : lock.heldBy id = some held) (idle : held.writes = 0) :
    (∃ u, lock.Upgrading u stray) ∨ lock.Shared stray := by
  cases h with
  | shared h => exact Or.inr h
  | upgrading h => exact Or.inl ⟨_, h⟩
  | exclusive h =>
    obtain ⟨rfl, rfl⟩ := h.eq_of_heldBy registered
    exact absurd idle (Nat.ne_of_gt h.writing)

theorem Phase.upgrading_of_pending (h : lock.Phase stray) (hu : lock.upgrading = some id) :
    lock.Upgrading id stray := by
  cases h with
  | shared h => exact absurd (h.upgrading.symm.trans hu) (by simp)
  | upgrading h =>
    obtain rfl := Option.some.inj (h.upgrading.symm.trans hu)
    exact h
  | exclusive h => exact absurd (h.upgrading.symm.trans hu) (by simp)

theorem Phase.stray_eq_zero (h : lock.Phase stray) (hx : lock.Exclusive id) : stray = 0 := by
  cases h with
  | shared h => exact absurd (h.writers.symm.trans hx.writers) (by decide)
  | upgrading h => exact absurd (h.upgrading.symm.trans hx.upgrading) (by simp)
  | exclusive h => rfl

variable {place : Option LockStage} {claimed : Lock ι}

theorem wait_move {mode : Mode} (outside : Outside lock id mode.stage place) (now : Instant)
    (timeout : Timeout) :
    Move now lock place (.acquire mode id timeout) (lock.wait now mode.stage id timeout) := by
  obtain ⟨admitted, ht⟩ | ⟨closed, late, ht⟩ | ⟨closed, early, ht⟩ :=
    lock.wait_cases now mode.stage id timeout
  all_goals rw [ht]
  · cases mode with
    | read => exact .readEnter outside admitted
    | write => exact .writeEnter outside admitted
  · cases mode with
    | read | write => exact .expire outside closed late
  · exact .wait outside closed early

theorem abandonUpgrade_back (hk : 0 < (lock.held id).reads) :
    lock.abandonUpgrade id =
      ⟨{ lock with upgrading := none, writers := 0, canRead := true, readers := lock.readers + 1 },
        [.all .readers], .returns (.failed (.timedOut .write))⟩ :=
  if_pos hk

theorem abandonUpgrade_withdraw (hk : ¬ 0 < (lock.held id).reads) (hr : lock.readers ≠ 0) :
    lock.abandonUpgrade id =
      ⟨{ lock with upgrading := none, writers := 0, canRead := true }.forget id,
        [.all .readers], .returns (.failed (.timedOut .write))⟩ :=
  (if_neg hk).trans (if_neg hr)

theorem claim_move (claim : Claim lock id place claimed) (now : Instant) (timeout : Timeout) :
    Move now lock place (.acquire .write id timeout)
      (claimed.wait now .upgrader id timeout) := by
  obtain ⟨none_left, ht⟩ | ⟨left, late, ht⟩ | ⟨left, early, ht⟩ :=
    claimed.wait_cases now .upgrader id timeout
  all_goals rw [ht]
  · exact .upgradeGrant claim (beq_iff_eq.mp none_left)
  · have hr : claimed.readers ≠ 0 := beq_eq_false_iff_ne.mp left
    change Move now lock place _ (claimed.abandonUpgrade id)
    by_cases hk : 0 < (claimed.held id).reads
    · rw [abandonUpgrade_back hk]
      exact .upgradeBack claim (Nat.pos_of_ne_zero hr) late hk
    · rw [abandonUpgrade_withdraw hk hr]
      exact .upgradeWithdraw claim (Nat.pos_of_ne_zero hr) late (Nat.eq_zero_of_not_pos hk)
  · exact .upgradeWait claim (Nat.pos_of_ne_zero (beq_eq_false_iff_ne.mp left)) early

theorem acquireRead_move (lock : Lock ι) (now : Instant) (id : ι) (timeout : Timeout) :
    Move now lock none (.acquire .read id timeout) (lock.acquireRead now id timeout) := by
  rw [acquireRead]
  cases h : lock.heldBy id with
  | some held => exact .readAgain h
  | none => exact wait_move (.newcomer h : Outside lock id Mode.read.stage none) now timeout

theorem acquireWrite_move (h : lock.Phase stray) (now : Instant) (id : ι) (timeout : Timeout) :
    Move now lock none (.acquire .write id timeout) (lock.acquireWrite now id timeout) := by
  rw [acquireWrite]
  cases hi : lock.heldBy id with
  | none => exact wait_move (.newcomer hi : Outside lock id Mode.write.stage none) now timeout
  | some held =>
    by_cases hw : 0 < held.writes
    · simpa only [hw, if_true] using Move.writeAgain hi hw
    · have idle := Nat.eq_zero_of_not_pos hw
      by_cases hp : 0 < lock.writers
      · simpa only [hw, hp, if_true, if_false] using Move.writeRefuse hi idle hp
      · have hz := Nat.eq_zero_of_not_pos hp
        obtain ⟨others, hr⟩ := Nat.exists_eq_succ_of_ne_zero
          (Nat.ne_of_gt ((h.shared_of_writers hz).readers_pos hi))
        simpa only [hw, hp, hr, if_false] using
          claim_move (.fresh hi idle hz hr) now timeout

theorem leaveReaders_eq {others : Nat} (hr : lock.readers = others + 1) :
    lock.leaveReaders id =
      ⟨{ lock.forget id with readers := others }, if others = 0 then [.all .writers] else [],
        .returns .ok⟩ := by
  rw [leaveReaders]
  cases others with
  | zero => rw [hr]; rfl
  | succ n => rw [hr]; rfl

theorem releaseRead_move (h : lock.Phase stray) (now : Instant) (id : ι) :
    Move now lock none (.release .read id) (lock.releaseRead id) := by
  rw [releaseRead]
  cases hi : lock.heldBy id with
  | none => exact .readUnheld (by rw [held_eq_of_none hi])
  | some held =>
    by_cases hz : held.reads = 0
    · simpa only [hz, if_true] using Move.readUnheld (by rw [held_eq hi]; exact hz)
    · have hpos := Nat.pos_of_ne_zero hz
      by_cases hs : { held with reads := held.reads - 1 } ≠ ({} : HeldCounts) ∨
          lock.upgrading = some id
      · simpa only [hz, hs, if_true, if_false] using Move.readRelease hi hpos hs
      · obtain ⟨he, hu⟩ := not_or.mp hs
        have he' := Decidable.not_not.mp he
        have hw : held.writes = 0 := congrArg HeldCounts.writes he'
        have hone : held.reads - 1 = 0 := congrArg HeldCounts.reads he'
        have hheld : held = { reads := 1 } := by
          cases held
          simp only [HeldCounts.mk.injEq] at hw hone hpos ⊢
          omega
        subst hheld
        obtain ⟨others, hr⟩ := Nat.exists_eq_succ_of_ne_zero
          (Nat.ne_of_gt (h.readers_pos hi rfl hu))
        simpa only [hz, hs, if_false, leaveReaders_eq hr] using Move.readLeave hi hu hr

theorem releaseWrite_move (h : lock.Phase stray) (now : Instant) (id : ι) :
    Move now lock none (.release .write id) (lock.releaseWrite id) := by
  rw [releaseWrite]
  cases hi : lock.heldBy id with
  | none => exact .writeUnheld (by rw [held_eq_of_none hi])
  | some held =>
    by_cases hz : held.writes = 0
    · simpa only [hz, if_true] using Move.writeUnheld (by rw [held_eq hi]; exact hz)
    · by_cases hw : 1 < held.writes
      · simpa only [hz, hw, if_true, if_false] using Move.writeRelease hi hw
      · have h1 : held.writes = 1 := by omega
        have hx := h.exclusive_of_writes hi (by omega)
        have hwr : ¬ (lock.record id { held with writes := held.writes - 1 }).writers ≠ 1 :=
          not_not_intro hx.writers
        simp only [hz, hw, hwr, if_false, leaveWriting]
        by_cases hr : 0 < held.reads
        · rw [if_pos hr, h1]
          exact .writeDowngrade hi h1 hr
        · have hheld : held = { writes := 1 } := by
            cases held
            simp only [HeldCounts.mk.injEq] at hr h1 ⊢
            omega
          subst hheld
          exact .writeLeave hi

theorem start_move (h : lock.Phase stray) (now : Instant) (call : LockCall ι) :
    Move now lock none call (start now lock call) := by
  obtain ⟨_ | _, id, timeout⟩ | ⟨_ | _, id⟩ := call
  · exact lock.acquireRead_move now id timeout
  · exact acquireWrite_move h now id timeout
  · exact releaseRead_move h now id
  · exact releaseWrite_move h now id

theorem resume_move {call : LockCall ι} {stage : LockStage} (waits : WaitsAt call stage)
    (lock : Lock ι) (now : Instant) :
    Move now lock (some stage) call (resume now lock call stage) := by
  cases waits with
  | reader id timeout =>
    exact wait_move (.waiter : Outside lock id Mode.read.stage (some .reader)) now timeout
  | writer id timeout =>
    exact wait_move (.waiter : Outside lock id Mode.write.stage (some .writer)) now timeout
  | upgrader id timeout => exact claim_move .pending now timeout

end Lock

end BlockingSync
