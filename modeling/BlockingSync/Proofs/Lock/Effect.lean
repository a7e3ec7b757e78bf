import BlockingSync.Proofs.Lock.Move

namespace BlockingSync

def HeldCounts.add (held : HeldCounts) : Mode → HeldCounts
  | .read => { held with reads := held.reads + 1 }
  | .write => { held with writes := held.writes + 1 }

theorem HeldCounts.count_add (held : HeldCounts) (mode other : Mode) :
    (held.add mode).count other = held.count other + if mode = other then 1 else 0 := by
  cases mode <;> cases other <;> rfl

def Ending.stage? {κ ρ : Type} : Ending κ ρ → Option κ
  | waits stage => some stage
  | returns _ => none

namespace Lock

variable {ι : Type} [DecidableEq ι]

/-- The second lock is held as the first one, but that `id` holds one more lock of the mode. -/
def Adds (mode : Mode) (id : ι) (lock after : Lock ι) : Prop :=
  ∀ y, after.held y = if y = id then (lock.held y).add mode else lock.held y

/-- What a turn of a call does to the holdings and the number of strays. An identity that is let in
as a reader for the second time is registered with one read lock all the same; then one more reader
is a stray. -/
inductive Effect (lock : Lock ι) (stray : Nat) : LockCall ι → LockTurn ι → Nat → Prop
  | wait {call : LockCall ι} {after : Lock ι} {stage : LockStage}
      (same : ∀ y, after.held y = lock.held y) (size : after.holders.size ≤ lock.holders.size) :
      Effect lock stray call (.waits after stage) stray
  | fail {call : LockCall ι} {after : Lock ι} {signals : List (Signal LockCondition)}
      {error : LockError} (same : ∀ y, after.held y = lock.held y)
      (size : after.holders.size ≤ lock.holders.size) :
      Effect lock stray call ⟨after, signals, .returns (.failed error)⟩ stray
  | acquire {mode : Mode} {id : ι} {timeout : Timeout} {after : Lock ι}
      (adds : Adds mode id lock after) (size : after.holders.size ≤ lock.holders.size + 1) :
      Effect lock stray (.acquire mode id timeout) (.returns after .ok) stray
  | overlap {id : ι} {timeout : Timeout} (reads : 0 < (lock.held id).reads)
      (writes : (lock.held id).writes = 0)
      (size : (lock.admitReader id).holders.size ≤ lock.holders.size) :
      Effect lock stray (.acquire .read id timeout) (.returns (lock.admitReader id) .ok) (stray + 1)
  | release {mode : Mode} {id : ι} {after : Lock ι} {signals : List (Signal LockCondition)}
      (adds : Adds mode id after lock) (size : after.holders.size ≤ lock.holders.size) :
      Effect lock stray (.release mode id) ⟨after, signals, .returns .ok⟩ stray

variable {lock : Lock ι} {id : ι} {held : HeldCounts} {stray : Nat}

theorem adds_of_entry {mode : Mode} {lock after : Lock ι}
    (own : after.held id = (lock.held id).add mode)
    (others : ∀ y, y ≠ id → after.held y = lock.held y) : Adds mode id lock after := by
  intro y
  by_cases hy : y = id
  · rw [if_pos hy, hy, own]
  · rw [if_neg hy, others y hy]

theorem adds_record {new : HeldCounts} {mode : Mode} (h : new = (lock.held id).add mode) :
    Adds mode id lock (lock.record id new) :=
  adds_of_entry ((held_record_self ..).trans h) fun _ hy => held_record_of_ne hy _

theorem adds_of_record {new : HeldCounts} {mode : Mode} (h : lock.held id = new.add mode) :
    Adds mode id (lock.record id new) lock :=
  adds_of_entry (by rw [h, held_record_self]) fun _ hy => (held_record_of_ne hy _).symm

theorem adds_forget {mode : Mode} (h : lock.held id = ({} : HeldCounts).add mode) :
    Adds mode id (lock.forget id) lock :=
  adds_of_entry (by rw [h, held_forget_self]) fun _ hy => (held_forget_of_ne hy).symm

theorem adds_grantWrite (lock : Lock ι) (id : ι) : Adds .write id lock (lock.grantWrite id) :=
  adds_record rfl

theorem adds_admitReader (unregistered : lock.heldBy id = none) :
    Adds .read id lock (lock.admitReader id) := by
  refine adds_record (?_ : { reads := 1 } = (lock.held id).add .read)
  rw [held_eq_of_none unregistered]
  rfl

theorem writes_admitReader (writes : (lock.held id).writes = 0) (y : ι) :
    ((lock.admitReader id).held y).writes = (lock.held y).writes := by
  rw [held_admitReader]
  split
  · next hy => rw [hy, writes]
  · rfl

theorem Adds.of_same {mode : Mode} {after base : Lock ι} (h : Adds mode id lock after)
    (same : ∀ y, lock.held y = base.held y) : Adds mode id base after := by
  intro y
  rw [← same]
  exact h y

theorem size_record_le (lock : Lock ι) (id : ι) (new : HeldCounts) :
    (lock.record id new).holders.size ≤ lock.holders.size + 1 := by
  cases h : lock.heldBy id with
  | none => exact Nat.le_of_eq (size_record_new h new)
  | some held => exact Nat.le_succ_of_le (Nat.le_of_eq (size_record h new))

theorem size_forget_le (lock : Lock ι) (id : ι) :
    (lock.forget id).holders.size ≤ lock.holders.size :=
  List.length_filter_le _ _

variable {now : Instant} {place : Option LockStage} {call : LockCall ι} {turn : LockTurn ι}
  {claimed : Lock ι}

theorem Claim.holders (claim : Claim lock id place claimed) : claimed.holders = lock.holders := by
  cases claim <;> rfl

theorem Claim.heldBy_eq (claim : Claim lock id place claimed) (y : ι) :
    claimed.heldBy y = lock.heldBy y :=
  congrArg (·.get? y) claim.holders

theorem Claim.holdings (claim : Claim lock id place claimed) (y : ι) :
    claimed.held y = lock.held y := by
  cases claim <;> rfl

theorem Claim.upgrading (claim : Claim lock id place claimed) (h : lock.Phase stray)
    (hu : place = some .upgrader → lock.upgrading = some id) : claimed.Upgrading id stray := by
  cases claim with
  | fresh registered idle writers readers =>
    exact (h.shared_of_writers writers).claim registered readers
  | pending => exact h.upgrading_of_pending (hu rfl)

theorem Move.heldBy_of_ne (m : Move now lock place call turn) {y : ι} (hy : y ≠ call.id) :
    turn.state.heldBy y = lock.heldBy y := by
  cases m with
  | readAgain | readEnter | readRelease | writeRelease | writeDowngrade =>
    exact (heldBy_record ..).trans (if_neg hy)
  | expire | wait | readUnheld | writeRefuse | writeUnheld => rfl
  | readLeave => exact (heldBy_forget ..).trans (if_neg hy)
  | writeAgain | writeEnter => exact (heldBy_grantWrite ..).trans (if_neg hy)
  | upgradeGrant claim =>
    refine ((heldBy_grantWrite ..).trans (if_neg hy)).trans ?_
    cases claim <;> rfl
  | upgradeBack claim | upgradeWait claim => cases claim <;> rfl
  | upgradeWithdraw claim =>
    refine ((heldBy_forget ..).trans (if_neg hy)).trans ?_
    cases claim <;> rfl
  | writeLeave =>
    refine ((heldBy_forget ..).trans (if_neg hy)).trans ?_
    exact (heldBy_record ..).trans (if_neg hy)

theorem Effect.stray_le {stray' : Nat} (e : Effect lock stray call turn stray') :
    stray ≤ stray' := by
  cases e with
  | overlap => exact Nat.le_succ stray
  | wait | fail | acquire | release => exact Nat.le_refl stray

theorem Phase.setReads (h : lock.Phase stray) (registered : lock.heldBy id = some held)
    {reads : Nat} (hr : 0 < reads ∨ held.writes ≠ 0 ∨ lock.upgrading = some id) :
    (lock.record id { held with reads := reads }).Phase stray := by
  cases h with
  | shared h =>
    have hw := (h.reading id held registered).2
    refine .shared (h.record registered ?_ hw)
    obtain hr | hr | hr := hr
    · exact hr
    · exact absurd hw hr
    · exact absurd (h.upgrading.symm.trans hr) (by simp)
  | upgrading h =>
    have hw := (h.reading id held registered).2
    refine .upgrading (h.record registered ?_ hw)
    intro hne
    obtain hr | hr | hr := hr
    · exact hr
    · exact absurd hw hr
    · exact absurd (Option.some.inj (h.upgrading.symm.trans hr)).symm hne
  | exclusive h =>
    obtain ⟨rfl, rfl⟩ := h.eq_of_heldBy registered
    exact .exclusive (h.record h.writing)

theorem Phase.leave {others : Nat} (h : lock.Phase stray)
    (registered : lock.heldBy id = some { reads := 1 }) (idle : lock.upgrading ≠ some id)
    (hr : lock.readers = others + 1) :
    { lock.forget id with readers := others }.Phase stray := by
  cases h with
  | shared h => exact .shared (h.leave registered hr)
  | upgrading h =>
    exact .upgrading (h.leave registered (fun he => idle (he ▸ h.upgrading)) hr)
  | exclusive h => exact absurd (h.readers.symm.trans hr) (by simp)

theorem Phase.effect_readEnter (h : lock.Phase stray) (readable : lock.readable = true) (id : ι)
    (timeout : Timeout) :
    ∃ stray', (lock.admitReader id).Phase stray' ∧
      Effect lock stray (.acquire .read id timeout) (.returns (lock.admitReader id) .ok)
        stray' := by
  have hs := h.shared_of_writers (readable_iff.mp readable).2
  cases hi : lock.heldBy id with
  | none =>
    exact ⟨stray, .shared (hs.enter hi), .acquire (adds_admitReader hi) (size_record_le lock id _)⟩
  | some held =>
    -- the entry was written while the call waited, and is overwritten now
    obtain ⟨hr, hw⟩ := hs.reading id held hi
    rw [← held_eq hi] at hr hw
    exact ⟨stray + 1, .shared (hs.enter_again hi),
      .overlap hr hw (Nat.le_of_eq (size_record hi _))⟩

theorem Move.effect_acquireRead {timeout : Timeout}
    (m : Move now lock place (.acquire .read id timeout) turn) (h : lock.Phase stray) :
    ∃ stray', turn.state.Phase stray' ∧
      Effect lock stray (.acquire .read id timeout) turn stray' := by
  cases m with
  | readAgain registered =>
    refine ⟨stray, h.setReads registered (Or.inl (Nat.succ_pos _)), ?_⟩
    refine .acquire (adds_record ?_) (size_record_le lock id _)
    rw [held_eq registered]
    rfl
  | readEnter outside readable => exact h.effect_readEnter readable id timeout
  | expire => exact ⟨stray, h, .fail (fun _ => rfl) (Nat.le_refl _)⟩
  | wait => exact ⟨stray, h, .wait (fun _ => rfl) (Nat.le_refl _)⟩

theorem Move.effect_releaseRead (m : Move now lock place (.release .read id) turn)
    (h : lock.Phase stray) :
    ∃ stray', turn.state.Phase stray' ∧ Effect lock stray (.release .read id) turn stray' := by
  cases m with
  | readUnheld => exact ⟨stray, h, .fail (fun _ => rfl) (Nat.le_refl _)⟩
  | @readRelease _ held registered reads stays =>
    refine ⟨stray, h.setReads registered ?_, .release (adds_of_record ?_) ?_⟩
    · obtain stays | stays := stays
      · by_cases hw : held.writes = 0
        · exact Or.inl (Nat.pos_of_ne_zero fun hr => stays (HeldCounts.eq_empty hr hw))
        · exact Or.inr (Or.inl hw)
      · exact Or.inr (Or.inr stays)
    · change lock.held id = { held with reads := held.reads - 1 + 1 }
      rw [held_eq registered, Nat.sub_add_cancel reads]
    · exact Nat.le_of_eq (size_record registered _)
  | readLeave registered idle readers =>
    exact ⟨stray, h.leave registered idle readers,
      .release (adds_forget (held_eq registered)) (size_forget_le lock id)⟩

theorem Claim.effect_grant (claim : Claim lock id place claimed)
    (upgrading : claimed.Upgrading id stray) (readers : claimed.readers = 0) (timeout : Timeout) :
    ∃ stray', ({ claimed with upgrading := none }.grantWrite id).Phase stray' ∧
      Effect lock stray (.acquire .write id timeout)
        (.returns ({ claimed with upgrading := none }.grantWrite id) .ok) stray' := by
  obtain ⟨rfl, hx⟩ := upgrading.grant readers
  refine ⟨0, .exclusive hx, .acquire ((adds_grantWrite _ id).of_same claim.holdings) ?_⟩
  rw [← claim.holders]
  exact size_record_le _ id _

theorem Claim.effect_withdraw (claim : Claim lock id place claimed)
    (upgrading : claimed.Upgrading id stray) (reads : (claimed.held id).reads = 0)
    (timeout : Timeout) (signals : List (Signal LockCondition)) (error : LockError) :
    Effect lock stray (.acquire .write id timeout)
      ⟨{ claimed with upgrading := none, writers := 0, canRead := true }.forget id, signals,
        .returns (.failed error)⟩ stray := by
  refine .fail ?_ ?_
  · intro y
    change (claimed.forget id).held y = lock.held y
    rw [held_forget, ← claim.holdings]
    split
    · next hy => rw [hy, HeldCounts.eq_empty reads (upgrading.writes_eq_zero id)]
    · rfl
  · rw [← claim.holders]
    exact size_forget_le _ id

theorem Move.effect_acquireWrite {timeout : Timeout}
    (m : Move now lock place (.acquire .write id timeout) turn) (h : lock.Phase stray)
    (hu : place = some .upgrader → lock.upgrading = some id) :
    ∃ stray', turn.state.Phase stray' ∧
      Effect lock stray (.acquire .write id timeout) turn stray' := by
  cases m with
  | writeAgain registered writes =>
    have hx := h.exclusive_of_writes registered writes
    obtain rfl := h.stray_eq_zero hx
    exact ⟨0, .exclusive (hx.record (Nat.succ_pos _)),
      .acquire (adds_grantWrite lock id) (size_record_le lock id _)⟩
  | upgradeGrant claim readers =>
    exact claim.effect_grant (claim.upgrading h hu) readers timeout
  | upgradeBack claim readers late reads =>
    exact ⟨stray, .shared ((claim.upgrading h hu).back reads), .fail claim.holdings
      (Nat.le_of_eq (congrArg Registry.size claim.holders))⟩
  | upgradeWithdraw claim readers late reads =>
    -- its entry, without read locks, stood for nothing
    have upgrading := claim.upgrading h hu
    exact ⟨stray, .shared upgrading.withdraw, claim.effect_withdraw upgrading reads timeout _ _⟩
  | upgradeWait claim =>
    exact ⟨stray, .upgrading (claim.upgrading h hu), .wait claim.holdings
      (Nat.le_of_eq (congrArg Registry.size claim.holders))⟩
  | writeEnter outside writable =>
    obtain ⟨hr, hw⟩ := writable_iff.mp writable
    have hs := h.shared_of_writers hw
    obtain ⟨rfl, free⟩ := hs.free_of_readers_eq_zero hr
    exact ⟨0, .exclusive (.of_free hr hs.upgrading free id),
      .acquire (adds_grantWrite { lock with writers := 1, canRead := false } id)
        (size_record_le lock id _)⟩
  | writeRefuse | expire => exact ⟨stray, h, .fail (fun _ => rfl) (Nat.le_refl _)⟩
  | wait => exact ⟨stray, h, .wait (fun _ => rfl) (Nat.le_refl _)⟩

theorem adds_leaveWriting (registered : lock.heldBy id = some { writes := 1 }) :
    Adds .write id ((lock.record id {}).forget id) lock := by
  refine adds_of_entry ?_ fun y hy => ?_
  · rw [held_forget_self, held_eq registered]
    rfl
  · rw [held_forget_of_ne hy, held_record_of_ne hy]

theorem Move.effect_releaseWrite (m : Move now lock place (.release .write id) turn)
    (h : lock.Phase stray) :
    ∃ stray', turn.state.Phase stray' ∧ Effect lock stray (.release .write id) turn stray' := by
  cases m with
  | writeUnheld => exact ⟨stray, h, .fail (fun _ => rfl) (Nat.le_refl _)⟩
  | @writeRelease _ held registered writes =>
    have hx := h.exclusive_of_writes registered (Nat.zero_lt_of_lt writes)
    obtain rfl := h.stray_eq_zero hx
    refine ⟨0, .exclusive (hx.record (Nat.sub_pos_of_lt writes)),
      .release (adds_of_record ?_) (Nat.le_of_eq (size_record registered _))⟩
    change lock.held id = { held with writes := held.writes - 1 + 1 }
    rw [held_eq registered, Nat.sub_add_cancel (Nat.le_of_lt writes)]
  | writeDowngrade registered writes reads =>
    have hx := h.exclusive_of_writes registered (by omega)
    obtain rfl := h.stray_eq_zero hx
    obtain ⟨-, rfl⟩ := hx.eq_of_heldBy registered
    refine ⟨0, .shared (hx.downgrade reads),
      .release (adds_of_record ?_) (Nat.le_of_eq (size_record registered _))⟩
    change lock.held id = { lock.held id with writes := 0 + 1 }
    rw [Nat.zero_add, ← writes]
  | writeLeave registered =>
    have hx := h.exclusive_of_writes registered Nat.one_pos
    obtain rfl := h.stray_eq_zero hx
    exact ⟨0, .shared hx.leave, .release (adds_leaveWriting registered)
      (Nat.le_trans (size_forget_le _ id) (Nat.le_of_eq (size_record registered _)))⟩

/-- A turn leads from a phase to a phase and has an effect of the list. -/
theorem Move.effect (m : Move now lock place call turn) (h : lock.Phase stray)
    (hu : place = some .upgrader → lock.upgrading = some call.id) :
    ∃ stray', turn.state.Phase stray' ∧ Effect lock stray call turn stray' := by
  obtain ⟨_ | _, id, timeout⟩ | ⟨_ | _, id⟩ := call
  · exact m.effect_acquireRead h
  · exact m.effect_acquireWrite h hu
  · exact m.effect_releaseRead h
  · exact m.effect_releaseWrite h

end Lock

end BlockingSync
