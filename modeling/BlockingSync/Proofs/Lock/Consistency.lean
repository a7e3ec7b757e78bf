import BlockingSync.Proofs.Lock.Invariant
import Mathlib.Data.List.Nodup

namespace BlockingSync

def Suspended.claims {ι : Type} [DecidableEq ι] (u : ι) (s : Suspended (LockCall ι) LockStage) :
    Bool :=
  s.stage = .upgrader && s.call.acquires .write u

theorem Registry.get?_of_mem_entries {ι : Type} [DecidableEq ι] {r : Registry ι}
    {e : ι × HeldCounts} (h : e ∈ r.entries) : r.get? e.1 = some e.2 := by
  have hs : (r.get? e.1).isSome := (r.mem_ids_iff e.1).mp (List.mem_map_of_mem h)
  obtain ⟨held, hg⟩ := Option.isSome_iff_exists.mp hs
  obtain ⟨e', hf, rfl⟩ := Option.map_eq_some_iff.mp hg
  have hk : e'.1 = e.1 := by simpa using List.find?_some hf
  rw [hg, List.inj_on_of_nodup_map r.nodup (List.mem_of_find?_eq_some hf) h hk]

namespace Lock

variable {ι : Type} [DecidableEq ι]

/-- The number of registered identities that neither hold the write lock nor wait to upgrade. -/
def pool (lock : Lock ι) : Nat :=
  lock.holders.entries.countP fun e => e.2.writes = 0 ∧ lock.upgrading ≠ some e.1

/-- How the counters, the registry and the pending upgrade of a lock hang together. -/
structure Consistent (lock : Lock ι) : Prop where
  writers_le : lock.writers ≤ 1
  canRead_eq : lock.canRead = (lock.writers == 0)
  one_writer : ∀ x y, 0 < (lock.held x).writes → 0 < (lock.held y).writes → x = y
  writers_iff : lock.writers = 1 ↔ (∃ x, 0 < (lock.held x).writes) ∨ lock.upgrading.isSome
  not_both : ¬ ((∃ x, 0 < (lock.held x).writes) ∧ lock.upgrading.isSome)
  writer_alone : ∀ x, 0 < (lock.held x).writes → lock.holders.ids = [x] ∧ lock.readers = 0
  upgrader : ∀ u, lock.upgrading = some u → ∃ held, lock.heldBy u = some held ∧ held.writes = 0
  nonempty : ∀ id held, lock.heldBy id = some held → lock.upgrading ≠ some id →
    0 < held.reads + held.writes
  pool_le : lock.pool ≤ lock.readers

structure Bounded (lock : Lock ι) (n : Nat) : Prop where
  readers : lock.readers ≤ n
  held : ∀ mode id, (lock.held id).count mode ≤ n

variable {lock : Lock ι} {stray : Nat} {x u : ι}

theorem Shared.readers_eq (h : lock.Shared stray) : lock.readers = lock.pool + stray := by
  have hp : lock.pool = lock.holders.size := by
    apply List.countP_eq_length.mpr
    intro e he
    have hr := h.reading e.1 e.2 (Registry.get?_of_mem_entries he)
    simp [hr.2, h.upgrading]
  rw [hp]
  exact h.readers

theorem Upgrading.readers_eq (h : lock.Upgrading u stray) : lock.readers = lock.pool + stray := by
  -- all entries but that of the upgrader are in the pool
  let isUpgrader : ι × HeldCounts → Bool := fun e => e.1 = u
  have hp : lock.pool = lock.holders.entries.countP fun e => ¬ isUpgrader e := by
    apply List.countP_congr
    intro e he
    have hr := h.reading e.1 e.2 (Registry.get?_of_mem_entries he)
    simp only [hr.2, h.upgrading, isUpgrader, decide_eq_true_eq, true_and, ne_eq,
      Option.some.injEq]
    exact not_congr eq_comm
  have hu : lock.holders.entries.countP isUpgrader = 1 := by
    have hm := (lock.holders.mem_ids_iff u).mpr h.registered
    have hc := List.count_eq_one_of_mem lock.holders.nodup hm
    rw [List.count, List.countP_map] at hc
    rw [← hc]
    apply List.countP_congr
    intro e _
    simp [isUpgrader]
  have hl := List.length_eq_countP_add_countP isUpgrader (l := lock.holders.entries)
  have hr := h.readers
  rw [Registry.size] at hr
  omega

theorem Exclusive.readers_eq (h : lock.Exclusive x) : lock.readers = lock.pool := by
  have hp : lock.pool = 0 := by
    apply List.countP_eq_zero.mpr
    intro e he
    obtain ⟨-, hw⟩ := h.eq_of_heldBy (Registry.get?_of_mem_entries he)
    have := h.writing
    rw [hw]
    simp
    omega
  rw [hp]
  exact h.readers

theorem Phase.readers_eq (h : lock.Phase stray) : lock.readers = lock.pool + stray := by
  cases h with
  | shared h => exact h.readers_eq
  | upgrading h => exact h.readers_eq
  | exclusive h => exact h.readers_eq

theorem Phase.readers_le (h : lock.Phase stray) : lock.readers ≤ lock.holders.size + stray := by
  rw [h.readers_eq]
  exact Nat.add_le_add_right List.countP_le_length stray

theorem Shared.consistent (h : lock.Shared stray) : Consistent lock where
  writers_le := by
    rw [h.writers]
    exact Nat.zero_le 1
  canRead_eq := by
    rw [h.canRead, h.writers]
    rfl
  one_writer x _ hx _ := absurd (h.writes_eq_zero x) (Nat.ne_of_gt hx)
  writers_iff := by
    rw [h.writers, h.upgrading]
    simp [h.writes_eq_zero]
  not_both := by
    rw [h.upgrading]
    simp
  writer_alone x hx := absurd (h.writes_eq_zero x) (Nat.ne_of_gt hx)
  upgrader u hu := absurd (h.upgrading.symm.trans hu) (by simp)
  nonempty id held hi _ := Nat.add_pos_left (h.reading id held hi).1 _
  pool_le := by
    rw [h.readers_eq]
    exact Nat.le_add_right _ _

theorem Upgrading.consistent (h : lock.Upgrading u stray) : Consistent lock where
  writers_le := Nat.le_of_eq h.writers
  canRead_eq := by
    rw [h.canRead, h.writers]
    rfl
  one_writer x _ hx _ := absurd (h.writes_eq_zero x) (Nat.ne_of_gt hx)
  writers_iff := by
    rw [h.writers, h.upgrading]
    simp
  not_both := by
    rintro ⟨⟨x, hx⟩, -⟩
    exact absurd (h.writes_eq_zero x) (Nat.ne_of_gt hx)
  writer_alone x hx := absurd (h.writes_eq_zero x) (Nat.ne_of_gt hx)
  upgrader v hv := by
    obtain rfl := Option.some.inj (h.upgrading.symm.trans hv)
    obtain ⟨held, hu⟩ := Option.isSome_iff_exists.mp h.registered
    exact ⟨held, hu, (h.reading u held hu).2⟩
  nonempty id held hi hne := by
    have hu : id ≠ u := fun he => hne (he ▸ h.upgrading)
    exact Nat.add_pos_left ((h.reading id held hi).1 hu) _
  pool_le := by
    rw [h.readers_eq]
    exact Nat.le_add_right _ _

theorem Exclusive.eq_of_writes (h : lock.Exclusive x) (hu : 0 < (lock.held u).writes) : u = x :=
  (h.eq_of_heldBy (heldBy_of_pos (show 0 < (lock.held u).count .write from hu))).1

theorem Exclusive.consistent (h : lock.Exclusive x) : Consistent lock where
  writers_le := Nat.le_of_eq h.writers
  canRead_eq := by
    rw [h.canRead, h.writers]
    rfl
  one_writer y z hy hz := (h.eq_of_writes hy).trans (h.eq_of_writes hz).symm
  writers_iff := by
    rw [h.writers]
    exact ⟨fun _ => Or.inl ⟨x, h.writing⟩, fun _ => rfl⟩
  not_both := by
    rw [h.upgrading]
    simp
  writer_alone y hy := by
    rw [h.eq_of_writes hy]
    exact ⟨Registry.ids_eq_singleton h.alone, h.readers⟩
  upgrader u hu := absurd (h.upgrading.symm.trans hu) (by simp)
  nonempty id held hi _ := by
    obtain ⟨-, rfl⟩ := h.eq_of_heldBy hi
    exact Nat.add_pos_right _ h.writing
  pool_le := Nat.le_of_eq h.readers_eq.symm

theorem Phase.consistent (h : lock.Phase stray) : Consistent lock := by
  cases h with
  | shared h => exact h.consistent
  | upgrading h => exact h.consistent
  | exclusive h => exact h.consistent

variable {waiting : List (Suspended (LockCall ι) LockStage)}

theorem count_upgraderAt {s : Suspended (LockCall ι) LockStage} (hs : WaitsAt s.call s.stage)
    (u : ι) : (upgraderAt (some s.stage) s.call.id).count u = if s.claims u then 1 else 0 := by
  obtain ⟨task, call, stage⟩ := s
  cases hs with
  | reader id timeout => rfl
  | writer id timeout => rfl
  | upgrader id timeout =>
    simp [upgraderAt, LockCall.id, Suspended.claims, LockCall.acquires, List.count_singleton]

theorem countP_claims (hw : ∀ s ∈ waiting, WaitsAt s.call s.stage) (u : ι) :
    waiting.countP (Suspended.claims u) = (upgraders waiting).count u := by
  induction waiting with
  | nil => rfl
  | cons s rest ih =>
    have hr := ih fun t ht => hw t (List.mem_cons_of_mem s ht)
    have hs := count_upgraderAt (hw s List.mem_cons_self) u
    rw [List.countP_cons, hr, upgraders_cons, List.count_append, hs, Nat.add_comm]

theorem Sound.countP_claims (h : Sound lock waiting stray) (u : ι) :
    waiting.countP (Suspended.claims u) = if lock.upgrading = some u then 1 else 0 := by
  rw [Lock.countP_claims h.waits, h.upgraders]
  cases lock.upgrading with
  | none => rfl
  | some v => simp [List.count_singleton]

omit [DecidableEq ι] in
theorem successes_le_returned (kind : LockCall ι → Bool) (reports : List (LockReport ι)) :
    successes kind reports ≤ reports.countP Report.hasReturned := by
  apply List.countP_mono_left
  intro r _ hr
  simp only [decide_eq_true_eq] at hr
  rw [Report.hasReturned, hr.1]

theorem Kept.bounded {reports : List (LockReport ι)} (h : Kept lock waiting reports stray) :
    Bounded lock (reports.countP Report.hasReturned) where
  readers := by
    calc lock.readers ≤ lock.holders.size + stray := h.sound.phase.readers_le
      _ ≤ successes LockCall.isAcquire reports := h.size
      _ ≤ reports.countP Report.hasReturned := successes_le_returned _ _
  held mode id := by
    calc (lock.held id).count mode
        ≤ released reports mode id + (lock.held id).count mode := Nat.le_add_left _ _
      _ ≤ acquired reports mode id := h.books.covered mode id
      _ ≤ reports.countP Report.hasReturned := successes_le_returned _ _

theorem Bounded.mono {m n : Nat} (h : Bounded lock m) (hm : m ≤ n) : Bounded lock n where
  readers := Nat.le_trans h.readers hm
  held mode id := Nat.le_trans (h.held mode id) hm

/-- In every state that a run reaches the parts of the lock agree, the pending upgrade is that of
exactly one waiting call, no counter is above the number of calls, and no call ends in a fault. -/
theorem consistent_run (now : Instant) (events : List (Event (LockCall ι))) :
    Consistent (run now events).1.state ∧
      (∀ u, (run now events).1.suspended.countP (Suspended.claims u) =
        if (run now events).1.state.upgrading = some u then 1 else 0) ∧
      Bounded (run now events).1.state (events.countP Event.isStart) ∧
      ∀ r ∈ (run now events).2, ∀ f, r.outcome ≠ .returned (.fault f) := by
  obtain ⟨stray, k⟩ := kept_run now events
  have fresh : ({ state := new, now := now } : LockRoom ι).suspended = [] := rfl
  have hr := Monitor.returned_exec (m := monitor ι) fresh events
  refine ⟨k.sound.phase.consistent, k.sound.countP_claims, ?_, k.noFault⟩
  exact k.bounded.mono (Nat.le_of_add_right_le hr)

end Lock

end BlockingSync
