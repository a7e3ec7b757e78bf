import BlockingSync.Proofs.Lock.Single
import BlockingSync.Proofs.Lock.Wakeup
import Mathlib.Data.Set.Basic

namespace BlockingSync

variable {ι : Type} [DecidableEq ι]

namespace Lock

/-- The call cannot go on before `y` has released something: a reader waits for the writer or
upgrader, a writer for everyone registered, an upgrader for everyone else registered. -/
def WaitsFor (lock : Lock ι) (s : Suspended (LockCall ι) LockStage) (y : ι) : Prop :=
  match s.stage with
  | .reader => 0 < (lock.held y).writes ∨ lock.upgrading = some y
  | .writer => (lock.heldBy y).isSome
  | .upgrader => (lock.heldBy y).isSome ∧ y ≠ s.call.id

def Awaits (room : LockRoom ι) (x y : ι) : Prop :=
  ∃ s ∈ room.suspended, s.call.id = x ∧ room.state.WaitsFor s y

/-- The identities do not block each other. -/
structure DeadlockFree (room : LockRoom ι) : Prop where
  admits : ∀ s ∈ room.suspended,
    room.state.admits s.stage = true ↔ ∀ y, ¬ room.state.WaitsFor s y
  holder : room.ready = [] → room.parked ≠ [] → ∃ x held, room.state.heldBy x = some held ∧
    0 < held.reads + held.writes ∧ ∀ s ∈ room.parked, s.call.id ≠ x
  acyclic : ∀ S : Set ι, S.Nonempty → ∃ x ∈ S, ∀ y ∈ S, ¬ Awaits room x y

variable {lock claimed : Lock ι} {waiting others : List (Suspended (LockCall ι) LockStage)}
  {s : Suspended (LockCall ι) LockStage} {room : LockRoom ι}
  {now : Instant} {place : Option LockStage} {x y z id : ι} {call : LockCall ι} {turn : LockTurn ι}
  {stray : Nat}

theorem Consistent.readable_iff_forall (c : Consistent lock) :
    lock.readable = true ↔ ∀ y, ¬ (0 < (lock.held y).writes ∨ lock.upgrading = some y) := by
  have hw : lock.writers ≠ 1 ↔ ∀ y, ¬ (0 < (lock.held y).writes ∨ lock.upgrading = some y) := by
    rw [Ne, c.writers_iff, Option.isSome_iff_exists, ← exists_or, not_exists]
  have hle := c.writers_le
  rw [readable_iff, c.canRead_eq, beq_iff_eq, and_self, ← hw]
  omega

theorem Upgrading.readers_eq_zero_iff (h : lock.Upgrading y 0) :
    lock.readers = 0 ↔ ∀ z, ¬ ((lock.heldBy z).isSome ∧ z ≠ y) := by
  have hr := h.readers
  constructor
  · rintro hz x ⟨hx, hne⟩
    exact hne (((h.alone hz).2 x).mp hx)
  · intro hn
    have hs : lock.holders.size = 1 := by
      apply Registry.size_eq_one (x := y)
      intro x
      refine ⟨fun hx => by_contra fun hne => hn x ⟨hx, hne⟩, ?_⟩
      rintro rfl
      exact h.registered
    omega

theorem Phase.writable_iff_forall (h : lock.Phase 0) :
    lock.writable = true ↔ ∀ y, ¬ (lock.heldBy y).isSome := by
  rw [writable_iff]
  constructor
  · rintro ⟨hr, hw⟩ y
    rw [(h.shared_of_writers hw).free_of_readers_eq_zero hr |>.2 y]
    simp
  · intro free
    cases h with
    | shared h =>
      have hn : lock.holders.ids = [] := by
        apply List.eq_nil_iff_forall_not_mem.mpr
        intro y hy
        exact free y ((lock.holders.mem_ids_iff y).mp hy)
      have hs := h.readers
      rw [← Registry.length_ids, hn] at hs
      exact ⟨hs, h.writers⟩
    | upgrading h => exact absurd h.registered (free _)
    | exclusive h => exact absurd ((h.alone _).mpr rfl) (free _)

theorem Sound.admits_iff (h : Sound lock waiting 0) (hs : s ∈ waiting) :
    lock.admits s.stage = true ↔ ∀ y, ¬ lock.WaitsFor s y := by
  cases hk : s.stage with
  | reader =>
    simp only [WaitsFor, hk, admits]
    exact h.phase.consistent.readable_iff_forall
  | writer =>
    simp only [WaitsFor, hk, admits]
    exact h.phase.writable_iff_forall
  | upgrader =>
    have hu := h.upgrading_iff.mpr ⟨s, hs, hk, rfl⟩
    simp only [WaitsFor, hk, admits, beq_iff_eq]
    exact (h.phase.upgrading_of_pending hu).readers_eq_zero_iff

theorem WaitsFor.registered (h : lock.WaitsFor s y) (c : Consistent lock) :
    (lock.heldBy y).isSome := by
  rw [WaitsFor] at h
  split at h
  · obtain hw | hu := h
    · exact Option.isSome_of_eq_some (heldBy_of_pos (show 0 < (lock.held y).count .write from hw))
    · obtain ⟨held, hy, -⟩ := c.upgrader y hu
      exact Option.isSome_of_eq_some hy
  · exact h
  · exact h.1

theorem Single.stage_eq (h : Single lock waiting) (hs : s ∈ waiting)
    (registered : (lock.heldBy s.call.id).isSome) : s.stage = .upgrader := by
  by_contra hk
  rw [h.unregistered s hs hk] at registered
  cases registered

variable (sound : Sound room.state room.suspended stray)
  (single : Single room.state room.suspended)

include sound single

theorem Awaits.not_awaits (h : Awaits room x y) (registered : (room.state.heldBy x).isSome)
    (z : ι) : ¬ Awaits room y z := by
  have c := sound.phase.consistent
  rintro ⟨t, ht, rfl, -⟩
  obtain ⟨s, hs, rfl, hw⟩ := h
  have hk := single.stage_eq hs registered
  have hu := sound.upgrading_iff.mpr ⟨s, hs, hk, rfl⟩
  have hv := sound.upgrading_iff.mpr
    ⟨t, ht, single.stage_eq ht (hw.registered c), rfl⟩
  rw [WaitsFor, hk] at hw
  exact hw.2 (Option.some.inj (hv.symm.trans hu))

theorem awaits_acyclic {S : Set ι} (hS : S.Nonempty) : ∃ x ∈ S, ∀ y ∈ S, ¬ Awaits room x y := by
  by_contra hn
  push Not at hn
  -- of three who await one another in turn, the second one is awaited, so it is registered and
  -- upgrades, and then the third one awaits nobody
  obtain ⟨x, hx⟩ := hS
  obtain ⟨y, hy, hxy⟩ := hn x hx
  obtain ⟨z, hz, hyz⟩ := hn y hy
  obtain ⟨w, -, hzw⟩ := hn z hz
  obtain ⟨s, -, -, hw⟩ := hxy
  exact hyz.not_awaits sound single (hw.registered sound.phase.consistent) w hzw

omit single in
theorem holds_of_not_waiting (registered : (room.state.heldBy x).isSome)
    (hx : ∀ s ∈ room.suspended, s.call.id ≠ x) :
    ∃ held, room.state.heldBy x = some held ∧ 0 < held.reads + held.writes := by
  obtain ⟨held, hh⟩ := Option.isSome_iff_exists.mp registered
  refine ⟨held, hh, sound.phase.consistent.nonempty x held hh ?_⟩
  intro hu
  obtain ⟨s, hs, -, he⟩ := sound.upgrading_iff.mp hu
  exact hx s hs he

omit sound in
theorem exists_holder (sound : Sound room.state room.suspended 0) (watched : Watched room)
    (hr : room.ready = []) (hp : room.parked ≠ []) :
    ∃ x held, room.state.heldBy x = some held ∧ 0 < held.reads + held.writes ∧
      ∀ s ∈ room.parked, s.call.id ≠ x := by
  have parked : room.suspended = room.parked := by rw [Room.suspended, hr, List.append_nil]
  have blocked : ∀ s ∈ room.suspended, ∃ y, room.state.WaitsFor s y := by
    intro s hs
    by_contra hn
    have ha := (sound.admits_iff hs).mpr (not_exists.mp hn)
    obtain ⟨-, t, ht, -⟩ := watched s (parked ▸ hs) ha
    rw [hr] at ht
    cases ht
  let awaited : Set ι := { y | ∃ x, Awaits room x y }
  have nonempty : awaited.Nonempty := by
    obtain ⟨s, hs⟩ := List.exists_mem_of_ne_nil _ hp
    rw [← parked] at hs
    obtain ⟨y, hy⟩ := blocked s hs
    exact ⟨y, s.call.id, s, hs, rfl, hy⟩
  -- one of the awaited awaits none of them, so it has no call at all
  obtain ⟨x, ⟨w, s, hs, -, hw⟩, hx⟩ := awaits_acyclic sound single nonempty
  have alone : ∀ t ∈ room.suspended, t.call.id ≠ x := by
    rintro t ht rfl
    obtain ⟨y, hy⟩ := blocked t ht
    have ha : Awaits room t.call.id y := ⟨t, ht, rfl, hy⟩
    exact hx y ⟨t.call.id, ha⟩ ha
  obtain ⟨held, hh, hpos⟩ := holds_of_not_waiting sound (hw.registered sound.phase.consistent) alone
  exact ⟨x, held, hh, hpos, parked ▸ alone⟩

omit sound single

/-- A run in which each identity has one call at a time leads into no deadlock. -/
theorem deadlockFree_run {now : Instant} {events : List (Event (LockCall ι))}
    (apart : keepsApart LockCall.sameId now events = true) : DeadlockFree (run now events).1 := by
  have k := exact_run readsApart_sameId apart
  have single := (keeps_single.exec_apart ⟨⟨0, sound_new⟩, single_new⟩ apart).2
  exact ⟨fun s hs => k.sound.admits_iff hs, exists_holder single k.sound (watched_run now events),
    fun S => awaits_acyclic k.sound single⟩

/-- One reader waits to upgrade beside another one, a newcomer waits for the upgrader, and a writer
for both of those registered. -/
def queuedUpgradeEvents : List (Event (LockCall Nat)) :=
  [.start (.acquire .read 1 .infinite), .start (.acquire .read 2 .infinite),
    .start (.acquire .write 1 .infinite), .start (.acquire .read 3 .infinite),
    .start (.acquire .write 4 .infinite)]

theorem deadlockFree_run_queuedUpgrade :
    keepsApart LockCall.sameId .zero queuedUpgradeEvents = true ∧
      (run .zero queuedUpgradeEvents).1.parked.map (·.call.id) = [1, 3, 4] ∧
      (run .zero queuedUpgradeEvents).1.ready = [] ∧
      DeadlockFree (run .zero queuedUpgradeEvents).1 :=
  ⟨by decide, by decide, rfl, deadlockFree_run (by decide)⟩

end Lock

end BlockingSync
