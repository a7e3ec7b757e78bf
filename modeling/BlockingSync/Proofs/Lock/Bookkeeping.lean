import BlockingSync.Proofs.Lock.Consistency
import BlockingSync.Proofs.Lock.Lone

namespace BlockingSync

variable {ι : Type}

namespace Registry

variable [DecidableEq ι] {r r' : Registry ι}

theorem mem_entries_iff {e : ι × HeldCounts} : e ∈ r.entries ↔ r.get? e.1 = some e.2 := by
  constructor
  · exact get?_of_mem_entries
  · intro h
    obtain ⟨e', hf, he⟩ := Option.map_eq_some_iff.mp h
    have hk : e'.1 = e.1 := by simpa using List.find?_some hf
    rw [← Prod.ext hk he]
    exact List.mem_of_find?_eq_some hf

theorem perm_of_get?_eq (h : ∀ id, r.get? id = r'.get? id) : r.entries.Perm r'.entries := by
  apply (List.perm_ext_iff_of_nodup r.nodup.of_map r'.nodup.of_map).mpr
  intro e
  rw [mem_entries_iff, mem_entries_iff, h]

end Registry

namespace Lock

def summary [DecidableEq ι] (holders : Registry ι) (upgrading : Option ι) : LockState :=
  let writers := if holders.entries.any (0 < ·.2.writes) ∨ upgrading.isSome then 1 else 0
  { readers := holders.entries.countP fun e => e.2.writes = 0 ∧ upgrading ≠ some e.1
    writers := writers
    canRead := writers == 0
    holders := holders.size }

variable [DecidableEq ι]

/-- The locks of a mode that `id` was granted, less those it gave back. -/
def net (reports : List (LockReport ι)) (mode : Mode) (id : ι) : Int :=
  acquired reports mode id - released reports mode id

/-- The reports of a run and the pending upgrade tell what the lock holds, how it answers a release
and how it counts. -/
structure Exact (room : LockRoom ι) (reports : List (LockReport ι)) : Prop where
  held : ∀ mode id, ((room.state.held id).count mode : Int) = net reports mode id
  release : ∀ mode id, ((monitor ι).step room (.start (.release mode id))).2 =
    some ⟨room.next, .release mode id, .returned
      (if net reports mode id = 0 then .failed (.notHeld mode) else .ok)⟩
  absent : ∀ id, room.state.heldBy id = none ↔
    (∀ mode, net reports mode id = 0) ∧ room.state.upgrading ≠ some id
  state : room.state.state = summary room.state.holders room.state.upgrading

variable {lock lock' : Lock ι} {stray : Nat}

theorem summary_congr {r r' : Registry ι} (h : ∀ id, r.get? id = r'.get? id)
    (upgrading : Option ι) : summary r upgrading = summary r' upgrading := by
  have hp := Registry.perm_of_get?_eq h
  rw [summary, summary, hp.any_eq, hp.countP_eq, Registry.size, hp.length_eq, ← Registry.size]

theorem any_writes_iff :
    lock.holders.entries.any (0 < ·.2.writes) = true ↔ ∃ x, 0 < (lock.held x).writes := by
  rw [List.any_eq_true]
  constructor
  · rintro ⟨e, he, hw⟩
    refine ⟨e.1, ?_⟩
    rw [held_eq (Registry.get?_of_mem_entries he)]
    exact of_decide_eq_true hw
  · rintro ⟨x, hw⟩
    have hx := heldBy_of_pos (show 0 < (lock.held x).count .write from hw)
    exact ⟨(x, lock.held x), Registry.mem_entries_iff.mpr hx, decide_eq_true hw⟩

theorem Phase.state_eq (h : lock.Phase 0) : lock.state = summary lock.holders lock.upgrading := by
  have c := h.consistent
  have hw : lock.writers =
      if lock.holders.entries.any (0 < ·.2.writes) ∨ lock.upgrading.isSome then 1 else 0 := by
    have hle := c.writers_le
    have hi := c.writers_iff
    rw [← any_writes_iff] at hi
    split
    · next hx => exact hi.mpr hx
    · next hx =>
      have hne : lock.writers ≠ 1 := fun he => hx (hi.mp he)
      omega
  rw [state, summary, ← hw, c.canRead_eq, h.readers_eq]
  rfl

theorem Move.release_outcome {now : Instant} {place : Option LockStage} {mode : Mode} {id : ι}
    {turn : LockTurn ι} (m : Move now lock place (.release mode id) turn) :
    turn.outcome = .returned
      (if (lock.held id).count mode = 0 then .failed (.notHeld mode) else .ok) := by
  have ok : ∀ {held : HeldCounts} {mode}, lock.heldBy id = some held → 0 < held.count mode →
      (.returned .ok : Outcome LockResult) = .returned
        (if (lock.held id).count mode = 0 then .failed (.notHeld mode) else .ok) := by
    intro held mode registered hpos
    rw [held_eq registered, if_neg (Nat.ne_of_gt hpos)]
  cases m with
  | readUnheld unheld | writeUnheld unheld => exact congrArg Outcome.returned (if_pos unheld).symm
  | readRelease registered reads => exact ok registered reads
  | readLeave registered | writeLeave registered => exact ok registered Nat.one_pos
  | writeRelease registered writes => exact ok registered (Nat.zero_lt_of_lt writes)
  | writeDowngrade registered writes =>
    exact ok registered (Nat.lt_of_lt_of_eq Nat.one_pos writes.symm)

theorem Phase.heldBy_eq_none_iff (h : lock.Phase stray) (id : ι) :
    lock.heldBy id = none ↔ (∀ mode, (lock.held id).count mode = 0) ∧ lock.upgrading ≠ some id := by
  have c := h.consistent
  constructor
  · intro hn
    refine ⟨?_, ?_⟩
    · intro mode
      rw [held_eq_of_none hn]
      cases mode <;> rfl
    · intro hu
      obtain ⟨held, hs, -⟩ := c.upgrader id hu
      rw [hn] at hs
      cases hs
  · rintro ⟨hz, hu⟩
    cases hs : lock.heldBy id with
    | none => rfl
    | some held =>
      have hpos := c.nonempty id held hs hu
      have hr : held.reads = 0 := held_eq hs ▸ hz .read
      have hw : held.writes = 0 := held_eq hs ▸ hz .write
      omega

variable {room room' : LockRoom ι} {waiting : List (Suspended (LockCall ι) LockStage)}
  {reports reports' : List (LockReport ι)}

theorem Kept.exact (k : Kept room.state waiting reports 0) : Exact room reports := by
  have held : ∀ mode id, ((room.state.held id).count mode : Int) = net reports mode id := by
    intro mode id
    have hb := k.books.exact mode id (Or.inr rfl)
    rw [net]
    omega
  refine ⟨held, ?_, ?_, k.sound.phase.state_eq⟩
  · intro mode id
    have m := start_move k.sound.phase room.now (.release mode id)
    have hz : net reports mode id = 0 ↔ (room.state.held id).count mode = 0 := by
      rw [← held, Int.natCast_eq_zero]
    rw [report_start]
    simp only [hz, ← m.release_outcome]
  · intro id
    rw [k.sound.phase.heldBy_eq_none_iff]
    simp only [← held, Int.natCast_eq_zero]

theorem Exact.heldBy_eq (h : Exact room reports) (h' : Exact room' reports')
    (same : ∀ mode id, net reports' mode id = net reports mode id)
    (upgrading : room'.state.upgrading = room.state.upgrading) (id : ι) :
    room'.state.heldBy id = room.state.heldBy id := by
  have held : room'.state.held id = room.state.held id := by
    ext mode
    rw [← Int.natCast_inj, h.held, h'.held, same]
  have absent : room'.state.heldBy id = none ↔ room.state.heldBy id = none := by
    rw [h.absent, h'.absent, upgrading]
    simp only [same]
  cases hs : room.state.heldBy id with
  | none => exact absent.mpr hs
  | some counts =>
    cases hs' : room'.state.heldBy id with
    | none => exact absurd (absent.mp hs') (by simp [hs])
    | some counts' => rw [← held_eq hs, ← held_eq hs', held]

/-- The reports of a run in which no call for an identity starts while one waits for a read lock of
it account for all that the lock holds and counts; with the pending upgrade they determine it. -/
theorem reports_determine_lock {now : Instant} {events : List (Event (LockCall ι))}
    (apart : keepsApart LockCall.sameReader now events = true) :
    Exact (run now events).1 (run now events).2 ∧
      ∀ now' events', keepsApart LockCall.sameReader now' events' = true →
        (∀ mode id, net (run now' events').2 mode id = net (run now events).2 mode id) →
        (run now' events').1.state.upgrading = (run now events).1.state.upgrading →
        (∀ id, (run now' events').1.state.heldBy id = (run now events).1.state.heldBy id) ∧
          (run now' events').1.state.state = (run now events).1.state.state := by
  have exact : ∀ {now events}, keepsApart (ι := ι) LockCall.sameReader now events = true →
      Exact (run now events).1 (run now events).2 := by
    intro now events h
    exact (exact_run readsApart_sameReader h).exact
  refine ⟨exact apart, ?_⟩
  intro now' events' apart' same upgrading
  have held := (exact apart).heldBy_eq (exact apart') same upgrading
  refine ⟨held, ?_⟩
  rw [(exact apart).state, (exact apart').state, upgrading, summary_congr held]

/-- An upgrade is pending whose read locks have been released meanwhile, one reader has read twice,
and a newcomer waits. -/
def midUpgradeEvents : List (Event (LockCall (Fin 3))) :=
  [.start (.acquire .read 0 .infinite), .start (.acquire .read 1 .infinite),
    .start (.acquire .write 0 .infinite), .start (.release .read 0),
    .start (.acquire .read 1 .infinite), .start (.acquire .read 2 .infinite)]

/-- The same in another order, after a writer has come and gone. -/
def midUpgradeLaterEvents : List (Event (LockCall (Fin 3))) :=
  [.start (.acquire .write 2 .infinite), .start (.acquire .read 1 .infinite),
    .start (.release .write 2), .run 1, .start (.acquire .read 0 .infinite),
    .start (.acquire .read 1 .infinite), .start (.acquire .write 0 .infinite),
    .start (.release .read 0)]

theorem reports_determine_lock_midUpgrade :
    keepsApart LockCall.sameReader .zero midUpgradeEvents = true ∧
      keepsApart LockCall.sameReader .zero midUpgradeLaterEvents = true ∧
      (∀ mode id, net (run .zero midUpgradeLaterEvents).2 mode id =
        net (run .zero midUpgradeEvents).2 mode id) ∧
      (run .zero midUpgradeLaterEvents).1.state.upgrading = some 0 ∧
      (run .zero midUpgradeEvents).1.state.upgrading = some 0 ∧
      Exact (run .zero midUpgradeEvents).1 (run .zero midUpgradeEvents).2 ∧
      (run .zero midUpgradeLaterEvents).1.state.state =
        (run .zero midUpgradeEvents).1.state.state := by
  have apart : keepsApart LockCall.sameReader .zero midUpgradeEvents = true := by decide
  have apart' : keepsApart LockCall.sameReader .zero midUpgradeLaterEvents = true := by decide
  have same : ∀ mode id, net (run .zero midUpgradeLaterEvents).2 mode id =
      net (run .zero midUpgradeEvents).2 mode id := by
    rintro (_ | _) <;> decide
  have determined := reports_determine_lock apart
  exact ⟨apart, apart', same, by decide, by decide, determined.1,
    (determined.2 .zero midUpgradeLaterEvents apart' same (by decide)).2⟩

end Lock

end BlockingSync
