import BlockingSync.Proofs.Lock.Lone
import BlockingSync.Proofs.Lock.Refusal

namespace BlockingSync

variable {ι : Type} [DecidableEq ι]

def LockCall.bothWrite (call other : LockCall ι) : Bool :=
  call.acquires .write call.id && other.acquires .write call.id

namespace Lock

variable {lock : Lock ι} {now : Instant} {place : Option LockStage} {call : LockCall ι}
  {turn : LockTurn ι} {stray : Nat} {room after : LockRoom ι} {event : Event (LockCall ι)}
  {report : LockReport ι} {u : ι}

theorem Move.refused (m : Move now lock place call turn)
    (h : turn.outcome = .returned (.failed .deadlock)) :
    call.acquires .write call.id = true ∧
      ∃ held, lock.heldBy call.id = some held ∧ held.writes = 0 ∧ 0 < lock.writers := by
  cases m with
  | @writeRefuse id timeout held registered idle writers =>
    exact ⟨LockCall.acquires_iff.mpr ⟨timeout, rfl⟩, held, registered, idle, writers⟩
  | _ => cases h

/-- The lock in which a call is refused: an upgrade of `u` is pending, and unless it is of the same
identity, that identity reads. -/
structure InTheWay (u : ι) (call : LockCall ι) (room : LockRoom ι) : Prop where
  upgrading : room.state.upgrading = some u
  claims : ∃ s ∈ room.suspended, s.claims u = true
  reads : u ≠ call.id → 0 < (room.state.held call.id).reads

theorem Sound.inTheWay (sound : Sound room.state room.suspended stray)
    (upgrading : room.state.Upgrading u stray) {held : HeldCounts}
    (registered : room.state.heldBy call.id = some held) : InTheWay u call room where
  upgrading := upgrading.upgrading
  claims := by
    obtain ⟨s, hs, hk, rfl⟩ := sound.upgrading_iff.mp upgrading.upgrading
    exact ⟨s, hs, (sound.waits s hs).claims_of_upgrader hk⟩
  reads hne := by
    rw [held_eq registered]
    exact (upgrading.reading call.id held registered).1 hne.symm

theorem Sound.refused (sound : Sound room.state room.suspended stray)
    (hc : (monitor ι).Change room event after (some report))
    (refused : report.outcome = .returned (.failed .deadlock)) :
    event = .start report.call ∧ report.call.acquires .write report.call.id = true ∧
      ∃ u, InTheWay u report.call room := by
  cases hc with
  | start call free =>
    obtain ⟨asks, held, registered, idle, claimed⟩ :=
      (start_move sound.phase room.now call).refused refused
    refine ⟨rfl, asks, ?_⟩
    obtain ⟨u, upgrading⟩ | shared := sound.phase.upgrading_or_shared registered idle
    · exact ⟨u, sound.inTheWay upgrading registered⟩
    · rw [shared.writers] at claimed
      cases claimed
  | run s earlier later hr => exact absurd refused (sound.not_refused (.run s earlier later hr))

theorem InTheWay.rival (h : InTheWay u call room) (asks : call.acquires .write call.id = true)
    (apart : (monitor ι).keepsApart LockCall.bothWrite room [.start call] = true) :
    u ≠ call.id := by
  rintro rfl
  obtain ⟨s, hs, claims⟩ := h.claims
  have same : s.call.acquires .write call.id = true := (Bool.and_eq_true_iff.mp claims).2
  have alone : room.suspended.any (LockCall.bothWrite call ·.call) = false := by
    simpa [Monitor.keepsApart] using apart
  exact List.any_eq_false.mp alone s hs (Bool.and_eq_true_iff.mpr ⟨asks, same⟩)

/-- Whoever is refused the write lock finds an upgrade pending. If it is of another identity, the
refused one holds a read lock; and it is of another one if no call asks for the write lock of an
identity while such a call of the same identity has not returned. -/
theorem refused_beside_rival {events : List (Event (LockCall ι))}
    (he : ((monitor ι).step (run now events).1 event).2 = some report)
    (refused : report.outcome = .returned (.failed .deadlock)) :
    ∃ u, InTheWay u report.call (run now events).1 ∧
      (keepsApart LockCall.bothWrite now (events ++ [event]) = true → u ≠ report.call.id) := by
  obtain ⟨stray, k⟩ := kept_run now events
  have hc := (monitor ι).step_change (run now events).1 event
  rw [he] at hc
  obtain ⟨rfl, asks, u, inTheWay⟩ := k.sound.refused hc refused
  refine ⟨u, inTheWay, ?_⟩
  intro apart
  rw [keepsApart, Monitor.keepsApart_append] at apart
  exact inTheWay.rival asks (Bool.and_eq_true_iff.mp apart).2

theorem refused_beside_rival_pendingUpgrade :
    let call := LockCall.acquire .write 2 .infinite
    let room := (run .zero pendingUpgradeEvents).1
    ((monitor Nat).step room (.start call)).2 = some ⟨3, call, .returned (.failed .deadlock)⟩ ∧
      keepsApart LockCall.bothWrite .zero (pendingUpgradeEvents ++ [.start call]) = true ∧
      ∃ u, InTheWay u call room ∧ u ≠ 2 := by
  intro call room
  have he : ((monitor Nat).step room (.start call)).2 =
      some ⟨3, call, .returned (.failed .deadlock)⟩ := by
    decide
  have apart :
      keepsApart LockCall.bothWrite .zero (pendingUpgradeEvents ++ [.start call]) = true := by
    decide
  obtain ⟨u, inTheWay, rival⟩ := refused_beside_rival he rfl
  exact ⟨he, apart, u, inTheWay, rival apart⟩

/-- Another call of 1 is refused on account of its own upgrade, also when 1 reads no more. -/
theorem no_rival_pendingUpgrade :
    let call := LockCall.acquire .write 1 (.expired .zero)
    let room := (run .zero pendingUpgradeEvents).1
    let later := (run .zero (pendingUpgradeEvents ++ [.start (.release .read 1)])).1
    ((monitor Nat).step room (.start call)).2 =
        some ⟨3, call, .returned (.failed .deadlock)⟩ ∧
      room.state.upgrading = some 1 ∧
      ((monitor Nat).step later (.start call)).2 =
        some ⟨4, call, .returned (.failed .deadlock)⟩ ∧
      later.state.upgrading = some 1 ∧ (later.state.held 1).reads = 0 := by
  decide

end Lock

end BlockingSync
