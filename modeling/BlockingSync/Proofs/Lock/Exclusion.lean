import BlockingSync.Proofs.Lock.Invariant

namespace BlockingSync

namespace Lock

variable {ι : Type} [DecidableEq ι]

/-- While an identity has been granted more write locks than it gave back, every other identity has
given back all it was granted. -/
theorem all_returned_beside_writer (now : Instant) (events : List (Event (LockCall ι))) {x y : ι}
    (hne : y ≠ x)
    (hx : released (run now events).2 .write x < acquired (run now events).2 .write x)
    (mode : Mode) : acquired (run now events).2 mode y = released (run now events).2 mode y := by
  obtain ⟨stray, k⟩ := kept_run now events
  have hw : 0 < ((run now events).1.state.held x).count .write := by
    have hb := k.books.exact .write x (Or.inl rfl)
    omega
  have hex := k.sound.phase.exclusive_of_writes (heldBy_of_pos hw) hw
  obtain rfl := k.sound.phase.stray_eq_zero hex
  have hy : (run now events).1.state.heldBy y = none := by
    rw [← Option.not_isSome_iff_eq_none, hex.alone]
    exact hne
  have hb := k.books.exact mode y (Or.inr rfl)
  rw [held_eq_of_none hy] at hb
  cases mode <;> exact hb

/-- Two read locks of 2 keep the write lock from 1 until both are given back. -/
def handoverEvents : List (Event (LockCall Nat)) :=
  [.start (.acquire .read 2 .infinite), .start (.acquire .read 2 .infinite),
    .start (.acquire .write 1 .infinite), .start (.release .read 2), .start (.release .read 2),
    .run 2]

theorem all_returned_beside_writer_handover :
    let reports := (run .zero handoverEvents).2
    2 ≠ 1 ∧ released reports .write 1 < acquired reports .write 1 ∧
      acquired reports .read 2 = released reports .read 2 :=
  ⟨by decide, by decide,
    all_returned_beside_writer .zero handoverEvents (x := 1) (y := 2) (by decide) (by decide) .read⟩

end Lock

end BlockingSync
