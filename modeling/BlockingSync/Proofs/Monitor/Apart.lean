import BlockingSync.Proofs.Monitor.Run

namespace BlockingSync

namespace Monitor

variable {σ α κ χ ρ : Type} [DecidableEq χ] (m : Monitor σ α κ χ ρ) (apart : α → α → Bool)

/-- No call of the run starts while one from which it is to be kept apart has not returned. -/
def keepsApart (room : Room σ α κ) : List (Event α) → Bool
  | [] => true
  | event :: rest =>
    (match event with
      | .start call => !room.suspended.any (apart call ·.call)
      | _ => true) && keepsApart (m.step room event).1 rest

theorem keepsApart_never (room : Room σ α κ) (events : List (Event α)) :
    m.keepsApart (fun _ _ => false) room events = true := by
  induction events generalizing room with
  | nil => rfl
  | cons event rest ih =>
    refine Bool.and_eq_true_iff.mpr ⟨?_, ih _⟩
    cases event with
    | start call => simp
    | run | wake | advance | skip => rfl

theorem keepsApart_append (room : Room σ α κ) (events more : List (Event α)) :
    m.keepsApart apart room (events ++ more) =
      (m.keepsApart apart room events && m.keepsApart apart (m.exec room events).1 more) := by
  induction events generalizing room with
  | nil => rfl
  | cons event rest ih => simp only [List.cons_append, keepsApart, exec, ih, Bool.and_assoc]

/-- The monitor that keeps the calls apart itself. -/
def separated : Monitor σ α κ χ ρ :=
  { m with excludes := fun call other => m.excludes call other || apart call other }

variable {m apart}

omit [DecidableEq χ] in
theorem apart_eq_false {call other : α}
    (h : (m.separated apart).excludes call other = false) : apart call other = false :=
  (Bool.or_eq_false_iff.mp h).2

omit [DecidableEq χ] in
theorem busy_separated {room : Room σ α κ} {call : α}
    (h : room.suspended.any (apart call ·.call) = false) :
    (m.separated apart).busy room call = m.busy room call := by
  have hc := List.any_eq_false.mp h
  rw [busy, busy, Bool.eq_iff_iff, List.any_eq_true, List.any_eq_true]
  constructor
  · rintro ⟨s, hs, he⟩
    obtain he | he := Bool.or_eq_true_iff.mp he
    · exact ⟨s, hs, he⟩
    · exact absurd he (hc s hs)
  · rintro ⟨s, hs, he⟩
    exact ⟨s, hs, Bool.or_eq_true_iff.mpr (Or.inl he)⟩

theorem exec_separated {room : Room σ α κ} {events : List (Event α)}
    (h : m.keepsApart apart room events = true) :
    (m.separated apart).exec room events = m.exec room events := by
  induction events generalizing room with
  | nil => rfl
  | cons event rest ih =>
    obtain ⟨hs, hr⟩ := Bool.and_eq_true_iff.mp h
    have hstep : (m.separated apart).step room event = m.step room event := by
      cases event with
      | start call =>
        rw [step, step, busy_separated (by simpa using hs)]
        rfl
      | run | wake | advance | skip => rfl
    simp only [exec, hstep, ih hr]

theorem Keeps.exec_apart {P : σ → List (Suspended α κ) → List (Report α ρ) → Prop}
    (h : (m.separated apart).Keeps P) {room : Room σ α κ}
    (fresh : P room.state room.suspended []) {events : List (Event α)}
    (ha : m.keepsApart apart room events = true) :
    P (m.exec room events).1.state (m.exec room events).1.suspended (m.exec room events).2 := by
  rw [← exec_separated ha]
  exact h.exec fresh events

end Monitor

end BlockingSync
