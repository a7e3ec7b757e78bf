import BlockingSync.Proofs.Time.Exact
import BlockingSync.Time.Timeout

namespace BlockingSync

namespace Timeout

variable {t u now later : Instant} {d d' : Duration} {timeout other : Timeout}

theorem isExpired_ofDeadline_iff : (ofDeadline u).isExpired now = true ↔ u ≤ now :=
  decide_eq_true_iff

theorem isInfinite_after_iff : (after t d).isInfinite = true ↔
    0x7fffffffffffffff < (t.toNanos + d.toNanos) / nanosPerSec := by
  rw [← Instant.add?_eq_none_iff, isInfinite, after, Option.isNone_iff_eq_none]

theorem after_eq_ofDeadline (h : (after t d).isInfinite = false) :
    ∃ u : Instant, u.toNanos = t.toNanos + d.toNanos ∧ after t d = ofDeadline u := by
  cases ha : t.add? d with
  | none => simp [isInfinite, after, ha] at h
  | some u => exact ⟨u, Instant.add?_eq_some_iff.mp ha, congrArg Timeout.mk ha⟩

theorem isInfinite_iff : timeout.isInfinite = true ↔ timeout = infinite := by
  obtain ⟨_ | u⟩ := timeout <;> simp [isInfinite, infinite]

theorem le_iff : timeout ≤ other ↔
    ∀ now, other.isExpired now = true → timeout.isExpired now = true := by
  constructor
  · intro h now ho
    obtain ⟨u, hu, hle⟩ := isExpired_iff.mp ho
    obtain ⟨s, hs, hsu⟩ := h u hu
    rw [Instant.le_iff] at hle hsu
    exact isExpired_iff.mpr ⟨s, hs, Instant.le_iff.mpr (by omega)⟩
  · intro h u hu
    -- when the greater one has just expired, so has the other one
    exact isExpired_iff.mp (h u (isExpired_iff.mpr ⟨u, hu, Instant.le_iff.mpr (Int.le_refl _)⟩))

theorem le_infinite (timeout : Timeout) : timeout ≤ infinite := by
  rintro u ⟨⟩

theorem eq_infinite_of_le (h : infinite ≤ timeout) : timeout = infinite := by
  obtain ⟨_ | u⟩ := timeout
  · rfl
  · obtain ⟨_, hs, -⟩ := h u rfl
    cases hs

theorem after_le_after (h : d ≤ d') : after t d ≤ after t d' := by
  intro u' hu'
  rw [Duration.le_iff] at h
  have hu := Instant.add?_eq_some_iff.mp hu'
  cases ha : t.add? d with
  | none =>
    have far := Instant.add?_eq_none_iff.mp ha
    have near := u'.secs_lt
    have hn := u'.nanos_lt
    simp only [Instant.toNanos, nanosPerSec] at far hu hn
    omega
  | some u =>
    have hd := Instant.add?_eq_some_iff.mp ha
    exact ⟨u, ha, Instant.le_iff.mpr (by omega)⟩

theorem toNanos_remaining (hu : u.toNanos = t.toNanos + d.toNanos) (now : Instant) :
    ∃ left, (ofDeadline u).remaining now = some left ∧
      (left.toNanos : Int) = max 0 (d.toNanos - (now.toNanos - t.toNanos)) := by
  refine ⟨u.since now, rfl, ?_⟩
  rw [Instant.toNanos_since, hu]
  omega

theorem isExpired_iff_remaining :
    (ofDeadline u).isExpired now = true ↔ (ofDeadline u).remaining now = some .zero := by
  have hs := Instant.toNanos_since u now
  change _ ↔ some (u.since now) = some .zero
  rw [isExpired_ofDeadline_iff, Option.some.injEq, Duration.eq_zero_iff, Instant.le_iff]
  omega

theorem remaining_antitone (h : now ≤ later) {left : Duration}
    (hl : timeout.remaining now = some left) :
    ∃ rest, timeout.remaining later = some rest ∧ rest ≤ left := by
  obtain ⟨_ | u⟩ := timeout
  · cases hl
  · obtain rfl : u.since now = left := Option.some.inj hl
    refine ⟨u.since later, rfl, ?_⟩
    have before := Instant.toNanos_since u now
    have after := Instant.toNanos_since u later
    rw [Instant.le_iff] at h
    rw [Duration.le_iff]
    omega

/-- The time left of a timeout that has not expired is exactly the time until its deadline. -/
theorem add?_remaining (early : timeout.isExpired now = false) {left : Duration}
    (hl : timeout.remaining now = some left) : now.add? left = timeout.deadline := by
  obtain ⟨_ | u⟩ := timeout
  · cases hl
  · obtain rfl : u.since now = left := Option.some.inj hl
    have ahead : now < u := isExpired_eq_false_iff.mp early u rfl
    have exact_time := Instant.toNanos_since u now
    rw [Instant.lt_iff] at ahead
    exact Instant.add?_eq_some_iff.mpr (by omega)

/-- A timeout that has not expired does so within `d` just if it has no more than `d` left. -/
theorem isExpired_add?_iff (early : timeout.isExpired now = false) (hd : now.add? d = some later) :
    timeout.isExpired later = true ↔ ∃ left, timeout.remaining now = some left ∧ left ≤ d := by
  obtain ⟨_ | u⟩ := timeout
  · simp [isExpired, remaining]
  · have hl : (ofDeadline u).remaining now = some (u.since now) := rfl
    have ahead := Instant.add?_eq_some_iff.mp (add?_remaining early hl)
    have moved := Instant.add?_eq_some_iff.mp hd
    change (ofDeadline u).isExpired later = true ↔ ∃ left, (ofDeadline u).remaining now = _ ∧ _
    simp only [hl, Option.some.injEq, exists_eq_left']
    rw [isExpired_ofDeadline_iff, Instant.le_iff, Duration.le_iff]
    omega

/-- A timeout of length `d` that is started at `t` counts down from `d`. The clock shows `now`. -/
structure CountsDown (t : Instant) (d : Duration) : Prop where
  isInfinite_iff : (after t d).isInfinite = true ↔
    0x7fffffffffffffff < (t.toNanos + d.toNanos) / nanosPerSec
  deadline : (after t d).isInfinite = false →
    ∃ u : Instant, u.toNanos = t.toNanos + d.toNanos ∧ after t d = ofDeadline u
  remaining : (after t d).isInfinite = false → ∀ now,
    ∃ left, (after t d).remaining now = some left ∧
      (left.toNanos : Int) = max 0 (d.toNanos - (now.toNanos - t.toNanos))
  expired : (after t d).isInfinite = false → ∀ now,
    ((after t d).isExpired now = true ↔ (d.toNanos : Int) ≤ now.toNanos - t.toNanos) ∧
      ((after t d).isExpired now = true ↔ (after t d).remaining now = some .zero)
  longer : ∀ d', d ≤ d' → after t d ≤ after t d' ∧
    ∀ now, (after t d').isExpired now = true → (after t d).isExpired now = true

theorem countsDown (t : Instant) (d : Duration) : CountsDown t d where
  isInfinite_iff := isInfinite_after_iff
  deadline := after_eq_ofDeadline
  remaining finite now := by
    obtain ⟨u, hu, ha⟩ := after_eq_ofDeadline finite
    rw [ha]
    exact toNanos_remaining hu now
  expired finite now := by
    obtain ⟨u, hu, ha⟩ := after_eq_ofDeadline finite
    rw [ha]
    refine ⟨?_, isExpired_iff_remaining⟩
    rw [isExpired_ofDeadline_iff, Instant.le_iff]
    omega
  longer d' h := ⟨after_le_after h, le_iff.mp (after_le_after h)⟩

/-- A timeout is an exact countdown from its start on. An infinite one has no time left and does not
expire, and it is the greatest. What is left of a timeout never grows. -/
theorem exact_countdown :
    (∀ t d, CountsDown t d) ∧
    (∀ timeout : Timeout, timeout.isInfinite = true →
      ∀ now, timeout.remaining now = none ∧ timeout.isExpired now = false) ∧
    (∀ (timeout : Timeout) now later left, now ≤ later → timeout.remaining now = some left →
      ∃ rest, timeout.remaining later = some rest ∧ rest ≤ left) ∧
    ∀ timeout : Timeout, timeout ≤ infinite ∧ (infinite ≤ timeout → timeout = infinite) := by
  refine ⟨countsDown, ?_, ?_, ?_⟩
  · rintro timeout hi now
    obtain rfl := isInfinite_iff.mp hi
    exact ⟨rfl, rfl⟩
  · intro timeout now later left h hl
    exact remaining_antitone h hl
  · exact fun timeout => ⟨timeout.le_infinite, eq_infinite_of_le⟩

-- One nanosecond more, and the deadline would lie beyond the last second.
example :
    let t : Instant := { secs := 0x7fffffffffffffff, nanos := 999999998 }
    (after t { secs := 0, nanos := 1 }).isInfinite = false ∧
      after t { secs := 0, nanos := 2 } = infinite := by
  decide

end Timeout

end BlockingSync
