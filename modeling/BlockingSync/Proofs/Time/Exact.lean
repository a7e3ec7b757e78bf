import BlockingSync.Time.Instant

namespace BlockingSync

namespace Duration

theorem toNanos_inj {a b : Duration} : a.toNanos = b.toNanos ↔ a = b := by
  constructor
  · intro h
    have ha := a.nanos_lt
    have hb := b.nanos_lt
    cases a
    cases b
    simp only [toNanos, nanosPerSec, mk.injEq] at ha hb h ⊢
    omega
  · rintro rfl
    rfl

theorem le_iff {a b : Duration} : a ≤ b ↔ a.toNanos ≤ b.toNanos := by
  have ha := a.nanos_lt
  have hb := b.nanos_lt
  change a.secs < b.secs ∨ a.secs = b.secs ∧ a.nanos ≤ b.nanos ↔ _
  simp only [toNanos, nanosPerSec] at ha hb ⊢
  omega

theorem eq_zero_iff {d : Duration} : d = zero ↔ d.toNanos = 0 :=
  toNanos_inj.symm

end Duration

namespace Instant

variable {t u : Instant} {d : Duration}

theorem le_iff : t ≤ u ↔ t.toNanos ≤ u.toNanos := by
  have ht := t.nanos_lt
  have hu := u.nanos_lt
  change t.secs < u.secs ∨ t.secs = u.secs ∧ t.nanos ≤ u.nanos ↔ _
  simp only [toNanos, nanosPerSec] at ht hu ⊢
  omega

theorem lt_iff : t < u ↔ t.toNanos < u.toNanos := by
  rw [← not_le, le_iff, Int.not_le]

theorem secsAfter_eq (t : Instant) (d : Duration) :
    t.secsAfter d = (t.toNanos + d.toNanos) / nanosPerSec := by
  simp only [secsAfter, toNanos, Duration.toNanos, nanosPerSec]
  omega

theorem nanosAfter_eq (t : Instant) (d : Duration) :
    (t.nanosAfter d : Int) = (t.toNanos + d.toNanos) % nanosPerSec := by
  simp only [nanosAfter, toNanos, Duration.toNanos, nanosPerSec]
  omega

/-- The reading `d` after `t`, where there is one, is exact. -/
theorem add?_eq_some_iff : t.add? d = some u ↔ u.toNanos = t.toNanos + d.toNanos := by
  have exact_sum : t.secsAfter d * nanosPerSec + t.nanosAfter d = t.toNanos + d.toNanos := by
    rw [secsAfter_eq, nanosAfter_eq, Int.mul_comm]
    exact Int.mul_ediv_add_emod _ _
  rw [add?, ofParts?]
  constructor
  · intro h
    split at h
    · cases h
      exact exact_sum
    · cases h
  · intro h
    have hu := u.nanos_lt
    have hd := t.nanosAfter_lt d
    have parts : t.secsAfter d = u.secs ∧ t.nanosAfter d = u.nanos := by
      rw [← exact_sum, toNanos] at h
      rw [nanosPerSec] at hu hd h
      omega
    rw [dif_pos ⟨parts.1 ▸ u.secs_lt, hd⟩, Option.some.injEq]
    cases u
    simpa only [mk.injEq] using parts

theorem add?_eq_none_iff :
    t.add? d = none ↔ 0x7fffffffffffffff < (t.toNanos + d.toNanos) / nanosPerSec := by
  rw [← secsAfter_eq, add?, ofParts?]
  have hn := t.nanosAfter_lt d
  split
  · next h =>
    simp only [reduceCtorEq, false_iff]
    omega
  · next h =>
    simp only [true_iff]
    omega

theorem toNanos_since (t start : Instant) :
    ((t.since start).toNanos : Int) = max 0 (t.toNanos - start.toNanos) := by
  have ht := t.nanos_lt
  have hs := start.nanos_lt
  rw [since]
  split
  · next h =>
    rw [lt_iff] at h
    have hz : (Duration.zero.toNanos : Int) = 0 := rfl
    omega
  · next h =>
    rw [lt_iff] at h
    split
    all_goals
      simp only [toNanos, Duration.toNanos, nanosPerSec] at ht hs h ⊢
      omega

end Instant

end BlockingSync
