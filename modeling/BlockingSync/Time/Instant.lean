namespace BlockingSync

def nanosPerSec : Nat := 1000000000

structure Duration where
  secs : Nat
  nanos : Nat
  nanos_lt : nanos < nanosPerSec := by decide
deriving DecidableEq, Repr

namespace Duration

def zero : Duration where
  secs := 0
  nanos := 0

instance : Inhabited Duration := ⟨zero⟩

def ofParts? (secs nanos : Nat) : Option Duration :=
  if h : nanos < nanosPerSec then some ⟨secs, nanos, h⟩ else none

def toNanos (d : Duration) : Nat := d.secs * nanosPerSec + d.nanos

instance : LE Duration where
  le a b := a.secs < b.secs ∨ a.secs = b.secs ∧ a.nanos ≤ b.nanos

instance (a b : Duration) : Decidable (a ≤ b) :=
  inferInstanceAs (Decidable (a.secs < b.secs ∨ a.secs = b.secs ∧ a.nanos ≤ b.nanos))

end Duration

/-- A reading of the clock. Seconds are counted from an arbitrary origin, up to the greatest signed
64-bit number. -/
structure Instant where
  secs : Int
  nanos : Nat
  secs_lt : secs < 0x8000000000000000 := by decide
  nanos_lt : nanos < nanosPerSec := by decide
deriving DecidableEq, Repr

namespace Instant

def zero : Instant where
  secs := 0
  nanos := 0

instance : Inhabited Instant := ⟨zero⟩

def ofParts? (secs : Int) (nanos : Nat) : Option Instant :=
  if h : secs < 0x8000000000000000 ∧ nanos < nanosPerSec then some ⟨secs, nanos, h.1, h.2⟩
  else none

def toNanos (t : Instant) : Int := t.secs * nanosPerSec + t.nanos

instance : LE Instant where
  le a b := a.secs < b.secs ∨ a.secs = b.secs ∧ a.nanos ≤ b.nanos

instance : LT Instant where
  lt a b := a.secs < b.secs ∨ a.secs = b.secs ∧ a.nanos < b.nanos

instance (a b : Instant) : Decidable (a ≤ b) :=
  inferInstanceAs (Decidable (a.secs < b.secs ∨ a.secs = b.secs ∧ a.nanos ≤ b.nanos))

instance (a b : Instant) : Decidable (a < b) :=
  inferInstanceAs (Decidable (a.secs < b.secs ∨ a.secs = b.secs ∧ a.nanos < b.nanos))

theorem not_le {a b : Instant} : ¬ a ≤ b ↔ b < a := by
  change ¬ (a.secs < b.secs ∨ a.secs = b.secs ∧ a.nanos ≤ b.nanos) ↔
    (b.secs < a.secs ∨ b.secs = a.secs ∧ b.nanos < a.nanos)
  omega

def secsAfter (t : Instant) (d : Duration) : Int :=
  t.secs + d.secs + ((t.nanos + d.nanos) / nanosPerSec : Nat)

def nanosAfter (t : Instant) (d : Duration) : Nat := (t.nanos + d.nanos) % nanosPerSec

theorem nanosAfter_lt (t : Instant) (d : Duration) : t.nanosAfter d < nanosPerSec :=
  Nat.mod_lt _ (by decide)

/-- The reading `d` after `t`, or `none` if it would lie beyond the last second. -/
def add? (t : Instant) (d : Duration) : Option Instant :=
  ofParts? (t.secsAfter d) (t.nanosAfter d)

/-- The reading after the clock has moved by `d`. Once the seconds have come to their greatest value
they stand still, and only the nanoseconds go on, from zero again after each second. -/
def advance (t : Instant) (d : Duration) : Instant where
  secs := min (t.secsAfter d) 0x7fffffffffffffff
  nanos := t.nanosAfter d
  secs_lt := by omega
  nanos_lt := t.nanosAfter_lt d

theorem advance_of_add?_eq_some {t u : Instant} {d : Duration} (h : t.add? d = some u) :
    t.advance d = u := by
  unfold add? ofParts? at h
  split at h
  · rename_i hlt
    cases h
    simp only [advance, mk.injEq, and_true]
    omega
  · cases h

/-- The time from `start` to `t`, zero if `t` is not the later one. -/
def since (t start : Instant) : Duration :=
  if t < start then .zero
  else if h : start.nanos ≤ t.nanos then
    { secs := (t.secs - start.secs).toNat
      nanos := t.nanos - start.nanos
      nanos_lt := by have := t.nanos_lt; omega }
  else
    { secs := (t.secs - start.secs - 1).toNat
      nanos := t.nanos + nanosPerSec - start.nanos
      nanos_lt := by have := t.nanos_lt; omega }

end Instant

end BlockingSync
