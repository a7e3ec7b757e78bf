import BlockingSync.Time.Instant

namespace BlockingSync

/-- A fixed deadline, so that being woken early does not move it. -/
structure Timeout where
  /-- The first reading at which the call gives up, or `none` if it never does. -/
  deadline : Option Instant
deriving DecidableEq, Repr

namespace Timeout

def infinite : Timeout := ⟨none⟩

def ofDeadline (t : Instant) : Timeout := ⟨some t⟩

/-- Gives up `d` after `now`; a deadline beyond the last reading is never reached. -/
def after (now : Instant) (d : Duration) : Timeout := ⟨now.add? d⟩

def expired (now : Instant) : Timeout := .ofDeadline now

def remaining (timeout : Timeout) (now : Instant) : Option Duration :=
  timeout.deadline.map (·.since now)

def isExpired (timeout : Timeout) (now : Instant) : Bool :=
  match timeout.deadline with
  | some t => t ≤ now
  | none => false

theorem isExpired_iff {timeout : Timeout} {now : Instant} :
    timeout.isExpired now = true ↔ ∃ t, timeout.deadline = some t ∧ t ≤ now := by
  obtain ⟨_ | t⟩ := timeout <;> simp [isExpired]

theorem isExpired_eq_false_iff {timeout : Timeout} {now : Instant} :
    timeout.isExpired now = false ↔ ∀ t, timeout.deadline = some t → now < t := by
  obtain ⟨_ | t⟩ := timeout <;> simp [isExpired, Instant.not_le]

def isInfinite (timeout : Timeout) : Bool := timeout.deadline.isNone

/-- Orders timeouts by their deadline, an infinite one last. -/
instance : LE Timeout where
  le a b := ∀ t ∈ b.deadline, ∃ s ∈ a.deadline, s ≤ t

instance (a b : Timeout) : Decidable (a ≤ b) :=
  inferInstanceAs (Decidable (∀ t ∈ b.deadline, ∃ s ∈ a.deadline, s ≤ t))

end Timeout

inductive Limit
  | unlimited
  | immediate
  | within (d : Duration)
  | deadline (t : Instant)
deriving DecidableEq, Repr

def Limit.start (now : Instant) : Limit → Timeout
  | unlimited => .infinite
  | immediate => .expired now
  | within d => .after now d
  | deadline t => .ofDeadline t

end BlockingSync
