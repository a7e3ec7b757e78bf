import BlockingSync.Time.Timeout

namespace BlockingSync

inductive Signal (χ : Type)
  | one (c : χ)
  | all (c : χ)
deriving DecidableEq, Repr

inductive Ending (κ ρ : Type)
  | waits (stage : κ)
  | returns (result : ρ)
deriving DecidableEq, Repr

/-- What a call does between its start, or its waking, and its return or its next wait. -/
structure Turn (σ κ χ ρ : Type) where
  state : σ
  signals : List (Signal χ)
  ending : Ending κ ρ
deriving DecidableEq, Repr

namespace Turn

variable {σ κ χ ρ : Type}

def waits (state : σ) (stage : κ) : Turn σ κ χ ρ := ⟨state, [], .waits stage⟩

def returns (state : σ) (result : ρ) : Turn σ κ χ ρ := ⟨state, [], .returns result⟩

def signalling (turn : Turn σ κ χ ρ) (signals : List (Signal χ)) : Turn σ κ χ ρ :=
  { turn with signals := turn.signals ++ signals }

def lift {σ' ρ' : Type} (turn : Turn σ κ χ ρ) (state : σ → σ') (result : ρ → ρ') :
    Turn σ' κ χ ρ' where
  state := state turn.state
  signals := turn.signals
  ending := match turn.ending with
    | .waits stage => .waits stage
    | .returns r => .returns (result r)

end Turn

/-- The code of a monitor. Of its calls `α`, which share a state `σ`, one acts at a time, without
interruption until it returns a result `ρ` or waits at a stage `κ` of its code. Each stage belongs
to a condition `χ`, and a signal to the condition lets one or all of its waiters go on. -/
structure Monitor (σ α κ χ ρ : Type) where
  start : Instant → σ → α → Turn σ κ χ ρ
  resume : Instant → σ → α → κ → Turn σ κ χ ρ
  condition : κ → χ
  timeout : α → Timeout
  /-- The first call may not start while the second has not returned. -/
  excludes : α → α → Bool

end BlockingSync
