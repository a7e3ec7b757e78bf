import BlockingSync.Monitor.Basic

namespace BlockingSync

structure Suspended (α κ : Type) where
  task : Nat
  call : α
  stage : κ
deriving DecidableEq, Repr

/-- A monitor in use. A parked call waits, the one that has waited longest first; a ready one has
been woken, by a signal, by the clock or for no reason, and has not run yet. -/
structure Room (σ α κ : Type) where
  state : σ
  now : Instant
  parked : List (Suspended α κ) := []
  ready : List (Suspended α κ) := []
  next : Nat := 0
deriving DecidableEq, Repr

inductive Event (α : Type)
  | start (call : α)
  | run (task : Nat)
  /-- Wakes a parked call for no reason. -/
  | wake (task : Nat)
  | advance (d : Duration)
  | skip
deriving DecidableEq, Repr

inductive Outcome (ρ : Type)
  | waiting
  | returned (result : ρ)
deriving DecidableEq, Repr

structure Report (α ρ : Type) where
  task : Nat
  call : α
  outcome : Outcome ρ
deriving DecidableEq, Repr

namespace Room

variable {σ α κ : Type}

def suspended (room : Room σ α κ) : List (Suspended α κ) := room.parked ++ room.ready

def isParked (room : Room σ α κ) (task : Nat) : Bool := room.parked.any (·.task = task)

def isReady (room : Room σ α κ) (task : Nat) : Bool := room.ready.any (·.task = task)

def wakeFirst (room : Room σ α κ) (p : Suspended α κ → Bool) : Room σ α κ :=
  match room.parked.find? p with
  | none => room
  | some s => { room with parked := room.parked.eraseP p, ready := room.ready ++ [s] }

def wakeAll (room : Room σ α κ) (p : Suspended α κ → Bool) : Room σ α κ :=
  { room with
    parked := room.parked.filter (!p ·)
    ready := room.ready ++ room.parked.filter p }

end Room

namespace Monitor

variable {σ α κ χ ρ : Type} [DecidableEq χ]

def signal (m : Monitor σ α κ χ ρ) (room : Room σ α κ) : Signal χ → Room σ α κ
  | .one c => room.wakeFirst (m.condition ·.stage = c)
  | .all c => room.wakeAll (m.condition ·.stage = c)

/-- Ends the turn of a call: its signals are sent, then it returns or is parked. -/
def conclude (m : Monitor σ α κ χ ρ) (room : Room σ α κ) (task : Nat) (call : α)
    (turn : Turn σ κ χ ρ) : Room σ α κ × Report α ρ :=
  let room := turn.signals.foldl m.signal { room with state := turn.state }
  match turn.ending with
  | .waits stage =>
    ({ room with parked := room.parked ++ [⟨task, call, stage⟩] }, ⟨task, call, .waiting⟩)
  | .returns result => (room, ⟨task, call, .returned result⟩)

def busy (m : Monitor σ α κ χ ρ) (room : Room σ α κ) (call : α) : Bool :=
  room.suspended.any (m.excludes call ·.call)

/-- Does one thing in a room. If a call ran, its report comes with the new room. -/
def step (m : Monitor σ α κ χ ρ) (room : Room σ α κ) :
    Event α → Room σ α κ × Option (Report α ρ)
  | .start call =>
    let after := { room with next := room.next + 1 }
    if m.busy room call then (after, none)
    else
      let (room, report) := m.conclude after room.next call (m.start room.now room.state call)
      (room, some report)
  | .run task =>
    match room.ready.find? (·.task = task) with
    | none => (room, none)
    | some s =>
      let after := { room with ready := room.ready.eraseP (·.task = task) }
      let turn := m.resume room.now room.state s.call s.stage
      let (room, report) := m.conclude after task s.call turn
      (room, some report)
  | .wake task => (room.wakeFirst (·.task = task), none)
  | .advance d =>
    let now := room.now.advance d
    let due := fun s : Suspended α κ => (m.timeout s.call).isExpired now
    -- in the order of their deadlines, and those that are due together as they were parked
    let woken := (room.parked.filter due).mergeSort fun s t => m.timeout s.call ≤ m.timeout t.call
    ({ room with
        now := now
        parked := room.parked.filter (!due ·)
        ready := room.ready ++ woken }, none)
  | .skip => ({ room with next := room.next + 1 }, none)

def exec (m : Monitor σ α κ χ ρ) (room : Room σ α κ) :
    List (Event α) → Room σ α κ × List (Report α ρ)
  | [] => (room, [])
  | event :: rest =>
    let (room, report) := m.step room event
    let (room, reports) := m.exec room rest
    (room, report.toList ++ reports)

def runReady (m : Monitor σ α κ χ ρ) : Nat → Room σ α κ → Room σ α κ × List (Report α ρ)
  | 0, room => (room, [])
  | turns + 1, room =>
    match room.ready with
    | [] => (room, [])
    | s :: _ =>
      let (room, report) := m.step room (.run s.task)
      let (room, reports) := m.runReady turns room
      (room, report.toList ++ reports)

/-- Runs the ready calls until none is left. Of `n` calls that have not returned at most `n` run
before one of them returns, if a call that waits again has signalled nothing; so the turns
suffice. -/
def settle (m : Monitor σ α κ χ ρ) (room : Room σ α κ) : Room σ α κ × List (Report α ρ) :=
  let n := room.suspended.length
  m.runReady (n * (n + 1)) room

end Monitor

end BlockingSync
