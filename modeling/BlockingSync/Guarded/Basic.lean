import BlockingSync.Lock.Basic

namespace BlockingSync

/-- A lock of `id`, held by `thread` under a name. The identity is the one that the thread had when
it took the lock, and other threads may share it. -/
structure Guard (τ ν ι : Type) where
  thread : τ
  name : ν
  mode : Mode
  id : ι
deriving DecidableEq, Repr

structure GuardedLock (τ ν ι : Type) where
  lock : Lock ι := .new
  guards : List (Guard τ ν ι) := []
deriving DecidableEq, Repr

inductive GuardCall (τ ν : Type)
  | take (mode : Mode) (thread : τ) (name : ν) (timeout : Timeout)
  | drop (thread : τ) (name : ν)
  | acquire (mode : Mode) (thread : τ) (timeout : Timeout)
  | release (mode : Mode) (thread : τ)
deriving DecidableEq, Repr

inductive GuardResult
  | ok
  | failed (error : LockError)
  | noGuard
  /-- A dropped guard found its lock already released. -/
  | unheld (mode : Mode)
  | fault (fault : Fault)
deriving DecidableEq, Repr

abbrev GuardTurn (τ ν ι : Type) := Turn (GuardedLock τ ν ι) LockStage LockCondition GuardResult

namespace GuardCall

variable {τ ν : Type}

def thread : GuardCall τ ν → τ
  | take _ thread _ _ => thread
  | drop thread _ => thread
  | acquire _ thread _ => thread
  | release _ thread => thread

def timeout : GuardCall τ ν → Timeout
  | take _ _ _ timeout => timeout
  | acquire _ _ timeout => timeout
  | _ => .infinite

end GuardCall

def GuardResult.ofLock : LockResult → GuardResult
  | .ok => .ok
  | .failed e => .failed e
  | .fault f => .fault f

def GuardResult.ofRelease (mode : Mode) : LockResult → GuardResult
  | .ok => .ok
  | .failed _ => .unheld mode
  | .fault f => .fault f

namespace GuardedLock

variable {τ ν ι : Type} [DecidableEq τ] [DecidableEq ν]

def guard? (g : GuardedLock τ ν ι) (thread : τ) (name : ν) : Option (Guard τ ν ι) :=
  g.guards.find? fun guard => guard.thread = thread ∧ guard.name = name

def without (g : GuardedLock τ ν ι) (thread : τ) (name : ν) : List (Guard τ ν ι) :=
  g.guards.filter fun guard => ¬(guard.thread = thread ∧ guard.name = name)

variable [DecidableEq ι]

def dropGuard (lock : Lock ι) (guards : List (Guard τ ν ι)) (guard : Guard τ ν ι) :
    GuardTurn τ ν ι :=
  (lock.release guard.mode guard.id).lift (⟨·, guards⟩) (.ofRelease guard.mode)

def drop (g : GuardedLock τ ν ι) (thread : τ) (name : ν) : GuardTurn τ ν ι :=
  match g.guard? thread name with
  | none => .returns g .noGuard
  | some guard => dropGuard g.lock (g.without thread name) guard

/-- Keeps a guard for a lock that has just been acquired, then drops the guard that had its name. -/
def keep (g : GuardedLock τ ν ι) (lock : Lock ι) (guard : Guard τ ν ι) : GuardTurn τ ν ι :=
  let guards := g.without guard.thread guard.name ++ [guard]
  match g.guard? guard.thread guard.name with
  | none => .returns ⟨lock, guards⟩ .ok
  | some old => dropGuard lock guards old

def guarding (g : GuardedLock τ ν ι) (guard : Guard τ ν ι) (turn : LockTurn ι) :
    GuardTurn τ ν ι :=
  match turn.ending with
  | .returns .ok =>
    let kept := g.keep turn.state guard
    { kept with signals := turn.signals ++ kept.signals }
  | _ => turn.lift (⟨·, g.guards⟩) .ofLock

variable (who : τ → ι)

def start (now : Instant) (g : GuardedLock τ ν ι) : GuardCall τ ν → GuardTurn τ ν ι
  | .take mode thread name timeout =>
    g.guarding ⟨thread, name, mode, who thread⟩ (g.lock.acquire now mode (who thread) timeout)
  | .drop thread name => g.drop thread name
  | .acquire mode thread timeout =>
    (g.lock.acquire now mode (who thread) timeout).lift (⟨·, g.guards⟩) .ofLock
  | .release mode thread => (g.lock.release mode (who thread)).lift (⟨·, g.guards⟩) .ofLock

def resume (now : Instant) (g : GuardedLock τ ν ι) (call : GuardCall τ ν) (stage : LockStage) :
    GuardTurn τ ν ι :=
  let turn := g.lock.wait now stage (who call.thread) call.timeout
  match call with
  | .take mode thread name _ => g.guarding ⟨thread, name, mode, who thread⟩ turn
  | _ => turn.lift (⟨·, g.guards⟩) .ofLock

/-- The guarded lock as a monitor. A thread does one thing at a time: while a call of it waits it
starts no other. -/
def monitor : Monitor (GuardedLock τ ν ι) (GuardCall τ ν) LockStage LockCondition GuardResult where
  start := start who
  resume := resume who
  condition := LockStage.condition
  timeout := GuardCall.timeout
  excludes call other := call.thread = other.thread

end GuardedLock

end BlockingSync
