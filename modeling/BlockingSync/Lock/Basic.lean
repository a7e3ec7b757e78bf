import BlockingSync.Fault
import BlockingSync.Lock.Error
import BlockingSync.Lock.Registry
import BlockingSync.Monitor.Basic

namespace BlockingSync

/-- A lock that many identities may hold for reading or one for writing. It knows its holders, so an
identity may take the lock again, and a reader may become the writer without letting go in between
(an upgrade). A pending upgrade closes the lock to new readers and waits for the other readers to
leave; a second upgrade is refused, since the two would wait for each other. -/
structure Lock (ι : Type) where
  holders : Registry ι := .empty
  /-- The number of readers. A writer or upgrader is not among them, even if it holds read locks. -/
  readers : Nat := 0
  /-- One while an identity holds the write lock or waits to upgrade to it. -/
  writers : Nat := 0
  canRead : Bool := true
  upgrading : Option ι := none
deriving DecidableEq, Repr

inductive LockCall (ι : Type)
  | acquire (mode : Mode) (id : ι) (timeout : Timeout)
  | release (mode : Mode) (id : ι)
deriving DecidableEq, Repr

inductive LockStage
  | reader
  | writer
  | upgrader
deriving DecidableEq, Repr

inductive LockCondition
  | readers
  | writers
deriving DecidableEq, Repr

inductive LockResult
  | ok
  | failed (error : LockError)
  | fault (fault : Fault)
deriving DecidableEq, Repr

abbrev LockTurn (ι : Type) := Turn (Lock ι) LockStage LockCondition LockResult

namespace LockCall

variable {ι : Type}

def id : LockCall ι → ι
  | acquire _ id _ => id
  | release _ id => id

def timeout : LockCall ι → Timeout
  | acquire _ _ timeout => timeout
  | release .. => .infinite

end LockCall

def LockStage.condition : LockStage → LockCondition
  | reader => .readers
  | writer => .writers
  | upgrader => .writers

def Mode.stage : Mode → LockStage
  | read => .reader
  | write => .writer

theorem Mode.stage_ne_upgrader (mode : Mode) : mode.stage ≠ .upgrader := by
  cases mode <;> decide

structure LockState where
  readers : Nat
  writers : Nat
  canRead : Bool
  holders : Nat
deriving DecidableEq, Repr

namespace Lock

variable {ι : Type}

def new : Lock ι := {}

instance : Inhabited (Lock ι) := ⟨new⟩

def state (lock : Lock ι) : LockState where
  readers := lock.readers
  writers := lock.writers
  canRead := lock.canRead
  holders := lock.holders.size

def isLocked (lock : Lock ι) : Bool := !lock.holders.isEmpty

def isWriteLocked (lock : Lock ι) : Bool := 0 < lock.writers

def readable (lock : Lock ι) : Bool := lock.canRead && lock.writers == 0

def writable (lock : Lock ι) : Bool := lock.readers == 0 && lock.writers == 0

/-- What a call that waits at the stage waits for. -/
def admits (lock : Lock ι) : LockStage → Bool
  | .reader => lock.readable
  | .writer => lock.writable
  | .upgrader => lock.readers == 0

variable [DecidableEq ι]

def heldBy (lock : Lock ι) (id : ι) : Option HeldCounts := lock.holders.get? id

def record (lock : Lock ι) (id : ι) (held : HeldCounts) : Lock ι :=
  { lock with holders := lock.holders.insert id held }

def forget (lock : Lock ι) (id : ι) : Lock ι :=
  { lock with holders := lock.holders.erase id }

/-- Lets `id` in as a new reader with a single read lock, whatever it held before. -/
def admitReader (lock : Lock ι) (id : ι) : Lock ι :=
  { lock.record id { reads := 1 } with readers := lock.readers + 1 }

def grantWrite (lock : Lock ι) (id : ι) : Lock ι :=
  let held := (lock.heldBy id).getD {}
  lock.record id { held with writes := held.writes + 1 }

def letIn (lock : Lock ι) (id : ι) : LockStage → Lock ι
  | .reader => lock.admitReader id
  | .writer => { lock with writers := 1, canRead := false }.grantWrite id
  | .upgrader => { lock with upgrading := none }.grantWrite id

/-- Takes back a pending upgrade: `id` is a reader again if it still has a read lock, and the
readers that came meanwhile may enter. -/
def abandonUpgrade (lock : Lock ι) (id : ι) : LockTurn ι :=
  let lock := { lock with upgrading := none, writers := 0, canRead := true }
  let failed := LockResult.failed (.timedOut .write)
  if 0 < ((lock.heldBy id).getD {}).reads then
    (Turn.returns { lock with readers := lock.readers + 1 } failed).signalling [.all .readers]
  else if lock.readers = 0 then
    (Turn.returns (lock.forget id) failed).signalling [.all .writers, .all .readers]
  else (Turn.returns (lock.forget id) failed).signalling [.all .readers]

def giveUp (lock : Lock ι) (id : ι) : LockStage → LockTurn ι
  | .reader => .returns lock (.failed (.timedOut .read))
  | .writer => .returns lock (.failed (.timedOut .write))
  | .upgrader => lock.abandonUpgrade id

/-- Looks at the counters, but not again at what `id` holds, then at the clock, and waits if neither
lets the call return. -/
def wait (lock : Lock ι) (now : Instant) (stage : LockStage) (id : ι) (timeout : Timeout) :
    LockTurn ι :=
  if lock.admits stage then .returns (lock.letIn id stage) .ok
  else if timeout.isExpired now then lock.giveUp id stage
  else .waits lock stage

def acquireRead (lock : Lock ι) (now : Instant) (id : ι) (timeout : Timeout) : LockTurn ι :=
  match lock.heldBy id with
  | some held => .returns (lock.record id { held with reads := held.reads + 1 }) .ok
  | none => lock.wait now .reader id timeout

def leaveReaders (lock : Lock ι) (id : ι) : LockTurn ι :=
  match lock.readers with
  | 0 => .returns (lock.forget id) (.fault .belowZero)
  | 1 => (Turn.returns { lock.forget id with readers := 0 } .ok).signalling [.all .writers]
  | n + 2 => .returns { lock.forget id with readers := n + 1 } .ok

def releaseRead (lock : Lock ι) (id : ι) : LockTurn ι :=
  match lock.heldBy id with
  | none => .returns lock (.failed (.notHeld .read))
  | some held =>
    if held.reads = 0 then .returns lock (.failed (.notHeld .read))
    else
      let left := { held with reads := held.reads - 1 }
      -- a pending upgrader has left the readers, and its entry stays until the upgrade ends
      if left ≠ {} ∨ lock.upgrading = some id then .returns (lock.record id left) .ok
      else lock.leaveReaders id

def claimUpgrade (lock : Lock ι) (id : ι) (others : Nat) : Lock ι :=
  { lock with readers := others, writers := 1, canRead := false, upgrading := some id }

def acquireWrite (lock : Lock ι) (now : Instant) (id : ι) (timeout : Timeout) : LockTurn ι :=
  match lock.heldBy id with
  | none => lock.wait now .writer id timeout
  | some held =>
    if 0 < held.writes then .returns (lock.grantWrite id) .ok
    else if 0 < lock.writers then .returns lock (.failed .deadlock)
    else match lock.readers with
      | 0 => .returns lock (.fault .belowZero)
      | others + 1 => (lock.claimUpgrade id others).wait now .upgrader id timeout

def leaveWriting (lock : Lock ι) (id : ι) (reads : Nat) : LockTurn ι :=
  let lock := { lock with writers := 0, canRead := true }
  if 0 < reads then
    (Turn.returns { lock with readers := lock.readers + 1 } .ok).signalling [.all .readers]
  else (Turn.returns (lock.forget id) .ok).signalling [.one .writers, .all .readers]

def releaseWrite (lock : Lock ι) (id : ι) : LockTurn ι :=
  match lock.heldBy id with
  | none => .returns lock (.failed (.notHeld .write))
  | some held =>
    if held.writes = 0 then .returns lock (.failed (.notHeld .write))
    else
      let lock := lock.record id { held with writes := held.writes - 1 }
      if 1 < held.writes then .returns lock .ok
      else if lock.writers ≠ 1 then .returns lock (.fault (.writersCounted lock.writers))
      else lock.leaveWriting id held.reads

def acquire (lock : Lock ι) (now : Instant) (mode : Mode) (id : ι) (timeout : Timeout) :
    LockTurn ι :=
  match mode with
  | .read => lock.acquireRead now id timeout
  | .write => lock.acquireWrite now id timeout

def release (lock : Lock ι) (mode : Mode) (id : ι) : LockTurn ι :=
  match mode with
  | .read => lock.releaseRead id
  | .write => lock.releaseWrite id

def start (now : Instant) (lock : Lock ι) : LockCall ι → LockTurn ι
  | .acquire mode id timeout => lock.acquire now mode id timeout
  | .release mode id => lock.release mode id

def resume (now : Instant) (lock : Lock ι) (call : LockCall ι) (stage : LockStage) : LockTurn ι :=
  lock.wait now stage call.id call.timeout

def monitor (ι : Type) [DecidableEq ι] :
    Monitor (Lock ι) (LockCall ι) LockStage LockCondition LockResult where
  start := start
  resume := resume
  condition := LockStage.condition
  timeout := LockCall.timeout
  excludes _ _ := false

end Lock

end BlockingSync
