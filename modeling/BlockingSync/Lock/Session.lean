import BlockingSync.Lock.Identity
import BlockingSync.Lock.Text
import BlockingSync.Monitor.Session

namespace BlockingSync

inductive LockRequest
  | acquire (mode : Mode) (id : Identity) (limit : Limit)
  | release (mode : Mode) (id : Identity)
  | heldBy (id : Identity)
  | text (pretty : Bool)
  /-- Any of these for an identity that cannot be looked up, for the reason given. -/
  | unusable (reason : String)
deriving DecidableEq, Repr

inductive LockAnswer
  | held (held : Option HeldCounts)
  | text (s : String)
  | unusable (reason : String)
deriving DecidableEq, Repr

abbrev LockRoom (ι : Type) := Room (Lock ι) (LockCall ι) LockStage

structure LockView where
  state : LockState
  held : List (Identity × HeldCounts)
  locked : Bool
  writeLocked : Bool

namespace Lock

def plan (room : LockRoom Identity) : LockRequest → Plan (LockCall Identity) LockAnswer
  | .acquire mode id limit => .call (.acquire mode id (limit.start room.now))
  | .release mode id => .call (.release mode id)
  | .heldBy id => .answer (.held (room.state.heldBy id))
  | .text pretty => .answer (.text ((room.state.tree Identity.tree).render pretty))
  | .unusable reason => .answer (.unusable reason)

def session (now : Instant) (steps : List (Step LockRequest)) :
    List (StepAnswer (LockCall Identity) LockAnswer LockResult × LockRoom Identity) :=
  (monitor Identity).session plan { state := .new, now := now } steps

def view (lock : Lock Identity) : LockView where
  state := lock.state
  held := lock.holders.entries.mergeSort fun a b => a.1.le b.1
  locked := lock.isLocked
  writeLocked := lock.isWriteLocked

end Lock

end BlockingSync
