import BlockingSync.Text.Tree

namespace BlockingSync

inductive Mode
  | read
  | write
deriving DecidableEq, Repr

namespace Mode

def word : Mode → String
  | read => "read"
  | write => "write"

def tree : Mode → Text.Tree
  | read => .word "Read"
  | write => .word "Write"

end Mode

inductive LockError
  | timedOut (mode : Mode)
  /-- An upgrade is pending that waits for the caller, among others. -/
  | deadlock
  | notHeld (mode : Mode)
deriving DecidableEq, Repr

namespace LockError

def message : LockError → String
  | timedOut mode => "timed out waiting for the " ++ mode.word ++ " lock"
  | deadlock => "deadlock: another identity is already upgrading to the write lock"
  | notHeld mode => mode.word ++ " lock released by an identity that does not hold it"

def isMisuse : LockError → Bool
  | notHeld _ => true
  | _ => false

def tree : LockError → Text.Tree
  | timedOut mode => .record "TimedOut" [("kind", mode.tree)]
  | deadlock => .word "Deadlock"
  | notHeld mode => .record "NotHeld" [("kind", mode.tree)]

end LockError

end BlockingSync
