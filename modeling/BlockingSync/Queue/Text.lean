import BlockingSync.Queue.Basic
import BlockingSync.Text.Tree

namespace BlockingSync

open Text

namespace PopError

def message : PopError → String
  | timedOut => "timed out waiting for a value"
  | shutDown => "queue shut down"

def tree : PopError → Tree
  | timedOut => .word "TimedOut"
  | shutDown => .word "ShutDown"

end PopError

def refusedMessage : String := "queue shut down"

/-- A refused push as text, whatever its value. -/
def refusedTree : Tree := .text "Closed(..)"

def Queue.tree {α : Type} (queue : Queue α) : Tree :=
  .record "BlockingQueue" [("len", .count queue.length), ("max_size", .count queue.capacity.size),
    ("shut_down", .truth queue.shutDown), ("blocked_pushers", .count queue.blockedPushers),
    ("blocked_poppers", .count queue.blockedPoppers)]

end BlockingSync
