import BlockingSync.Lock.Text
import BlockingSync.Queue.Text
import BlockingSync.Time.Text

namespace BlockingSync

open Text

inductive Sample
  | mode (mode : Mode)
  | lockError (error : LockError)
  | popError (error : PopError)
  | refused
  | heldCounts (held : HeldCounts)
  | lockState (state : LockState)
  | timeout (timeout : Timeout)
  | threadProvider
deriving DecidableEq, Repr

namespace Sample

def tree (now : Instant) : Sample → Tree
  | mode m => m.tree
  | lockError e => e.tree
  | popError e => e.tree
  | refused => refusedTree
  | heldCounts held => held.tree
  | lockState s => s.tree
  | timeout t => t.tree now
  | threadProvider => .word "CurrentThread"

/-- The text for a reader. Messages do not accept a layout. -/
def message? (layout : Layout) : Sample → Option String
  | mode m => some (layout.text m.word)
  | lockError e => some e.message
  | popError e => some e.message
  | refused => some refusedMessage
  | heldCounts _ => none
  | lockState _ => none
  | timeout _ => none
  | threadProvider => none

end Sample

end BlockingSync
