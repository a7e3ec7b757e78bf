import BlockingSync.Text.Quoted
import BlockingSync.Text.Tree

namespace BlockingSync

inductive Identity
  | number (n : Int)
  | name (s : String)
deriving DecidableEq, Repr

namespace Identity

def le : Identity → Identity → Bool
  | number m, number n => m ≤ n
  | number _, name _ => true
  | name _, number _ => false
  | name s, name t => s ≤ t

def tree : Identity → Text.Tree
  | number n => .number n
  | name s => .word (Text.quoted s)

end Identity

end BlockingSync
