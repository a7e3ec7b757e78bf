namespace BlockingSync

inductive Fault
  | belowZero
  /-- The last write lock is released while this number of writers is counted, not one. -/
  | writersCounted (n : Nat)
deriving DecidableEq, Repr

def Fault.message : Fault → String
  | belowZero => "attempt to subtract with overflow"
  | writersCounted n =>
    "assertion `left == right` failed: write lock released with no writer counted\n  left: " ++
      toString n ++ "\n right: 1"

end BlockingSync
