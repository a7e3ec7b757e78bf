namespace BlockingSync

inductive Provider
  | thread
  /-- Threads with the same label up to the first point share an identity. -/
  | group
deriving DecidableEq, Repr

def Provider.identify : Provider → String → String
  | thread, label => label
  | group, label => String.ofList (label.toList.takeWhile (· ≠ '.'))

def firstSeen {ι : Type} [DecidableEq ι] (ids : List ι) : List Nat :=
  ids.map (ids.eraseDups.idxOf ·)

end BlockingSync
