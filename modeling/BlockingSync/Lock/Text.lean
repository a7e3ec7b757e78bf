import BlockingSync.Lock.Basic

namespace BlockingSync

open Text

def HeldCounts.tree (held : HeldCounts) : Tree :=
  .record "HeldCounts" [("reads", .count held.reads), ("writes", .count held.writes)]

def LockState.tree (state : LockState) : Tree :=
  .record "LockState" [("readers", .count state.readers), ("writers", .count state.writers),
    ("can_read", .truth state.canRead), ("holders", .count state.holders)]

def Registry.tree {ι : Type} (holders : Registry ι) (idTree : ι → Tree) : Tree :=
  let entries := holders.entries.map fun (id, held) => (idTree id, held.tree)
  let text := fun (id, held) => id.line ++ ": " ++ held.line
  .table (entries.mergeSort fun a b => text a ≤ text b)

def Lock.tree {ι : Type} (lock : Lock ι) (idTree : ι → Tree) : Tree :=
  .record "RwLock" [("readers", .count lock.readers), ("writers", .count lock.writers),
    ("can_read", .truth lock.canRead), ("upgrading", .option (lock.upgrading.map idTree)),
    ("holders", lock.holders.tree idTree)]

end BlockingSync
