import BlockingSync.Guarded.Basic
import BlockingSync.Guarded.Provider
import BlockingSync.Lock.Text
import BlockingSync.Monitor.Session
import BlockingSync.Text.Quoted

namespace BlockingSync

open Text

namespace GuardResult

def unheldMessage : Mode → String
  | .read => "read guard did not hold a read lock"
  | .write => "write guard did not hold the write lock"

end GuardResult

def Guard.tree {τ ν ι : Type} (guard : Guard τ ν ι) (idTree : ι → Tree) : Tree :=
  let name := match guard.mode with
    | .read => "ReadGuard"
    | .write => "WriteGuard"
  .record name [("id", idTree guard.id)]

def GuardedLock.tree {τ ν ι : Type} (g : GuardedLock τ ν ι) (idTree : ι → Tree) : Tree :=
  .wrapped "ThreadRwLock" (g.lock.tree idTree)

inductive GuardRequest
  | take (mode : Mode) (thread name : String) (limit : Limit)
  | drop (thread name : String)
  | acquire (mode : Mode) (thread : String) (limit : Limit)
  | release (mode : Mode) (thread : String)
  | held (thread : String)
  | guardText (thread name : String) (pretty : Bool)
  | text (pretty : Bool)
deriving DecidableEq, Repr

inductive GuardAnswer
  | held (held : Option HeldCounts)
  | text (s : Option String)
  | noGuard
deriving DecidableEq, Repr

abbrev GuardRoom := Room (GuardedLock String String String) (GuardCall String String) LockStage

namespace GuardedLock

def threadBusy (room : GuardRoom) (thread : String) : Bool :=
  room.suspended.any (·.call.thread = thread)

def idTree (id : String) : Tree := .word (quoted id)

/-- The text of the lock, if it shows no thread of its own and, over several lines, at most one
holder. -/
def text? (provider : Provider) (g : GuardedLock String String String) (pretty : Bool) :
    Option String :=
  if g.lock.isLocked && provider = .thread || pretty && 1 < g.lock.holders.size then none
  else some ((g.tree idTree).render pretty)

def plan (provider : Provider) (room : GuardRoom) :
    GuardRequest → Plan (GuardCall String String) GuardAnswer
  | .take mode thread name limit => .call (.take mode thread name (limit.start room.now))
  | .drop thread name => .call (.drop thread name)
  | .acquire mode thread limit => .call (.acquire mode thread (limit.start room.now))
  | .release mode thread => .call (.release mode thread)
  | .held thread =>
    if threadBusy room thread then .busy
    else .answer (.held (room.state.lock.heldBy (provider.identify thread)))
  | .guardText thread name pretty =>
    if threadBusy room thread then .busy
    else match room.state.guard? thread name, provider with
      | none, _ => .answer .noGuard
      | some _, .thread => .answer (.text none)
      | some guard, .group => .answer (.text ((guard.tree idTree).render pretty))
  | .text pretty => .answer (.text (text? provider room.state pretty))

def session (provider : Provider) (now : Instant) (steps : List (Step GuardRequest)) :
    List (StepAnswer (GuardCall String String) GuardAnswer GuardResult × GuardRoom) :=
  (monitor provider.identify).session (plan provider) { state := {}, now := now } steps

end GuardedLock

end BlockingSync
