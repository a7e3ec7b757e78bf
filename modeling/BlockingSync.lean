import BlockingSync.Time.Board
import BlockingSync.Lock.Session
import BlockingSync.Queue.Session
import BlockingSync.Guarded.Session
import BlockingSync.Sample
import BlockingSync.Proofs.Monitor.Run
import BlockingSync.Proofs.Lock.Exclusion
import BlockingSync.Proofs.Lock.Consistency
import BlockingSync.Proofs.Lock.Wakeup
import BlockingSync.Proofs.Queue.Wakeup
import BlockingSync.Proofs.Queue.Fifo
import BlockingSync.Proofs.Queue.Bounds
import BlockingSync.Proofs.Lock.Bookkeeping
import BlockingSync.Proofs.Lock.Deadlock
import BlockingSync.Proofs.Lock.Pool
import BlockingSync.Proofs.Queue.Shutdown
import BlockingSync.Proofs.Monitor.Deadline
import BlockingSync.Proofs.Deadline
import BlockingSync.Proofs.Guarded.Backing
import BlockingSync.Proofs.Guarded.Drop
import BlockingSync.Proofs.Guarded.Threads
import BlockingSync.Proofs.Lock.Rollback
import BlockingSync.Proofs.Lock.Failure
import BlockingSync.Proofs.Lock.Refusal
import BlockingSync.Proofs.Lock.Rival
import BlockingSync.Proofs.Lock.Sequential
import BlockingSync.Proofs.Lock.Contest
import BlockingSync.Proofs.Monitor.Settling
import BlockingSync.Proofs.Settling
import BlockingSync.Proofs.Time.Countdown
