import BlockingSync.Lock.Basic
import BlockingSync.Proofs.Monitor.Run

namespace BlockingSync

namespace Lock

variable {ι : Type} [DecidableEq ι] {lock : Lock ι} {now : Instant} {stage : LockStage} {id : ι}
  {timeout : Timeout}

theorem wait_cases (lock : Lock ι) (now : Instant) (stage : LockStage) (id : ι)
    (timeout : Timeout) :
    lock.admits stage = true ∧ lock.wait now stage id timeout = .returns (lock.letIn id stage) .ok ∨
      lock.admits stage = false ∧ timeout.isExpired now = true ∧
        lock.wait now stage id timeout = lock.giveUp id stage ∨
      lock.admits stage = false ∧ timeout.isExpired now = false ∧
        lock.wait now stage id timeout = .waits lock stage := by
  rw [wait]
  cases lock.admits stage with
  | true => exact Or.inl ⟨rfl, rfl⟩
  | false =>
    cases timeout.isExpired now with
    | true => exact Or.inr (Or.inl ⟨rfl, rfl, rfl⟩)
    | false => exact Or.inr (Or.inr ⟨rfl, rfl, rfl⟩)

theorem abandonUpgrade_outcome (lock : Lock ι) (id : ι) :
    (lock.abandonUpgrade id).outcome = .returned (.failed (.timedOut .write)) := by
  rw [abandonUpgrade]
  dsimp only
  split
  · rfl
  · split <;> rfl

theorem giveUp_outcome (lock : Lock ι) (id : ι) (stage : LockStage) :
    ∃ mode, (lock.giveUp id stage).outcome = .returned (.failed (.timedOut mode)) := by
  cases stage with
  | reader => exact ⟨.read, rfl⟩
  | writer => exact ⟨.write, rfl⟩
  | upgrader => exact ⟨.write, lock.abandonUpgrade_outcome id⟩

theorem wait_of_ok (h : (lock.wait now stage id timeout).outcome = .returned .ok) :
    lock.admits stage = true ∧
      lock.wait now stage id timeout = .returns (lock.letIn id stage) .ok := by
  obtain ht | ⟨-, -, ht⟩ | ⟨-, -, ht⟩ := lock.wait_cases now stage id timeout
  · exact ht
  · obtain ⟨mode, failed⟩ := lock.giveUp_outcome id stage
    rw [ht, failed] at h
    cases h
  · rw [ht] at h
    cases h

theorem wait_of_failed {error : LockError}
    (h : (lock.wait now stage id timeout).outcome = .returned (.failed error)) :
    lock.admits stage = false ∧ lock.wait now stage id timeout = lock.giveUp id stage := by
  obtain ⟨-, ht⟩ | ⟨closed, -, ht⟩ | ⟨-, -, ht⟩ := lock.wait_cases now stage id timeout
  · rw [ht] at h
    cases h
  · exact ⟨closed, ht⟩
  · rw [ht] at h
    cases h

theorem wait_of_waiting (h : (lock.wait now stage id timeout).outcome = .waiting) :
    lock.wait now stage id timeout = .waits lock stage := by
  obtain ⟨-, ht⟩ | ⟨-, -, ht⟩ | ⟨-, -, ht⟩ := lock.wait_cases now stage id timeout
  · rw [ht] at h
    cases h
  · obtain ⟨mode, failed⟩ := lock.giveUp_outcome id stage
    rw [ht, failed] at h
    cases h
  · exact ht

theorem wait_ok_iff :
    (lock.wait now stage id timeout).outcome = .returned .ok ↔ lock.admits stage = true := by
  constructor
  · exact fun h => (wait_of_ok h).1
  · intro admitted
    rw [wait, if_pos admitted]
    rfl

end Lock

end BlockingSync
