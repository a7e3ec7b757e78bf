import BlockingSync.Monitor.Room
import BlockingSync.Proofs.Lock.Effect
import BlockingSync.Proofs.Monitor.Run

namespace BlockingSync

abbrev LockReport (ι : Type) := Report (LockCall ι) LockResult

variable {ι : Type} [DecidableEq ι]

def LockCall.acquires (mode : Mode) (id : ι) : LockCall ι → Bool
  | acquire m i _ => m = mode ∧ i = id
  | release .. => false

def LockCall.releases (mode : Mode) (id : ι) : LockCall ι → Bool
  | acquire .. => false
  | release m i => m = mode ∧ i = id

omit [DecidableEq ι] in
def LockCall.isAcquire : LockCall ι → Bool
  | acquire .. => true
  | release .. => false

namespace Lock

def successes (kind : LockCall ι → Bool) (reports : List (LockReport ι)) : Nat :=
  reports.countP fun r => r.outcome = .returned .ok ∧ kind r.call

def acquired (reports : List (LockReport ι)) (mode : Mode) (id : ι) : Nat :=
  successes (LockCall.acquires mode id) reports

def released (reports : List (LockReport ι)) (mode : Mode) (id : ι) : Nat :=
  successes (LockCall.releases mode id) reports

section reports

variable {reports : List (LockReport ι)} {report : LockReport ι}

omit [DecidableEq ι] in
theorem successes_append (kind : LockCall ι → Bool) (reports later : List (LockReport ι)) :
    successes kind (reports ++ later) = successes kind reports + successes kind later :=
  List.countP_append

omit [DecidableEq ι] in
theorem successes_ok (kind : LockCall ι → Bool) (reports : List (LockReport ι)) (task : Nat)
    (call : LockCall ι) :
    successes kind (reports ++ [⟨task, call, .returned .ok⟩]) =
      successes kind reports + if kind call then 1 else 0 := by
  simp [successes, List.countP_append, List.countP_cons]

omit [DecidableEq ι] in
theorem successes_eq_zero (kind : LockCall ι → Bool)
    (h : ∀ r ∈ reports, r.outcome ≠ .returned .ok) : successes kind reports = 0 := by
  apply List.countP_eq_zero.mpr
  intro r hr
  simp [h r hr]

omit [DecidableEq ι] in
theorem successes_of_ne (kind : LockCall ι → Bool) (h : report.outcome ≠ .returned .ok) :
    successes kind (reports ++ [report]) = successes kind reports := by
  simp [successes, List.countP_append, h]

end reports

section counts

variable (reports later : List (LockReport ι)) (task : Nat) (timeout : Timeout) (m mode : Mode)
  (i id : ι)

theorem acquired_append :
    acquired (reports ++ later) mode id = acquired reports mode id + acquired later mode id :=
  successes_append _ reports later

theorem released_append :
    released (reports ++ later) mode id = released reports mode id + released later mode id :=
  successes_append _ reports later

theorem acquired_acquire :
    acquired (reports ++ [⟨task, .acquire m i timeout, .returned .ok⟩]) mode id =
      acquired reports mode id + if m = mode ∧ i = id then 1 else 0 := by
  rw [acquired, successes_ok]
  simp [acquired, LockCall.acquires]

theorem released_acquire :
    released (reports ++ [⟨task, .acquire m i timeout, .returned .ok⟩]) mode id =
      released reports mode id := by
  rw [released, successes_ok]
  rfl

end counts

theorem count_of_adds {mode : Mode} {id : ι} {lock after : Lock ι} (h : Adds mode id lock after)
    (other : Mode) (y : ι) :
    (after.held y).count other =
      (lock.held y).count other + if mode = other ∧ id = y then 1 else 0 := by
  rw [h y]
  by_cases hy : y = id
  · rw [if_pos hy, HeldCounts.count_add]
    simp [hy]
  · rw [if_neg hy]
    simp [Ne.symm hy]

/-- What a lock holds has changed by what the reports tell. -/
def Balanced (lock after : Lock ι) (reports : List (LockReport ι)) : Prop :=
  ∀ mode y, (after.held y).count mode + released reports mode y =
    (lock.held y).count mode + acquired reports mode y

inductive Trades (lock after : Lock ι) : LockCall ι → Prop
  | acquire {mode : Mode} {id : ι} {timeout : Timeout} (adds : Adds mode id lock after) :
      Trades lock after (.acquire mode id timeout)
  | release {mode : Mode} {id : ι} (adds : Adds mode id after lock) :
      Trades lock after (.release mode id)

theorem Trades.balanced {lock after : Lock ι} {call : LockCall ι} (h : Trades lock after call)
    (task : Nat) : Balanced lock after [⟨task, call, .returned .ok⟩] := by
  intro mode y
  cases h with
  | acquire adds | release adds =>
    rw [count_of_adds adds]
    simp [acquired, released, successes, LockCall.acquires, LockCall.releases]

theorem balanced_of_idle {lock after : Lock ι} {reports : List (LockReport ι)}
    (same : ∀ y, after.held y = lock.held y) (h : ∀ r ∈ reports, r.outcome ≠ .returned .ok) :
    Balanced lock after reports := by
  intro mode y
  rw [same, acquired, released, successes_eq_zero _ h, successes_eq_zero _ h]

/-- The registry of a lock beside the reports of its run. It holds no more for an identity than it
was granted and has not given back, and as long as nobody strays no less; the write locks are exact.
-/
structure Books (lock : Lock ι) (reports : List (LockReport ι)) (stray : Nat) : Prop where
  covered : ∀ mode id, released reports mode id + (lock.held id).count mode ≤
    acquired reports mode id
  exact : ∀ mode id, mode = .write ∨ stray = 0 →
    acquired reports mode id = released reports mode id + (lock.held id).count mode

theorem books_new : Books (new : Lock ι) [] 0 where
  covered mode id := by cases mode <;> exact Nat.le_refl 0
  exact mode id _ := by cases mode <;> rfl

variable {lock after : Lock ι} {reports : List (LockReport ι)} {report : LockReport ι}
  {stray : Nat}

theorem Books.append (b : Books lock reports stray) {later : List (LockReport ι)}
    (h : Balanced lock after later) : Books after (reports ++ later) stray := by
  constructor
  · intro mode y
    have before := b.covered mode y
    have change := h mode y
    rw [acquired_append, released_append]
    omega
  · intro mode y hm
    have before := b.exact mode y hm
    have change := h mode y
    rw [acquired_append, released_append]
    omega

theorem Books.overlap (b : Books lock reports stray) {id : ι} (writes : (lock.held id).writes = 0)
    (reads : 0 < (lock.held id).reads) (task : Nat) (timeout : Timeout) :
    Books (lock.admitReader id)
      (reports ++ [⟨task, .acquire .read id timeout, .returned .ok⟩]) (stray + 1) := by
  constructor
  · rintro (_ | _) y
    · have hb := b.covered .read y
      rw [acquired_acquire, released_acquire, held_admitReader]
      by_cases hy : y = id
      · rw [if_pos hy, if_pos ⟨rfl, hy.symm⟩]
        exact Nat.le_succ_of_le (Nat.le_trans (Nat.add_le_add_left (hy ▸ reads) _) hb)
      · rw [if_neg hy]
        exact Nat.le_add_right_of_le hb
    · have hb := b.covered .write y
      rw [acquired_acquire, released_acquire, HeldCounts.count, writes_admitReader writes]
      exact Nat.le_add_right_of_le hb
  · rintro other y (rfl | hs)
    · have hb := b.exact .write y (Or.inl rfl)
      rw [acquired_acquire, released_acquire, HeldCounts.count, writes_admitReader writes, hb]
      rfl
    · exact absurd hs (Nat.succ_ne_zero stray)

theorem release_returned (lock : Lock ι) (mode : Mode) (id : ι) :
    (lock.release mode id).outcome = .returned .ok ∨
      (lock.release mode id).outcome = .returned (.failed (.notHeld mode)) ∨
      ∃ fault, (lock.release mode id).outcome = .returned (.fault fault) := by
  cases mode with
  | read =>
    rw [release, releaseRead]
    cases lock.heldBy id with
    | none => exact Or.inr (Or.inl rfl)
    | some held =>
      dsimp only
      split
      · exact Or.inr (Or.inl rfl)
      · split
        · exact Or.inl rfl
        · rw [leaveReaders]
          split
          · exact Or.inr (Or.inr ⟨_, rfl⟩)
          · exact Or.inl rfl
          · exact Or.inl rfl
  | write =>
    rw [release, releaseWrite]
    cases lock.heldBy id with
    | none => exact Or.inr (Or.inl rfl)
    | some held =>
      dsimp only
      split
      · exact Or.inr (Or.inl rfl)
      · split
        · exact Or.inl rfl
        · split
          · exact Or.inr (Or.inr ⟨_, rfl⟩)
          · rw [leaveWriting]
            split <;> exact Or.inl rfl

variable {call : LockCall ι} {turn : LockTurn ι} {stray' : Nat}

theorem Effect.balanced (e : Effect lock stray call turn stray) (task : Nat) :
    Balanced lock turn.state [⟨task, call, turn.outcome⟩] := by
  cases e with
  | wait same => exact balanced_of_idle same (by simp [Turn.outcome, Turn.waits])
  | fail same => exact balanced_of_idle same (by simp [Turn.outcome])
  | acquire adds => exact (Trades.acquire adds).balanced task
  | release adds => exact (Trades.release adds).balanced task

theorem Books.effect (b : Books lock reports stray) (e : Effect lock stray call turn stray')
    (task : Nat) : Books turn.state (reports ++ [⟨task, call, turn.outcome⟩]) stray' := by
  by_cases hs : stray' = stray
  · obtain rfl := hs
    exact b.append (e.balanced task)
  · cases e with
    | overlap reads writes => exact b.overlap writes reads task _
    | wait | fail | acquire | release => exact absurd rfl hs

theorem Effect.noFault (e : Effect lock stray call turn stray') (f : Fault) :
    turn.outcome ≠ .returned (.fault f) := by
  cases e <;> simp [Turn.outcome, Turn.waits, Turn.returns]

theorem Effect.size_le (e : Effect lock stray call turn stray') (task : Nat)
    (h : lock.holders.size + stray ≤ successes LockCall.isAcquire reports) :
    turn.state.holders.size + stray' ≤
      successes LockCall.isAcquire (reports ++ [⟨task, call, turn.outcome⟩]) := by
  cases e with
  | wait _ size =>
    rw [successes_of_ne _ (by simp [Turn.outcome, Turn.waits])]
    exact Nat.le_trans (Nat.add_le_add_right size stray) h
  | fail _ size =>
    rw [successes_of_ne _ (by simp [Turn.outcome])]
    exact Nat.le_trans (Nat.add_le_add_right size stray) h
  | acquire _ size =>
    rw [Turn.outcome, Turn.returns, successes_ok, LockCall.isAcquire, if_pos rfl]
    dsimp only
    omega
  | overlap _ _ size =>
    rw [Turn.outcome, Turn.returns, successes_ok, LockCall.isAcquire, if_pos rfl]
    dsimp only
    omega
  | release _ size =>
    rw [Turn.outcome, successes_ok]
    exact Nat.le_trans (Nat.add_le_add_right size stray) (Nat.le_add_right_of_le h)

end Lock

end BlockingSync
