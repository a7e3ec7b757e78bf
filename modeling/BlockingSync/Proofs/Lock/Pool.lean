import BlockingSync.Proofs.Lock.Lone
import BlockingSync.Proofs.Lock.Wakeup

namespace BlockingSync

variable {ι : Type} [DecidableEq ι]

def LockCall.bothRead (call other : LockCall ι) : Bool :=
  call.acquires .read call.id && other.acquires .read call.id

namespace Lock

/-- Every lock that was granted is held or has been given back. -/
def Accounted (lock : Lock ι) (reports : List (LockReport ι)) : Prop :=
  ∀ mode id, acquired reports mode id = released reports mode id + (lock.held id).count mode

/-- Some identity holds fewer locks than it was granted and has not given back. -/
def Short (lock : Lock ι) (reports : List (LockReport ι)) : Prop :=
  ∃ mode id, released reports mode id + (lock.held id).count mode < acquired reports mode id

theorem Short.not_accounted {lock : Lock ι} {reports : List (LockReport ι)}
    (h : Short lock reports) : ¬ Accounted lock reports := by
  obtain ⟨mode, id, hlt⟩ := h
  intro ha
  exact Nat.ne_of_gt hlt (ha mode id)

variable {lock : Lock ι} {reports : List (LockReport ι)} {id : ι} {call : LockCall ι}
  {turn : LockTurn ι} {stray stray' : Nat} {now : Instant}

theorem readsApart_bothRead : ReadsApart (LockCall.bothRead (ι := ι)) := by
  intro call other id hc ho
  obtain ⟨timeout, rfl⟩ := LockCall.acquires_iff.mp hc
  exact Bool.and_eq_true_iff.mpr ⟨hc, ho⟩

theorem Short.append {after : Lock ι} {later : List (LockReport ι)} (short : Short lock reports)
    (h : Balanced lock after later) : Short after (reports ++ later) := by
  obtain ⟨mode, id, hlt⟩ := short
  have change := h mode id
  refine ⟨mode, id, ?_⟩
  rw [acquired_append, released_append]
  omega

theorem Effect.short (e : Effect lock stray call turn stray') (b : Books lock reports stray)
    (short : 0 < stray → Short lock reports) (task : Nat) (hs : 0 < stray') :
    Short turn.state (reports ++ [⟨task, call, turn.outcome⟩]) := by
  by_cases he : stray' = stray
  · obtain rfl := he
    exact (short hs).append (e.balanced task)
  · cases e with
    | @overlap id _ reads =>
      -- the entry is written anew, and the read locks that it had are no longer counted there
      have hh : (lock.admitReader id).held id = { reads := 1 } :=
        (held_admitReader ..).trans (if_pos rfl)
      have hb := b.covered .read id
      refine ⟨.read, id, ?_⟩
      rw [Turn.outcome, Turn.returns, acquired_acquire, released_acquire, if_pos ⟨rfl, rfl⟩, hh]
      exact Nat.lt_succ_of_le (Nat.le_trans (Nat.add_le_add_left reads _) hb)
    | wait | fail | acquire | release => exact absurd rfl he

theorem Effect.stray_eq_zero {timeout : Timeout}
    (e : Effect lock stray (.acquire .write id timeout) turn stray') (h : turn.state.Phase stray')
    (ok : turn.outcome = .returned .ok) : stray' = 0 := by
  cases e with
  | wait => simp [Turn.outcome, Turn.waits] at ok
  | fail => simp [Turn.outcome] at ok
  | acquire adds =>
    have hc := count_of_adds adds .write id
    rw [if_pos ⟨rfl, rfl⟩] at hc
    have hpos := Nat.lt_of_lt_of_eq (Nat.succ_pos _) hc.symm
    exact h.stray_eq_zero (h.exclusive_of_writes (heldBy_of_pos hpos) hpos)

theorem Effect.acquired_write (e : Effect lock stray call turn stray')
    (h : turn.state.Phase stray') (hs : 0 < stray') (task : Nat) (id : ι) :
    acquired (reports ++ [⟨task, call, turn.outcome⟩]) .write id = acquired reports .write id := by
  by_cases ok : turn.outcome = .returned .ok
  · have hc : call.acquires .write id = false := by
      apply Bool.eq_false_iff.mpr
      intro hc
      obtain ⟨timeout, rfl⟩ := LockCall.acquires_iff.mp hc
      exact Nat.ne_of_gt hs (e.stray_eq_zero h ok)
    rw [ok, acquired, successes_ok, hc]
    rfl
  · exact successes_of_ne _ ok

theorem short_run (now : Instant) (events : List (Event (LockCall ι))) :
    ∃ stray, (run now events).1.state.Phase stray ∧
      (stray = 0 ↔ Accounted (run now events).1.state (run now events).2) := by
  have keeps := keeps_sound (ι := ι)
    (Q := fun lock reports stray => Books lock reports stray ∧ (0 < stray → Short lock reports))
    fun task _ e q => ⟨q.1.effect e task, e.short q.1 q.2 task⟩
  obtain ⟨stray, sound, b, short⟩ : ∃ stray, Sound (run now events).1.state _ stray ∧ _ :=
    keeps.exec ⟨0, sound_new, books_new, nofun⟩ events
  refine ⟨stray, sound.phase, ?_, ?_⟩
  · rintro rfl mode id
    exact b.exact mode id (Or.inr rfl)
  · intro ha
    apply Nat.eq_zero_of_not_pos
    intro hpos
    exact (short hpos).not_accounted ha

theorem Phase.readers_eq_pool_iff (h : lock.Phase stray) :
    lock.readers = lock.pool ↔ stray = 0 := by
  rw [h.readers_eq]
  omega

theorem Phase.acquire_write_iff (h : lock.Phase stray) (hs : lock.holders.size = 0) (now : Instant)
    (id : ι) (timeout : Timeout) :
    (start now lock (.acquire .write id timeout)).outcome = .returned .ok ↔ stray = 0 := by
  have unregistered := Registry.get?_eq_none_of_size_eq_zero hs
  have hstart : start now lock (.acquire .write id timeout) =
      lock.wait now .writer id timeout := by
    change lock.acquireWrite now id timeout = lock.wait now .writer id timeout
    rw [acquireWrite, show lock.heldBy id = none from unregistered id]
  rw [hstart, wait_ok_iff]
  change lock.writable = true ↔ _
  rw [writable_iff]
  cases h with
  | shared h =>
    have hr := h.readers
    have hw := h.writers
    omega
  | upgrading h =>
    have hpos := Registry.size_pos h.registered
    omega
  | exclusive h =>
    have hone := Registry.size_eq_one h.alone
    omega

/-- In every state that a run reaches, the lock counts its pool just when every lock that was
granted is held or has been given back; and if nobody is registered, this is also when a writer is
let in at once. -/
theorem readers_eq_pool_iff (now : Instant) (events : List (Event (LockCall ι))) :
    ((run now events).1.state.readers = (run now events).1.state.pool ↔
      Accounted (run now events).1.state (run now events).2) ∧
    ((run now events).1.state.holders.size = 0 → ∀ t id timeout,
      ((start t (run now events).1.state (.acquire .write id timeout)).outcome = .returned .ok ↔
        Accounted (run now events).1.state (run now events).2)) := by
  obtain ⟨stray, h, ha⟩ := short_run now events
  rw [← ha]
  exact ⟨h.readers_eq_pool_iff, h.acquire_write_iff⟩

/-- Once the lock counts more readers than its pool, it does so for good and lets no writer in. -/
theorem no_writer_beside_stray {events : List (Event (LockCall ι))}
    (h : (run now events).1.state.readers ≠ (run now events).1.state.pool)
    (more : List (Event (LockCall ι))) :
    ((monitor ι).exec (run now events).1 more).1.state.readers ≠
        ((monitor ι).exec (run now events).1 more).1.state.pool ∧
      ∀ id, acquired ((monitor ι).exec (run now events).1 more).2 .write id = 0 := by
  have keeps := keeps_sound (ι := ι)
    (Q := fun _ reports stray => 0 < stray ∧ ∀ id, acquired reports .write id = 0) ?_
  · obtain ⟨stray, k⟩ := kept_run now events
    have hpos := Nat.pos_of_ne_zero fun hz => h (k.sound.phase.readers_eq_pool_iff.mpr hz)
    obtain ⟨stray', sound, hpos', none⟩ :=
      keeps.exec ⟨stray, k.sound, hpos, fun _ => rfl⟩ more
    exact ⟨fun he => Nat.ne_of_gt hpos' (sound.phase.readers_eq_pool_iff.mp he), none⟩
  · rintro lock reports stray call turn stray' task phase e ⟨hpos, none⟩
    have hpos' := Nat.lt_of_lt_of_le hpos e.stray_le
    exact ⟨hpos', fun id => (e.acquired_write phase hpos' task id).trans (none id)⟩

/-- Two calls that ask for a read lock of 2 wait for the writer 1, both go on after it has left, and
two calls give the locks back; the second one is told that there is none. -/
def twoReadsEvents : List (Event (LockCall Nat)) :=
  [.start (.acquire .write 1 .infinite), .start (.acquire .read 2 .infinite),
    .start (.acquire .read 2 .infinite), .start (.release .write 1), .run 1, .run 2,
    .start (.release .read 2), .start (.release .read 2)]

theorem readers_ne_pool_twoReads :
    (run .zero twoReadsEvents).1.state.holders.size = 0 ∧
      (run .zero twoReadsEvents).1.state.pool = 0 ∧
      (run .zero twoReadsEvents).1.state.readers = 1 ∧
      ((monitor Nat).step (run .zero twoReadsEvents).1
        (.start (.acquire .write 3 (.expired .zero)))).2 =
          some ⟨6, .acquire .write 3 (.expired .zero), .returned (.failed (.timedOut .write))⟩ := by
  decide

/-- If no identity has two calls at once that ask for a read lock, the lock counts its pool, and
when nobody is registered it is free. -/
theorem readers_eq_pool {events : List (Event (LockCall ι))}
    (apart : keepsApart LockCall.bothRead now events = true) :
    (run now events).1.state.readers = (run now events).1.state.pool ∧
      ((run now events).1.state.holders.size = 0 → (run now events).1.state.readers = 0 ∧
        ∀ id timeout,
          ((monitor ι).step (run now events).1 (.start (.acquire .write id timeout))).2 =
            some ⟨(run now events).1.next, .acquire .write id timeout, .returned .ok⟩) := by
  have h := (exact_run readsApart_bothRead apart).sound.phase
  refine ⟨h.readers_eq_pool_iff.mpr rfl, ?_⟩
  intro hs
  refine ⟨Nat.eq_zero_of_le_zero (Nat.le_trans h.readers_le (Nat.le_of_eq hs)), ?_⟩
  intro id timeout
  rw [report_start, (h.acquire_write_iff hs _ id timeout).mpr rfl]

/-- The identity 2 waits to read and to write at once, is let in as a reader, and leaves. -/
def readAndWriteEvents : List (Event (LockCall Nat)) :=
  [.start (.acquire .write 1 .infinite), .start (.acquire .read 2 .infinite),
    .start (.acquire .write 2 .infinite), .start (.release .write 1), .run 1, .run 2,
    .start (.release .read 2)]

theorem readers_eq_pool_readAndWrite :
    keepsApart LockCall.bothRead .zero readAndWriteEvents = true ∧
      (run .zero readAndWriteEvents).1.state.holders.size = 0 ∧
      (run .zero readAndWriteEvents).1.suspended.length = 1 ∧
      (run .zero readAndWriteEvents).1.state.readers = 0 ∧
      ((monitor Nat).step (run .zero readAndWriteEvents).1
        (.start (.acquire .write 3 (.expired .zero)))).2 =
          some ⟨5, .acquire .write 3 (.expired .zero), .returned .ok⟩ := by
  have apart : keepsApart LockCall.bothRead .zero readAndWriteEvents = true := by decide
  have free : (run .zero readAndWriteEvents).1.state.holders.size = 0 := by decide
  obtain ⟨none, entered⟩ := (readers_eq_pool apart).2 free
  exact ⟨apart, free, by decide, none, entered 3 (.expired .zero)⟩

end Lock

end BlockingSync
