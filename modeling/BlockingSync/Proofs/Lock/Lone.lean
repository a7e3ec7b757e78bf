import BlockingSync.Proofs.Lock.Invariant
import BlockingSync.Proofs.Monitor.Apart

namespace BlockingSync

variable {ι : Type} [DecidableEq ι]

def LockCall.sameReader (call other : LockCall ι) : Bool := other.acquires .read call.id

theorem LockCall.acquires_iff {call : LockCall ι} {mode : Mode} {id : ι} :
    call.acquires mode id = true ↔ ∃ timeout, call = .acquire mode id timeout := by
  cases call <;> simp [acquires]

theorem LockCall.id_of_acquires {call : LockCall ι} {mode : Mode} {id : ι}
    (h : call.acquires mode id = true) : call.id = id := by
  obtain ⟨timeout, rfl⟩ := acquires_iff.mp h
  rfl

/-- None of the other calls asks for a read lock that this call asks for. -/
def LockCall.ReadsAlone (call : LockCall ι) (waiting : List (Suspended (LockCall ι) LockStage)) :
    Prop :=
  ∀ id, call.acquires .read id = true → ∀ s ∈ waiting, s.call.acquires .read id = false

namespace Lock

def keepsApart (apart : LockCall ι → LockCall ι → Bool) (now : Instant)
    (events : List (Event (LockCall ι))) : Bool :=
  (monitor ι).keepsApart apart { state := new, now := now } events

/-- An identity asks for a read lock with one call at a time, and has none while it does. -/
structure Lone (lock : Lock ι) (waiting : List (Suspended (LockCall ι) LockStage)) : Prop where
  single : ∀ id, waiting.countP (·.call.acquires .read id) ≤ 1
  unread : ∀ id, ∀ s ∈ waiting, s.call.acquires .read id = true → (lock.held id).reads = 0

variable {lock : Lock ι} {waiting others : List (Suspended (LockCall ι) LockStage)}
  {now : Instant} {place : Option LockStage} {id : ι} {timeout : Timeout} {call : LockCall ι}
  {turn : LockTurn ι} {stray stray' : Nat}

theorem Lone.perm (h : Lone lock waiting) (hp : waiting.Perm others) : Lone lock others where
  single id := by
    rw [← hp.countP_eq]
    exact h.single id
  unread id s hs := h.unread id s (hp.mem_iff.mpr hs)

theorem Lone.tail {s : Suspended (LockCall ι) LockStage} (h : Lone lock (s :: waiting)) :
    Lone lock waiting ∧ ∀ id, s.call.acquires .read id = true →
      ∀ t ∈ waiting, t.call.acquires .read id = false := by
  refine ⟨⟨?_, fun id t ht => h.unread id t (List.mem_cons_of_mem s ht)⟩, ?_⟩
  · intro id
    exact Nat.le_trans (List.Sublist.countP_le (List.sublist_cons_self s waiting)) (h.single id)
  · intro id hc t ht
    have hs := h.single id
    rw [List.countP_cons, if_pos hc] at hs
    have hz := List.countP_eq_zero.mp (Nat.eq_zero_of_le_zero (Nat.le_of_succ_le_succ hs))
    exact Bool.eq_false_iff.mpr (hz t ht)

theorem lone_new : Lone (new : Lock ι) [] where
  single id := Nat.zero_le 1
  unread id s hs := by cases hs

theorem WaitsAt.acquires_read (h : WaitsAt call .reader) :
    call.acquires .read call.id = true := by
  cases h with
  | reader id timeout => exact LockCall.acquires_iff.mpr ⟨timeout, rfl⟩

theorem Outside.unread (outside : Outside lock id .reader place)
    (waiter : place = some .reader → (lock.held id).reads = 0) : (lock.held id).reads = 0 := by
  cases outside with
  | newcomer unregistered => rw [held_eq_of_none unregistered]
  | waiter => exact waiter rfl

theorem Move.unread (m : Move now lock place (.acquire .read id timeout) turn)
    (waiter : place = some .reader → (lock.held id).reads = 0)
    (h : turn.state.readers = lock.readers + 1 ∨ turn.ending = .waits .reader) :
    (lock.held id).reads = 0 := by
  cases m with
  | readAgain => simp [Turn.returns, record] at h
  | readEnter outside => exact outside.unread waiter
  | expire => simp [Turn.returns] at h
  | wait outside => exact outside.unread waiter

theorem Move.stray_eq (m : Move now lock place call turn)
    (e : Effect lock stray call turn stray')
    (waiter : place = some .reader → (lock.held call.id).reads = 0) : stray' = stray := by
  cases e with
  | overlap reads => exact absurd (m.unread waiter (Or.inl rfl)) (Nat.ne_of_gt reads)
  | wait | fail | acquire | release => rfl

theorem Effect.reads_le (e : Effect lock stray call turn stray')
    (hc : call.acquires .read id = false) : (turn.state.held id).reads ≤ (lock.held id).reads := by
  cases e with
  | wait same | fail same => exact Nat.le_of_eq (congrArg HeldCounts.reads (same id))
  | @acquire mode x _ _ adds =>
    have hn : ¬ (mode = .read ∧ x = id) := by simpa [LockCall.acquires] using hc
    have hr := count_of_adds adds .read id
    rw [if_neg hn] at hr
    exact Nat.le_of_eq hr
  | @overlap x =>
    have hn : ¬ id = x := by simpa [LockCall.acquires, eq_comm] using hc
    have hh : (lock.admitReader x).held id = lock.held id :=
      (held_admitReader ..).trans (if_neg hn)
    exact Nat.le_of_eq (congrArg HeldCounts.reads hh)
  | release adds => exact Nat.le.intro (count_of_adds adds .read id).symm

theorem Effect.held_eq (e : Effect lock stray call turn stray') {stage : LockStage}
    (hw : turn.ending = .waits stage) (id : ι) : turn.state.held id = lock.held id := by
  cases e with
  | wait same => exact same id
  | fail | acquire | overlap | release => cases hw

theorem Lone.next (h : Lone lock waiting) (m : Move now lock place call turn)
    (e : Effect lock stray call turn stray')
    (waiter : place = some .reader → (lock.held call.id).reads = 0)
    (alone : ∀ id, call.acquires .read id = true →
      ∀ s ∈ waiting, s.call.acquires .read id = false) (task : Nat) :
    Lone turn.state (turn.left task call ++ waiting) where
  single id := by
    have hl := turn.countP_left_le task call (·.acquires .read id)
    have hw := h.single id
    rw [List.countP_append]
    by_cases hc : call.acquires .read id = true
    · have hz : waiting.countP (·.call.acquires .read id) = 0 :=
        List.countP_eq_zero.mpr fun s hs => Bool.eq_false_iff.mp (alone id hc s hs)
      rw [if_pos hc] at hl
      omega
    · rw [if_neg hc] at hl
      omega
  unread id s hs hc := by
    obtain hs | hs := List.mem_append.mp hs
    · obtain ⟨-, hcall, hw⟩ := Turn.mem_left.mp hs
      rw [hcall] at hc
      obtain ⟨timeout, rfl⟩ := LockCall.acquires_iff.mp hc
      have hr : turn.ending = .waits .reader := by
        cases hk : s.stage <;> rw [hk] at hw <;> first | exact hw | cases m.waitsAt hw
      rw [e.held_eq hw]
      exact m.unread waiter (Or.inr hr)
    · have hn : call.acquires .read id = false := by
        apply Bool.eq_false_iff.mpr
        intro hy
        rw [alone id hy s hs] at hc
        cases hc
      have hle := e.reads_le hn
      have hz := h.unread id s hs hc
      omega

theorem preserved_lone : Preserved (LockCall.ReadsAlone (ι := ι)) fun lock waiting stray =>
    Sound lock waiting stray ∧ stray = 0 ∧ Lone lock waiting where
  sound h := h.1
  perm := by
    rintro lock waiting others stray hp ⟨sound, rfl, lone⟩
    exact ⟨sound.perm hp, rfl, lone.perm hp⟩
  start := by
    rintro lock waiting stray now task call alone ⟨sound, rfl, lone⟩
    have m := start_move sound.phase now call
    obtain ⟨stray', hs, e⟩ := sound.start now task call
    obtain rfl := m.stray_eq e nofun
    exact ⟨0, ⟨hs, rfl, lone.next m e nofun alone task⟩, e⟩
  resume := by
    rintro lock waiting stray now s ⟨sound, rfl, lone⟩
    have places := sound.waits s List.mem_cons_self
    have m := resume_move places lock now
    have waiter : some s.stage = some .reader → (lock.held s.call.id).reads = 0 := by
      intro hk
      rw [Option.some.inj hk] at places
      exact lone.unread s.call.id s List.mem_cons_self places.acquires_read
    obtain ⟨stray', hs, e⟩ := sound.resume now
    -- nobody has read for its identity while it waited, so no entry is overwritten
    obtain rfl := m.stray_eq e waiter
    obtain ⟨rest, alone⟩ := lone.tail
    exact ⟨0, ⟨hs, rfl, rest.next m e waiter alone s.task⟩, e⟩
  release _ _ _ _ hc := by cases hc

def ReadsApart (apart : LockCall ι → LockCall ι → Bool) : Prop :=
  ∀ call other : LockCall ι, ∀ id, call.acquires .read id = true →
    other.acquires .read id = true → apart call other = true

theorem readsApart_sameReader : ReadsApart (LockCall.sameReader (ι := ι)) := by
  intro call other id hc ho
  obtain ⟨timeout, rfl⟩ := LockCall.acquires_iff.mp hc
  exact ho

variable {apart : LockCall ι → LockCall ι → Bool}

theorem keeps_exact (ha : ReadsApart apart) :
    ((monitor ι).separated apart).Keeps fun lock waiting reports =>
      ∃ stray, (Sound lock waiting stray ∧ stray = 0 ∧ Lone lock waiting) ∧
        Kept lock waiting reports stray := by
  refine preserved_lone.keeps_kept rfl rfl ?_
  intro call waiting free id hc s hs
  apply Bool.eq_false_iff.mpr
  intro hd
  have hf := Monitor.apart_eq_false (free s hs)
  rw [ha call s.call id hc hd] at hf
  cases hf

theorem exact_run (ha : ReadsApart apart) {now : Instant} {events : List (Event (LockCall ι))}
    (h : keepsApart apart now events = true) :
    Kept (run now events).1.state (run now events).1.suspended (run now events).2 0 := by
  obtain ⟨stray, ⟨-, rfl, -⟩, k⟩ : ∃ stray, (_ ∧ stray = 0 ∧ _) ∧
      Kept (run now events).1.state (run now events).1.suspended (run now events).2 stray :=
    (keeps_exact ha).exec_apart ⟨0, ⟨sound_new, rfl, lone_new⟩, kept_new⟩ h
  exact k

end Lock

end BlockingSync
