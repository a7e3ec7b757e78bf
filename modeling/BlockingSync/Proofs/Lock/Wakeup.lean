import BlockingSync.Proofs.Lock.Consistency

namespace BlockingSync

namespace Lock

variable {ι : Type} [DecidableEq ι]

variable {lock claimed : Lock ι} {now : Instant} {place : Option LockStage} {id : ι}
  {call : LockCall ι} {turn : LockTurn ι} {stray : Nat}

/-- Why nobody is lost at a stage that is admitted after a turn: all who wait there are signalled,
or one of them and nobody else, or the stage was admitted before and no writer has used up its
turn, or nobody can wait there. -/
inductive Heeds (lock : Lock ι) (place : Option LockStage) (turn : LockTurn ι) : LockStage → Prop
  | all {stage : LockStage} (h : .all stage.condition ∈ turn.signals) : Heeds lock place turn stage
  | one (h : .one .writers ∈ turn.signals) (idle : turn.state.upgrading = none) :
      Heeds lock place turn .writer
  | before {stage : LockStage} (h : lock.admits stage = true)
      (hp : stage = .writer → place ≠ some .writer) : Heeds lock place turn stage
  | nobody (idle : turn.state.upgrading = none) : Heeds lock place turn .upgrader

omit [DecidableEq ι] in
theorem stage_eq_upgrader {stage : LockStage} (ha : lock.admits stage = true)
    (hw : lock.writers = 1) : stage = .upgrader := by
  cases stage with
  | reader => simp [admits, readable, hw] at ha
  | writer => simp [admits, writable, hw] at ha
  | upgrader => rfl

omit [DecidableEq ι] in
theorem stage_eq_reader {stage : LockStage} (ha : lock.admits stage = true)
    (hr : 0 < lock.readers) : stage = .reader := by
  have hne : lock.readers ≠ 0 := Nat.ne_of_gt hr
  cases stage with
  | reader => rfl
  | writer => simp [admits, writable, hne] at ha
  | upgrader => simp [admits, hne] at ha

theorem Outside.place_ne {mode : Mode} (outside : Outside lock id mode.stage place)
    (closed : lock.admits mode.stage = false) (ha : lock.admits .writer = true) :
    place ≠ some .writer := by
  rintro rfl
  cases mode with
  | read => cases outside
  | write => exact Bool.false_ne_true (closed.symm.trans ha)

theorem Move.heeds (m : Move now lock place call turn) (h : lock.Phase stray)
    (hu : place = some .upgrader → lock.upgrading = some call.id) {stage : LockStage}
    (ha : turn.state.admits stage = true) : Heeds lock place turn stage := by
  cases m with
  | readAgain => exact .before ha (by simp)
  | readEnter outside readable =>
    obtain rfl := stage_eq_reader ha (Nat.succ_pos _)
    exact .before readable (by simp)
  | expire outside closed | wait outside closed =>
    refine .before ha ?_
    rintro rfl
    exact outside.place_ne closed ha
  | readUnheld => exact .before ha (by simp)
  | readRelease => exact .before ha (by simp)
  | @readLeave _ others =>
    cases stage with
    | reader => exact .before ha (by simp)
    | writer | upgrader =>
      obtain rfl : others = 0 := Nat.eq_zero_of_not_pos fun hr => by
        cases stage_eq_reader ha hr
      exact .all (List.mem_singleton.mpr rfl)
  | writeAgain => exact .before ha (by simp)
  | writeRefuse => exact .before ha (by simp)
  | upgradeGrant claim readers =>
    obtain rfl := stage_eq_upgrader ha (claim.upgrading h hu).writers
    exact .nobody rfl
  | upgradeBack claim readers =>
    obtain rfl := stage_eq_reader ha (Nat.succ_pos _)
    exact .all (List.mem_singleton.mpr rfl)
  | upgradeWithdraw claim readers =>
    obtain rfl := stage_eq_reader ha readers
    exact .all (List.mem_singleton.mpr rfl)
  | upgradeWait claim readers =>
    obtain rfl := stage_eq_reader ha readers
    cases stage_eq_upgrader ha (claim.upgrading h hu).writers
  | writeEnter outside writable =>
    obtain rfl := stage_eq_upgrader ha rfl
    exact .nobody (h.shared_of_writers (writable_iff.mp writable).2).upgrading
  | writeUnheld => exact .before ha (by simp)
  | writeRelease => exact .before ha (by simp)
  | writeDowngrade =>
    obtain rfl := stage_eq_reader ha (Nat.succ_pos _)
    exact .all (List.mem_singleton.mpr rfl)
  | writeLeave registered =>
    have idle := (h.exclusive_of_writes registered Nat.one_pos).upgrading
    cases stage with
    | reader => exact .all (by simp [LockStage.condition])
    | writer => exact .one (by simp) idle
    | upgrader => exact .nobody idle

theorem Move.admits_eq_false (m : Move now lock place call turn) {stage : LockStage}
    (hw : turn.ending = .waits stage) : turn.state.admits stage = false := by
  cases m with
  | wait outside closed =>
    cases hw
    exact closed
  | upgradeWait claim readers =>
    cases hw
    exact beq_eq_false_iff_ne.mpr (Nat.ne_of_gt readers)
  | _ => cases hw

/-- Nobody is parked at a stage that is admitted, but for plain writers while another one is
ready. -/
def Watched (room : LockRoom ι) : Prop :=
  ∀ s ∈ room.parked, room.state.admits s.stage = true →
    s.stage = .writer ∧ ∃ t ∈ room.ready, t.stage = .writer

theorem Sound.stage_ne {waiting : List (Suspended (LockCall ι) LockStage)}
    (h : Sound lock waiting stray) (idle : lock.upgrading = none)
    {s : Suspended (LockCall ι) LockStage} (hs : s ∈ waiting) : s.stage ≠ .upgrader := by
  intro hk
  have hu := h.upgrading_iff.mpr ⟨s, hs, hk, rfl⟩
  rw [idle] at hu
  cases hu

theorem Watched.conclude {room : LockRoom ι} {task : Nat} (m : Move now room.state place call turn)
    (h : room.state.Phase stray) (hu : place = some .upgrader → room.state.upgrading = some call.id)
    (watched : ∀ s ∈ room.parked, room.state.admits s.stage = true →
      s.stage = .writer ∧ (place = some .writer ∨ ∃ t ∈ room.ready, t.stage = .writer))
    {stray' : Nat}
    (sound : Sound turn.state ((monitor ι).conclude room task call turn).1.suspended stray') :
    Watched ((monitor ι).conclude room task call turn).1 := by
  obtain ⟨woken, c⟩ := (monitor ι).conclude_concluded room task call turn
  intro s hs ha
  rw [c.state] at ha
  obtain hl | ⟨hp, hall⟩ := c.mem s hs
  · -- the call itself does not wait for what is already so
    obtain ⟨-, -, hw⟩ := Turn.mem_left.mp hl
    rw [m.admits_eq_false hw] at ha
    cases ha
  generalize hk : s.stage = stage at ha
  cases m.heeds h hu ha with
  | all hc => exact absurd (congrArg LockStage.condition hk) (hall _ hc)
  | one hc idle =>
    obtain ⟨t, ht, htc⟩ := c.one _ hc s hp (congrArg LockStage.condition hk)
    have hr : t ∈ ((monitor ι).conclude room task call turn).1.ready := by
      rw [c.ready]
      exact List.mem_append_right room.ready ht
    refine ⟨rfl, t, hr, ?_⟩
    -- no upgrade is pending, so the call that was woken is a writer
    have hne := sound.stage_ne idle (List.mem_append_right _ hr)
    cases htk : t.stage with
    | reader =>
      rw [htk] at htc
      cases htc
    | writer => rfl
    | upgrader => exact absurd htk hne
  | before ha hp' =>
    rw [← hk] at ha hp'
    obtain ⟨hw, hplace | ⟨t, ht, htw⟩⟩ := watched s hp ha
    · exact absurd hplace (hp' hw)
    · refine ⟨hk.symm.trans hw, t, ?_, htw⟩
      rw [c.ready]
      exact List.mem_append_left woken ht
  | nobody idle => exact absurd hk (sound.stage_ne idle (List.mem_append_left _ hs))

theorem Watched.change {room after : LockRoom ι} {event : Event (LockCall ι)}
    {report : Option (LockReport ι)} (hc : (monitor ι).Change room event after report)
    {stray' : Nat} (before : Sound room.state room.suspended stray)
    (sound : Sound after.state after.suspended stray') (watched : Watched room) :
    Watched after := by
  cases hc with
  | number => exact watched
  | wake _ hw =>
    intro s hs ha
    rw [hw.state] at ha
    obtain ⟨hk, t, ht, htw⟩ := watched s (hw.mem_parked hs) ha
    exact ⟨hk, t, hw.mem_ready ht, htw⟩
  | start call free =>
    rw [Monitor.conclude_state] at sound
    refine Watched.conclude (start_move before.phase room.now call) before.phase nofun ?_ sound
    intro s hs ha
    obtain ⟨hk, ht⟩ := watched s hs ha
    exact ⟨hk, Or.inr ht⟩
  | run s earlier later hr =>
    rw [Monitor.conclude_state] at sound
    have hs := before.perm (Monitor.suspended_of_ready hr)
    have hu : some s.stage = some .upgrader → room.state.upgrading = some s.call.id := by
      intro hk
      exact hs.upgrading_iff.mpr ⟨s, List.mem_cons_self, Option.some.inj hk, rfl⟩
    have hm := resume_move (hs.waits s List.mem_cons_self) room.state room.now
    refine Watched.conclude hm before.phase hu ?_ sound
    intro p hp ha
    obtain ⟨hk, t, ht, htw⟩ := watched p hp ha
    refine ⟨hk, ?_⟩
    -- the ready writer may be the very call that runs
    rw [hr] at ht
    obtain ht | ht := List.mem_append.mp ht
    · exact Or.inr ⟨t, List.mem_append_left _ ht, htw⟩
    · obtain rfl | ht := List.mem_cons.mp ht
      · exact Or.inl (congrArg some htw)
      · exact Or.inr ⟨t, List.mem_append_right _ ht, htw⟩

omit [DecidableEq ι] in
theorem watched_new (now : Instant) : Watched ({ state := new, now := now } : LockRoom ι) := by
  intro s hs
  cases hs

theorem watched_run (now : Instant) (events : List (Event (LockCall ι))) :
    Watched (run now events).1 := by
  refine ((monitor ι).exec_induction
    (P := fun _ room reports =>
      (∃ stray, Kept room.state room.suspended reports stray) ∧ Watched room)
    ?_ ?_ events).2
  · exact ⟨⟨0, kept_new⟩, watched_new now⟩
  · rintro events room reports event ⟨⟨stray, k⟩, watched⟩
    have hc := (monitor ι).step_change room event
    obtain ⟨stray', -, k'⟩ := keeps_kept.change reports hc ⟨stray, k.sound, k⟩
    exact ⟨⟨stray', k'⟩, watched.change hc k.sound k'.sound⟩

structure NoneLost (room : LockRoom ι) : Prop where
  places : ∀ s ∈ room.suspended, WaitsAt s.call s.stage
  reader : ∀ s ∈ room.parked, s.stage.condition = .readers → room.state.writers = 1
  upgrader : ∀ s ∈ room.parked, s.stage = .upgrader → 0 < room.state.readers
  writer : ∀ s ∈ room.parked, s.stage = .writer → 0 < room.state.readers ∨
    room.state.writers = 1 ∨ ∃ t ∈ room.ready, t.task ≠ s.task ∧ t.stage = .writer

theorem Phase.writers_eq_zero (h : lock.Phase stray) (hw : lock.writers ≠ 1) :
    lock.writers = 0 := by
  have hle := h.consistent.writers_le
  omega

theorem Phase.readable (h : lock.Phase stray) (hw : lock.writers = 0) : lock.readable = true :=
  readable_iff.mpr ⟨(h.shared_of_writers hw).canRead, hw⟩

theorem Watched.noneLost {room : LockRoom ι} (watched : Watched room)
    (sound : Sound room.state room.suspended stray)
    (numbered : Monitor.Numbered room.suspended room.next) : NoneLost room where
  places := sound.waits
  reader s hs hc := by
    have hk : s.stage = .reader := by
      cases hk : s.stage <;> rw [hk] at hc <;> first | rfl | cases hc
    apply Decidable.byContradiction
    intro hw
    have ha : room.state.admits s.stage = true := by
      rw [hk]
      exact sound.phase.readable (sound.phase.writers_eq_zero hw)
    have hwr := (watched s hs ha).1
    rw [hk] at hwr
    cases hwr
  upgrader s hs hk := by
    apply Nat.pos_of_ne_zero
    intro hr
    have ha : room.state.admits s.stage = true := by
      rw [hk]
      exact beq_iff_eq.mpr hr
    have hwr := (watched s hs ha).1
    rw [hk] at hwr
    cases hwr
  writer s hs hk := by
    by_cases hr : room.state.readers = 0
    · by_cases hw : room.state.writers = 1
      · exact Or.inr (Or.inl hw)
      · have ha : room.state.admits s.stage = true := by
          rw [hk]
          exact writable_iff.mpr ⟨hr, sound.phase.writers_eq_zero hw⟩
        obtain ⟨-, t, ht, htw⟩ := watched s hs ha
        exact Or.inr (Or.inr ⟨t, ht, (numbered.task_ne hs ht).symm, htw⟩)
    · exact Or.inl (Nat.pos_of_ne_zero hr)

/-- In every state that a run reaches, parked readers and upgraders wait for what is not yet so, and
so do parked writers unless another one is ready to run. If nothing is ready, nobody waits for what
is already so. -/
theorem no_lost_wakeup (now : Instant) (events : List (Event (LockCall ι))) :
    NoneLost (run now events).1 ∧
      ((run now events).1.ready = [] →
        ∀ s ∈ (run now events).1.parked, (run now events).1.state.admits s.stage = false) := by
  obtain ⟨stray, k⟩ := kept_run now events
  have fresh : ({ state := new, now := now } : LockRoom ι).suspended = [] := rfl
  have watched := watched_run now events
  refine ⟨watched.noneLost k.sound (Monitor.numbered_exec fresh events), ?_⟩
  intro hr s hs
  apply Bool.eq_false_iff.mpr
  intro ha
  obtain ⟨-, t, ht, -⟩ := watched s hs ha
  rw [hr] at ht
  cases ht

-- A free lock with a parked writer: the writer that was woken has not run yet.
example :
    let events : List (Event (LockCall Nat)) :=
      [.start (.acquire .write 1 .infinite), .start (.acquire .write 2 .infinite),
        .start (.acquire .write 3 .infinite), .start (.release .write 1)]
    let room := (run .zero events).1
    room.state.writable = true ∧ room.parked.map (·.call.id) = [3] ∧
      room.ready.map (·.call.id) = [2] := by
  decide

end Lock

end BlockingSync
