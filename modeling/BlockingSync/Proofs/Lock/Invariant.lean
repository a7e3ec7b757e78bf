import BlockingSync.Lock.Session
import BlockingSync.Proofs.Lock.Books

namespace BlockingSync

namespace Lock

variable {ι : Type} [DecidableEq ι]

def upgraderAt : Option LockStage → ι → List ι
  | some .upgrader, id => [id]
  | _, _ => []

def upgraders (waiting : List (Suspended (LockCall ι) LockStage)) : List ι :=
  waiting.flatMap fun s => upgraderAt (some s.stage) s.call.id

omit [DecidableEq ι] in
theorem upgraders_cons (s : Suspended (LockCall ι) LockStage)
    (waiting : List (Suspended (LockCall ι) LockStage)) :
    upgraders (s :: waiting) = upgraderAt (some s.stage) s.call.id ++ upgraders waiting :=
  List.flatMap_cons

omit [DecidableEq ι] in
theorem upgraders_left (turn : LockTurn ι) (task : Nat) (call : LockCall ι)
    (waiting : List (Suspended (LockCall ι) LockStage)) :
    upgraders (turn.left task call ++ waiting) =
      upgraderAt turn.ending.stage? call.id ++ upgraders waiting := by
  rw [Turn.left]
  cases turn.ending with
  | waits stage => exact upgraders_cons _ _
  | returns result => rfl

omit [DecidableEq ι] in
theorem mem_upgraderAt {stage : LockStage} {id u : ι} :
    u ∈ upgraderAt (some stage) id ↔ stage = .upgrader ∧ id = u := by
  cases stage <;> simp [upgraderAt, eq_comm]

/-- The lock and the calls that have not returned fit together. -/
structure Sound (lock : Lock ι) (waiting : List (Suspended (LockCall ι) LockStage))
    (stray : Nat) : Prop where
  phase : lock.Phase stray
  waits : ∀ s ∈ waiting, WaitsAt s.call s.stage
  upgraders : upgraders waiting = lock.upgrading.toList

variable {lock claimed : Lock ι} {waiting others : List (Suspended (LockCall ι) LockStage)}
  {stray : Nat} {now : Instant} {place : Option LockStage} {id : ι} {call : LockCall ι}
  {turn : LockTurn ι}

theorem Sound.perm (h : Sound lock waiting stray) (hp : waiting.Perm others) :
    Sound lock others stray where
  phase := h.phase
  waits s hs := h.waits s (hp.mem_iff.mpr hs)
  upgraders := by
    have hu : (Lock.upgraders waiting).Perm (Lock.upgraders others) := hp.flatMap_right _
    rw [h.upgraders] at hu
    cases hl : lock.upgrading with
    | none =>
      rw [hl] at hu
      exact List.nil_perm.mp hu
    | some u =>
      rw [hl] at hu
      exact (List.singleton_perm.mp hu).symm

theorem Sound.upgrading_iff (h : Sound lock waiting stray) {u : ι} :
    lock.upgrading = some u ↔ ∃ s ∈ waiting, s.stage = .upgrader ∧ s.call.id = u := by
  rw [← Option.mem_toList, ← h.upgraders, Lock.upgraders, List.mem_flatMap]
  simp only [mem_upgraderAt]

omit [DecidableEq ι] in
theorem eq_some_of_cons_eq_toList {u : Option ι} {rest : List ι} (h : [id] ++ rest = u.toList) :
    rest = [] ∧ u = some id := by
  cases u with
  | none => cases h
  | some u =>
    cases h
    exact ⟨rfl, rfl⟩

theorem Outside.upgraderAt_eq_nil {stage : LockStage} (outside : Outside lock id stage place)
    (hs : stage ≠ .upgrader) : upgraderAt place id = [] := by
  cases outside with
  | newcomer => rfl
  | waiter =>
    cases stage with
    | reader | writer => rfl
    | upgrader => exact absurd rfl hs

theorem Claim.rest_eq_nil (claim : Claim lock id place claimed) (h : lock.Phase stray)
    {rest : List ι} (hu : upgraderAt place id ++ rest = lock.upgrading.toList) :
    rest = [] ∧ claimed.upgrading = some id := by
  cases claim with
  | fresh registered idle writers =>
    rw [(h.shared_of_writers writers).upgrading] at hu
    exact ⟨hu, rfl⟩
  | pending => exact eq_some_of_cons_eq_toList hu

theorem Move.upgrading (m : Move now lock place call turn) (h : lock.Phase stray) {rest : List ι}
    (hu : upgraderAt place call.id ++ rest = lock.upgrading.toList) :
    upgraderAt turn.ending.stage? call.id ++ rest = turn.state.upgrading.toList := by
  cases m with
  | readAgain => exact hu
  | readEnter outside | writeEnter outside =>
    rw [LockCall.id, outside.upgraderAt_eq_nil (by decide)] at hu
    exact hu
  | expire outside =>
    rw [LockCall.id, outside.upgraderAt_eq_nil (Mode.stage_ne_upgrader _)] at hu
    exact hu
  | @wait _ mode _ _ outside =>
    rw [LockCall.id, outside.upgraderAt_eq_nil mode.stage_ne_upgrader] at hu
    cases mode <;> exact hu
  | readUnheld => exact hu
  | readRelease => exact hu
  | readLeave => exact hu
  | writeAgain => exact hu
  | writeRefuse => exact hu
  | upgradeGrant claim | upgradeBack claim | upgradeWithdraw claim =>
    obtain ⟨rfl, -⟩ := claim.rest_eq_nil h hu
    rfl
  | upgradeWait claim =>
    obtain ⟨rfl, he⟩ := claim.rest_eq_nil h hu
    exact (congrArg Option.toList he).symm
  | writeUnheld => exact hu
  | writeRelease => exact hu
  | writeDowngrade => exact hu
  | writeLeave => exact hu

theorem Move.waitsAt (m : Move now lock place call turn) {stage : LockStage}
    (hw : turn.ending = .waits stage) : WaitsAt call stage := by
  cases m with
  | @wait _ mode _ _ _ _ _ =>
    cases hw
    cases mode <;> constructor
  | upgradeWait =>
    cases hw
    constructor
  | _ => cases hw

theorem Move.sound (m : Move now lock place call turn) (h : lock.Phase stray)
    (hw : ∀ s ∈ waiting, WaitsAt s.call s.stage)
    (hu : upgraderAt place call.id ++ Lock.upgraders waiting = lock.upgrading.toList) (task : Nat) :
    ∃ stray', Sound turn.state (turn.left task call ++ waiting) stray' ∧
      Effect lock stray call turn stray' := by
  have hplace : place = some .upgrader → lock.upgrading = some call.id := by
    rintro rfl
    exact (eq_some_of_cons_eq_toList hu).2
  obtain ⟨stray', hp, he⟩ := m.effect h hplace
  refine ⟨stray', ⟨hp, ?_, ?_⟩, he⟩
  · intro s hs
    obtain hs | hs := List.mem_append.mp hs
    · obtain ⟨-, hc, hk⟩ := Turn.mem_left.mp hs
      rw [hc]
      exact m.waitsAt hk
    · exact hw s hs
  · rw [upgraders_left]
    exact m.upgrading h hu

theorem Sound.start (h : Sound lock waiting stray) (now : Instant) (task : Nat)
    (call : LockCall ι) :
    ∃ stray', Sound (start now lock call).state ((start now lock call).left task call ++ waiting)
        stray' ∧
      Effect lock stray call (start now lock call) stray' :=
  (start_move h.phase now call).sound h.phase h.waits h.upgraders task

theorem Sound.resume {s : Suspended (LockCall ι) LockStage} (h : Sound lock (s :: waiting) stray)
    (now : Instant) :
    ∃ stray', Sound (resume now lock s.call s.stage).state
        ((resume now lock s.call s.stage).left s.task s.call ++ waiting) stray' ∧
      Effect lock stray s.call (resume now lock s.call s.stage) stray' := by
  refine (resume_move (h.waits s List.mem_cons_self) lock now).sound h.phase ?_ ?_ s.task
  · exact fun t ht => h.waits t (List.mem_cons_of_mem s ht)
  · rw [← upgraders_cons]
    exact h.upgraders

theorem sound_new : Sound (new : Lock ι) [] 0 where
  phase := .shared shared_new
  waits s hs := by cases hs
  upgraders := rfl

/-- What the turns keep of a lock, the calls that have not returned, and the number of strays, if a
call starts only beside calls that it is fit for. A call that has gone on is then fit to release
what its identity holds. -/
structure Preserved (fit : LockCall ι → List (Suspended (LockCall ι) LockStage) → Prop)
    (I : Lock ι → List (Suspended (LockCall ι) LockStage) → Nat → Prop) : Prop where
  sound : ∀ {lock waiting stray}, I lock waiting stray → Sound lock waiting stray
  perm : ∀ {lock waiting others stray}, waiting.Perm others → I lock waiting stray →
    I lock others stray
  start : ∀ {lock waiting stray} now task call, fit call waiting → I lock waiting stray →
    ∃ stray', I (start now lock call).state ((start now lock call).left task call ++ waiting)
        stray' ∧
      Effect lock stray call (start now lock call) stray'
  resume : ∀ {lock waiting stray} now s, I lock (s :: waiting) stray →
    ∃ stray', I (resume now lock s.call s.stage).state
        ((resume now lock s.call s.stage).left s.task s.call ++ waiting) stray' ∧
      Effect lock stray s.call (resume now lock s.call s.stage) stray'
  release : ∀ {lock waiting stray} s mode, I lock (s :: waiting) stray →
    fit (.release mode s.call.id) waiting

theorem preserved_sound : Preserved (fun (_ : LockCall ι) _ => True) Sound where
  sound h := h
  perm hp h := h.perm hp
  start now task call _ h := h.start now task call
  resume now _ h := h.resume now
  release _ _ _ := trivial

def run (now : Instant) (events : List (Event (LockCall ι))) : LockRoom ι × List (LockReport ι) :=
  (monitor ι).exec { state := new, now := now } events

theorem run_append (now : Instant) (events more : List (Event (LockCall ι))) :
    ((monitor ι).exec (run now events).1 more).1 = (run now (events ++ more)).1 := by
  rw [run, run, Monitor.exec_append]

theorem numbered_run (now : Instant) (events : List (Event (LockCall ι))) :
    Monitor.Numbered (run now events).1.suspended (run now events).1.next := by
  have fresh : ({ state := new, now := now } : LockRoom ι).suspended = [] := rfl
  exact Monitor.numbered_exec fresh events

variable {fit : LockCall ι → List (Suspended (LockCall ι) LockStage) → Prop}
  {I : Lock ι → List (Suspended (LockCall ι) LockStage) → Nat → Prop}
  {m : Monitor (Lock ι) (LockCall ι) LockStage LockCondition LockResult}

/-- What is preserved, and what the effects of the turns keep of the reports beside it, is kept in
the runs of every monitor with the turns of a lock that starts no call unless it is fit. -/
theorem Preserved.keeps (p : Preserved fit I) (hs : m.start = Lock.start)
    (hr : m.resume = Lock.resume)
    (fits : ∀ {call waiting}, (∀ s ∈ waiting, m.excludes call s.call = false) → fit call waiting)
    {Q : Lock ι → List (Suspended (LockCall ι) LockStage) → List (LockReport ι) → Nat → Prop}
    (perm : ∀ {lock waiting others reports stray}, I lock others stray →
      Q lock waiting reports stray → Q lock others reports stray)
    (turn : ∀ {lock waiting others reports stray call turn stray'} (task : Nat),
      I turn.state others stray' → Effect lock stray call turn stray' →
      Q lock waiting reports stray →
      Q turn.state others (reports ++ [⟨task, call, turn.outcome⟩]) stray') :
    m.Keeps fun lock waiting reports =>
      ∃ stray, I lock waiting stray ∧ Q lock waiting reports stray where
  perm := by
    rintro lock waiting others reports hp ⟨stray, h, q⟩
    have h' := p.perm hp h
    exact ⟨stray, h', perm h' q⟩
  start := by
    rintro lock waiting reports now task call free ⟨stray, h, q⟩
    obtain ⟨stray', h', e⟩ := p.start now task call (fits free) h
    rw [hs]
    exact ⟨stray', h', turn task h' e q⟩
  resume := by
    rintro lock waiting reports now s ⟨stray, h, q⟩
    obtain ⟨stray', h', e⟩ := p.resume now s h
    rw [hr]
    exact ⟨stray', h', turn s.task h' e q⟩

theorem keeps_sound {Q : Lock ι → List (LockReport ι) → Nat → Prop}
    (turn : ∀ {lock reports stray call turn stray'} (task : Nat), turn.state.Phase stray' →
      Effect lock stray call turn stray' → Q lock reports stray →
      Q turn.state (reports ++ [⟨task, call, turn.outcome⟩]) stray') :
    (monitor ι).Keeps fun lock waiting reports =>
      ∃ stray, Sound lock waiting stray ∧ Q lock reports stray :=
  preserved_sound.keeps rfl rfl (fun _ => trivial) (fun _ q => q)
    fun task sound e q => turn task sound.phase e q

theorem Sound.step {room : LockRoom ι} (sound : Sound room.state room.suspended stray)
    (event : Event (LockCall ι)) :
    ∃ stray', Sound ((monitor ι).step room event).1.state
      ((monitor ι).step room event).1.suspended stray' := by
  have keeps := keeps_sound (ι := ι) (Q := fun _ _ _ => True) fun _ _ _ _ => trivial
  obtain ⟨stray', sound', -⟩ :=
    keeps.change [] ((monitor ι).step_change room event) ⟨stray, sound, trivial⟩
  exact ⟨stray', sound'⟩

theorem not_busy (room : LockRoom ι) (call : LockCall ι) : (monitor ι).busy room call = false :=
  List.any_eq_false.mpr fun _ _ => Bool.false_ne_true

theorem report_start (room : LockRoom ι) (call : LockCall ι) :
    ((monitor ι).step room (.start call)).2 =
      some ⟨room.next, call, (start room.now room.state call).outcome⟩ :=
  (monitor ι).step_start (not_busy room call)

structure Kept (lock : Lock ι) (waiting : List (Suspended (LockCall ι) LockStage))
    (reports : List (LockReport ι)) (stray : Nat) : Prop where
  sound : Sound lock waiting stray
  books : Books lock reports stray
  size : lock.holders.size + stray ≤ successes LockCall.isAcquire reports
  noFault : ∀ r ∈ reports, ∀ f, r.outcome ≠ .returned (.fault f)

theorem Kept.next {reports : List (LockReport ι)} {others : List (Suspended (LockCall ι) LockStage)}
    {stray' : Nat} (h : Kept lock waiting reports stray) (hs : Sound turn.state others stray')
    (he : Effect lock stray call turn stray') (task : Nat) :
    Kept turn.state others (reports ++ [⟨task, call, turn.outcome⟩]) stray' where
  sound := hs
  books := h.books.effect he task
  size := he.size_le task h.size
  noFault r hr := by
    obtain hr | hr := List.mem_append.mp hr
    · exact h.noFault r hr
    · obtain rfl := List.mem_singleton.mp hr
      exact he.noFault

theorem kept_new : Kept (new : Lock ι) [] [] 0 where
  sound := sound_new
  books := books_new
  size := Nat.le_refl 0
  noFault r hr := by cases hr

theorem Preserved.keeps_kept (p : Preserved fit I) (hs : m.start = Lock.start)
    (hr : m.resume = Lock.resume)
    (fits : ∀ {call waiting}, (∀ s ∈ waiting, m.excludes call s.call = false) → fit call waiting) :
    m.Keeps fun lock waiting reports =>
      ∃ stray, I lock waiting stray ∧ Kept lock waiting reports stray :=
  p.keeps hs hr fits (fun h k => { k with sound := p.sound h })
    fun task h e k => k.next (p.sound h) e task

theorem keeps_kept : (monitor ι).Keeps fun lock waiting reports =>
    ∃ stray, Sound lock waiting stray ∧ Kept lock waiting reports stray :=
  preserved_sound.keeps_kept rfl rfl fun _ => trivial

theorem kept_run (now : Instant) (events : List (Event (LockCall ι))) :
    ∃ stray, Kept (run now events).1.state (run now events).1.suspended
      (run now events).2 stray := by
  obtain ⟨stray, -, k⟩ : ∃ stray, _ ∧
      Kept (run now events).1.state (run now events).1.suspended (run now events).2 stray :=
    keeps_kept.exec ⟨0, sound_new, kept_new⟩ events
  exact ⟨stray, k⟩

end Lock

end BlockingSync
