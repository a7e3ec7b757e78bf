import Mathlib
import BlockingSync.Guarded.Provider
import BlockingSync.Proofs.Guarded.Drop
import BlockingSync.Proofs.Lock.Single

namespace BlockingSync

variable {τ ν ι : Type}

/-- What guards hold: as many locks as there are guards of each mode. -/
def HeldCounts.ofGuards (guards : List (Guard τ ν ι)) : Option HeldCounts :=
  let reads := guards.countP (·.mode = .read)
  let writes := guards.countP (·.mode = .write)
  if 0 < reads + writes then some { reads := reads, writes := writes } else none

inductive GuardResult.Idle : Outcome GuardResult → Prop
  | waiting : Idle .waiting
  | failed (error : LockError) : Idle (.returned (.failed error))

namespace GuardedLock

variable [DecidableEq τ]

def own (thread : τ) (g : GuardedLock τ ν ι) : List (Guard τ ν ι) :=
  g.guards.filter (·.thread = thread)

variable [DecidableEq ν] {g : GuardedLock τ ν ι} {thread other : τ} {name : ν}

theorem own_without (hne : other ≠ thread) :
    (g.without other name).filter (·.thread = thread) = g.own thread := by
  rw [GuardedLock.without, List.filter_filter]
  apply List.filter_congr
  intro guard _
  by_cases ht : guard.thread = thread
  · have ho : guard.thread ≠ other := fun he => hne (he.symm.trans ht)
    simp [ht, Ne.symm hne]
  · simp [ht]

variable [DecidableEq ι] {who : τ → ι} {lock : Lock ι} {guard : Guard τ ν ι}
  {guards : List (Guard τ ν ι)} {turn : GuardTurn τ ν ι}

inductive Handles (g : GuardedLock τ ν ι) (thread : τ) (turn : GuardTurn τ ν ι) : Prop
  | take (guard : Guard τ ν ι) (lockTurn : LockTurn ι) (h : guard.thread = thread)
      (eq : turn = g.guarding guard lockTurn)
  | drop (name : ν) (eq : turn = g.drop thread name)
  | leave (same : turn.state.guards = g.guards)

theorem turn_handles (who : τ → ι) (now : Instant) (g : GuardedLock τ ν ι) (call : GuardCall τ ν)
    (place : Option LockStage) : g.Handles call.thread ((monitor who).turn now g call place) := by
  cases place with
  | none =>
    cases call with
    | take => exact .take _ _ rfl rfl
    | drop => exact .drop _ rfl
    | acquire | release => exact .leave rfl
  | some stage =>
    cases call with
    | take => exact .take _ _ rfl rfl
    | drop | acquire | release => exact .leave rfl

theorem Handles.own_eq (h : g.Handles other turn) (hne : other ≠ thread) :
    turn.state.own thread = g.own thread := by
  cases h with
  | take guard lockTurn ht eq =>
    rw [← ht] at hne
    by_cases ok : lockTurn.outcome = .returned .ok
    · rw [eq, guarding_of_ok ok, own, keep_guards, List.filter_append, own_without hne]
      simp [hne]
    · rw [eq, guarding_of_ne ok]
      rfl
  | drop name eq =>
    rw [eq, GuardedLock.drop]
    cases g.guard? other name with
    | none => rfl
    | some old => exact own_without hne
  | leave same => rw [own, same, own]

omit [DecidableEq τ] [DecidableEq ν] in
theorem dropGuard_not_idle : ¬ GuardResult.Idle (dropGuard lock guards guard).outcome := by
  obtain h | h | ⟨fault, h⟩ := lock.release_returned guard.mode guard.id
  all_goals
    rw [dropGuard, Turn.lift_outcome h]
    intro idle
    cases idle

theorem keep_not_idle : ¬ GuardResult.Idle (g.keep lock guard).outcome := by
  rw [GuardedLock.keep]
  cases g.guard? guard.thread guard.name with
  | none =>
    intro idle
    cases idle
  | some old => exact dropGuard_not_idle

theorem Handles.guards_eq (h : g.Handles thread turn) (idle : GuardResult.Idle turn.outcome) :
    turn.state.guards = g.guards := by
  cases h with
  | take guard lockTurn ht eq =>
    by_cases ok : lockTurn.outcome = .returned .ok
    · rw [eq, guarding_of_ok ok] at idle
      exact absurd idle keep_not_idle
    · rw [eq, guarding_of_ne ok]
      rfl
  | drop name eq =>
    rw [eq, GuardedLock.drop] at idle ⊢
    cases hg : g.guard? thread name with
    | none => rfl
    | some old =>
      rw [hg] at idle
      exact absurd idle dropGuard_not_idle
  | leave same => exact same

theorem owns_own (who : τ → ι) (thread : τ) :
    (monitor (ν := ν) who).Owns (·.thread = thread) (own thread) GuardResult.Idle where
  alone hc ho := decide_eq_true (hc.trans ho.symm)
  others now g call place hne := (turn_handles who now g call place).own_eq hne
  waiting := .waiting
  idle now g call place h := by
    rw [own, (turn_handles who now g call place).guards_eq h, own]

variable {waiting : List (Suspended (GuardCall τ ν) LockStage)} {reports : List (GuardReport τ ν)}

/-- The registry and the guards of a lock agree, and a call that fails leaves both as they were. -/
structure Agreement (who : τ → ι) (room : Room (GuardedLock τ ν ι) (GuardCall τ ν) LockStage)
    (reports : List (GuardReport τ ν)) : Prop where
  heldBy : ∀ thread,
    room.state.lock.heldBy (who thread) = HeldCounts.ofGuards (room.state.own thread)
  /-- A guard is live from the return of the call that takes it until it is dropped or replaced. -/
  taken : room.state.guards = guardsOf who reports
  drops : ∀ mode, Drops who mode room reports
  failed : ∀ call more error, onlyGuards (.start call :: more) = true →
    let later := (monitor who).exec room (.start call :: more)
    later.2.getLast? = some ⟨room.next, call, .returned (.failed error)⟩ →
      later.1.state.own call.thread = room.state.own call.thread ∧
        later.1.state.lock.heldBy (who call.thread) = room.state.lock.heldBy (who call.thread)
  free : room.state.guards = [] → room.suspended = [] →
    room.state.lock.state = { readers := 0, writers := 0, canRead := true, holders := 0 }

omit [DecidableEq ν] [DecidableEq ι] in
theorem countP_own (thread : τ) (g : GuardedLock τ ν ι) (mode : Mode) :
    (g.own thread).countP (·.mode = mode) =
      g.guards.countP fun guard => guard.mode = mode ∧ guard.thread = thread := by
  rw [own, List.countP_filter]
  simp

omit [DecidableEq ν] in
theorem live_eq_own (inj : Function.Injective who) (o : Orderly who g.guards) (mode : Mode)
    (thread : τ) : live g.guards mode (who thread) = (g.own thread).countP (·.mode = mode) := by
  rw [countP_own, live]
  apply List.countP_congr
  intro guard hg
  rw [decide_eq_true_eq, decide_eq_true_eq, o.ids guard hg, inj.eq_iff]

theorem heldBy_eq_ofGuards (inj : Function.Injective who) (b : Tallied who g waiting reports 0)
    (sound : Lock.Sound g.lock (onLock who waiting) 0)
    (reading : Lock.Reading g.lock (onLock who waiting)) (thread : τ) :
    g.lock.heldBy (who thread) = HeldCounts.ofGuards (g.own thread) := by
  have count : ∀ mode, (g.lock.held (who thread)).count mode =
      (g.own thread).countP (·.mode = mode) := by
    intro mode
    rw [b.tally mode _ (Or.inr rfl), live_eq_own inj b.orderly]
  have held : g.lock.held (who thread) = {
      reads := (g.own thread).countP (·.mode = .read)
      writes := (g.own thread).countP (·.mode = .write) } := by
    ext mode
    rw [count]
    cases mode <;> rfl
  rw [HeldCounts.ofGuards, ← count .read, ← count .write]
  split
  · next hpos =>
    rw [count, count, ← held]
    obtain hr | hw := Nat.add_pos_iff_pos_or_pos.mp hpos
    · exact Lock.heldBy_of_pos hr
    · exact Lock.heldBy_of_pos hw
  · next hz =>
    have zero : ∀ mode, (g.lock.held (who thread)).count mode = 0 := by
      rintro (_ | _) <;> omega
    refine (sound.phase.heldBy_eq_none_iff _).mpr ⟨zero, ?_⟩
    intro hu
    obtain ⟨s, hs, hk, hi⟩ := sound.upgrading_iff.mp hu
    have hr := reading s hs hk
    rw [hi] at hr
    exact Nat.ne_of_gt hr (zero .read)

theorem free_of_no_guards (b : Tallied who g [] reports 0) (sound : Lock.Sound g.lock [] 0)
    (hg : g.guards = []) :
    g.lock.state = { readers := 0, writers := 0, canRead := true, holders := 0 } := by
  have hu : g.lock.upgrading = none := by
    have := sound.upgraders
    cases h : g.lock.upgrading with
    | none => rfl
    | some u => simp [Lock.upgraders, h] at this
  have none : ∀ id, g.lock.heldBy id = none := by
    intro id
    refine (sound.phase.heldBy_eq_none_iff id).mpr ⟨?_, by simp [hu]⟩
    intro mode
    rw [b.tally mode id (Or.inr rfl), hg]
    rfl
  have entries : g.lock.holders.entries = [] := by
    apply List.eq_nil_iff_forall_not_mem.mpr
    intro e he
    have hs := Registry.get?_of_mem_entries he
    rw [show g.lock.holders.get? e.1 = _ from none e.1] at hs
    cases hs
  rw [sound.phase.state_eq, Lock.summary, entries, hu, Registry.size, entries]
  rfl

theorem fit_of_thread (inj : Function.Injective who) {call : GuardCall τ ν} {request : LockCall ι}
    (free : ∀ s ∈ waiting, ((monitor who).separated fun _ _ => false).excludes call s.call = false)
    (asks : call.Asks who request) : ∀ s ∈ onLock who waiting, s.call.id ≠ request.id := by
  intro s hs he
  obtain ⟨t, ht, hr, -, -⟩ := mem_onLock.mp hs
  have hx := (Bool.or_eq_false_iff.mp (free t ht)).1
  rw [id_of_acquisition hr, id_of_asks asks] at he
  exact of_decide_eq_false hx (inj he).symm

theorem threads_run (inj : Function.Injective who) (now : Instant)
    {events : List (Event (GuardCall τ ν))} (guarded : onlyGuards events = true) :
    Lock.Sound (run who now events).1.state.lock (onLock who (run who now events).1.suspended) 0 ∧
      Lock.Reading (run who now events).1.state.lock
        (onLock who (run who now events).1.suspended) ∧
      Tallied who (run who now events).1.state (run who now events).1.suspended
        (run who now events).2 0 := by
  obtain ⟨stray, ⟨⟨sound, rfl, -⟩, -, reading⟩, b⟩ :=
    tallied_run Lock.preserved_single
      ⟨⟨Lock.sound_new, rfl, Lock.lone_new⟩, Lock.single_new, fun _ hs => nomatch hs⟩
      (fit_of_thread inj) guarded
      ((monitor who).keepsApart_never { state := {}, now := now } events)
  exact ⟨sound, reading, b⟩

/-- If every thread has an identity of its own, the registry and the live guards agree in every
state that a run through guards reaches. -/
theorem guards_match_registry (inj : Function.Injective who) (now : Instant)
    {events : List (Event (GuardCall τ ν))} (guarded : onlyGuards events = true) :
    Agreement who (run who now events).1 (run who now events).2 := by
  obtain ⟨sound, reading, b⟩ := threads_run inj now guarded
  have heldBy := heldBy_eq_ofGuards inj b sound reading
  refine ⟨heldBy, b.taken, fun mode => b.drops sound.phase (Or.inr rfl), ?_, ?_⟩
  · intro call more error guarded' later last
    have numbered : Monitor.Numbered (run who now events).1.suspended (run who now events).1.next :=
      Monitor.numbered_exec rfl events
    have same := (owns_own who call.thread).exec numbered rfl (.failed error) last
    refine ⟨same, ?_⟩
    -- the registry agrees with the guards before and after, and these are the same
    have guarded'' : onlyGuards (events ++ .start call :: more) = true :=
      List.all_append.trans (Bool.and_eq_true_iff.mpr ⟨guarded, guarded'⟩)
    obtain ⟨sound', reading', b'⟩ := threads_run inj now guarded''
    have hl : (run who now (events ++ .start call :: more)).1 = later.1 := by
      rw [run, Monitor.exec_append]
      rfl
    have heldBy' := heldBy_eq_ofGuards inj b' sound' reading' call.thread
    rw [hl] at heldBy'
    rw [heldBy', heldBy, same]
  · intro hg hs
    rw [hs] at b sound
    exact free_of_no_guards b sound hg

def twoReadersEvents : List (Event (GuardCall String String)) :=
  [.start (.take .read "a" "x" .infinite), .start (.take .read "b" "x" .infinite)]

def upgradeCall : GuardCall String String :=
  .take .write "a" "y" (.after .zero { Duration.zero with secs := 1 })

/-- While the upgrade is pending, that of the other thread is refused, and it reads once more. -/
def rivalryEvents : List (Event (GuardCall String String)) :=
  [.start (.take .write "b" "y" .infinite), .start (.take .read "b" "z" .infinite),
    .advance { Duration.zero with secs := 2 }, .run 2]

theorem guards_match_registry_rivalry :
    let who := Provider.thread.identify
    let events := twoReadersEvents ++ .start upgradeCall :: rivalryEvents
    Function.Injective who ∧ onlyGuards events = true ∧
      (run who .zero events).1.state.lock.heldBy "b" = some { reads := 2 } ∧
      ((monitor who).exec (run who .zero twoReadersEvents).1
        (.start upgradeCall :: rivalryEvents)).1.state.lock.heldBy "a" = some { reads := 1 } := by
  intro who events
  have inj : Function.Injective who := fun _ _ h => h
  have guarded : onlyGuards twoReadersEvents = true := by decide
  have guarded' : onlyGuards events = true := by decide
  have after := guards_match_registry inj .zero guarded'
  have before := guards_match_registry inj .zero guarded
  have failed := before.failed upgradeCall rivalryEvents (.timedOut .write) (by decide) (by cbv)
  refine ⟨inj, guarded', (after.heldBy "b").trans (by cbv), ?_⟩
  exact failed.2.trans ((before.heldBy "a").trans (by decide))

end GuardedLock

end BlockingSync
