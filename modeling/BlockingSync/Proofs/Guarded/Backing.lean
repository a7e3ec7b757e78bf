import BlockingSync.Proofs.Guarded.Tally
import BlockingSync.Proofs.Monitor.Apart
import BlockingSync.Proofs.Monitor.Calls

namespace BlockingSync

variable {τ ν ι : Type}

def GuardCall.isGuarded : GuardCall τ ν → Bool
  | take .. | drop .. => true
  | acquire .. | release .. => false

def GuardCall.acquisition? (who : τ → ι) : GuardCall τ ν → Option (LockCall ι)
  | take mode thread _ timeout | acquire mode thread timeout =>
    some (.acquire mode (who thread) timeout)
  | drop .. | release .. => none

inductive GuardCall.Asks (who : τ → ι) (call : GuardCall τ ν) : LockCall ι → Prop
  | acquire {request : LockCall ι} (h : call.acquisition? who = some request) :
      Asks who call request
  | release (mode : Mode) : Asks who call (.release mode (who call.thread))

namespace GuardedLock

def onLock (who : τ → ι) (waiting : List (Suspended (GuardCall τ ν) LockStage)) :
    List (Suspended (LockCall ι) LockStage) :=
  waiting.filterMap fun s => (s.call.acquisition? who).map (⟨s.task, ·, s.stage⟩)

variable {who : τ → ι} {waiting others : List (Suspended (GuardCall τ ν) LockStage)}

theorem onLock_perm (h : waiting.Perm others) : (onLock who waiting).Perm (onLock who others) :=
  h.filterMap _

theorem onLock_take (task : Nat) (mode : Mode) (thread : τ) (name : ν) (timeout : Timeout)
    (stage : LockStage) :
    onLock who (⟨task, .take mode thread name timeout, stage⟩ :: waiting) =
      ⟨task, .acquire mode (who thread) timeout, stage⟩ :: onLock who waiting :=
  rfl

theorem mem_onLock {s : Suspended (LockCall ι) LockStage} :
    s ∈ onLock who waiting ↔ ∃ t ∈ waiting, t.call.acquisition? who = some s.call ∧
      t.task = s.task ∧ t.stage = s.stage := by
  simp only [onLock, List.mem_filterMap, Option.map_eq_some_iff]
  constructor
  · rintro ⟨t, ht, call, hc, rfl⟩
    exact ⟨t, ht, hc, rfl, rfl⟩
  · rintro ⟨t, ht, hc, hn, hk⟩
    exact ⟨t, ht, s.call, hc, by rw [hn, hk]⟩

theorem id_of_acquisition {call : GuardCall τ ν} {request : LockCall ι}
    (h : call.acquisition? who = some request) : request.id = who call.thread := by
  cases call with
  | take | acquire =>
    obtain rfl := Option.some.inj h
    rfl
  | drop | release => cases h

theorem id_of_asks {call : GuardCall τ ν} {request : LockCall ι} (h : call.Asks who request) :
    request.id = who call.thread := by
  cases h with
  | acquire h => exact id_of_acquisition h
  | release => rfl

variable [DecidableEq ι] {lock : Lock ι} {guard old : Guard τ ν ι} {guards : List (Guard τ ν ι)}
  {stray stray' : Nat} {turn : LockTurn ι} {timeout : Timeout}

/-- A take that ends so has left its guard. The guard that had its name may have been without a
lock. -/
def leavesGuard : Outcome GuardResult → Bool
  | .returned .ok | .returned (.unheld _) => true
  | _ => false

theorem returned_of_leavesGuard {outcome : Outcome GuardResult} (h : leavesGuard outcome = true) :
    ∃ result, outcome = .returned result := by
  cases outcome with
  | waiting => cases h
  | returned result => exact ⟨result, rfl⟩

omit [DecidableEq ι] in
theorem leavesGuard_lift (h : turn.outcome ≠ .returned .ok) (state : Lock ι → GuardedLock τ ν ι) :
    leavesGuard (turn.lift state .ofLock).outcome = false := by
  rw [Turn.outcome, Turn.lift]
  cases he : turn.ending with
  | waits stage => rfl
  | returns result =>
    cases result with
    | ok => exact absurd (Turn.outcome_eq_returned.mpr he) h
    | failed | fault => rfl

/-- What the outcome of a call says of the locks behind the guards: none was missing, but for the
read locks while readers stray. -/
structure Clean (outcome : Outcome GuardResult) (stray : Nat) : Prop where
  unheld : ∀ mode, mode = .write ∨ stray = 0 → outcome ≠ .returned (.unheld mode)
  noFault : ∀ fault, outcome ≠ .returned (.fault fault)

theorem Clean.mono {outcome : Outcome GuardResult} (h : Clean outcome stray)
    (hs : stray ≤ stray') : Clean outcome stray' where
  unheld mode hm := h.unheld mode (hm.imp_right fun hz => by omega)
  noFault := h.noFault

theorem clean_waiting : Clean .waiting stray where
  unheld _ _ h := by cases h
  noFault _ h := by cases h

theorem clean_returned {result : GuardResult} (unheld : ∀ mode, result ≠ .unheld mode)
    (noFault : ∀ fault, result ≠ .fault fault) : Clean (.returned result) stray where
  unheld mode _ h := unheld mode (Outcome.returned.inj h)
  noFault fault h := noFault fault (Outcome.returned.inj h)

structure Settled (I : Lock ι → List (Suspended (LockCall ι) LockStage) → Nat → Prop)
    (waiting : List (Suspended (LockCall ι) LockStage)) (stray : Nat) (turn : GuardTurn τ ν ι)
    (stray' : Nat) : Prop where
  lock : I turn.state.lock waiting stray'
  tally : Tally turn.state.lock turn.state.guards stray'
  stray_le : stray ≤ stray'
  clean : Clean turn.outcome stray'
  left : leavesGuard turn.outcome = true

variable {fit : LockCall ι → List (Suspended (LockCall ι) LockStage) → Prop}
  {I : Lock ι → List (Suspended (LockCall ι) LockStage) → Nat → Prop}
  {asking : List (Suspended (LockCall ι) LockStage)}

theorem dropGuard_settled (p : Lock.Preserved fit I) (h : I lock asking stray)
    (tally : Tally lock (old :: guards) stray) (hf : fit (.release old.mode old.id) asking) :
    ∃ stray', Settled I asking stray (dropGuard lock guards old) stray' := by
  have m := Lock.start_move (p.sound h).phase .zero (.release old.mode old.id)
  have ho : (lock.release old.mode old.id).outcome = _ := m.release_outcome
  obtain ⟨stray', h', e⟩ := p.start .zero 0 (.release old.mode old.id) hf h
  have hd : (dropGuard lock guards old).outcome = _ := Turn.lift_outcome ho _ _
  refine ⟨stray', ?_, tally.released e m, e.stray_le, ⟨?_, ?_⟩, ?_⟩
  · rw [Turn.left_eq_nil m.release_outcome] at h'
    exact h'
  · intro mode hm hu
    rw [hd] at hu
    split at hu
    · next hz =>
      obtain rfl : old.mode = mode := by simpa [GuardResult.ofRelease] using hu
      have hle := e.stray_le
      have hs : old.mode = .write ∨ stray = 0 := hm.imp_right fun hz => by omega
      exact absurd hz (Nat.ne_of_gt (tally.count_pos List.mem_cons_self hs))
    · cases hu
  · intro fault hu
    rw [hd] at hu
    split at hu <;> cases hu
  · rw [hd]
    split <;> rfl

variable [DecidableEq τ] [DecidableEq ν] {g : GuardedLock τ ν ι}

theorem keep_guards (g : GuardedLock τ ν ι) (lock : Lock ι) (guard : Guard τ ν ι) :
    (g.keep lock guard).state.guards = g.without guard.thread guard.name ++ [guard] := by
  rw [GuardedLock.keep]
  cases g.guard? guard.thread guard.name <;> rfl

theorem keep_settled (p : Lock.Preserved fit I) (h : I lock asking stray)
    (tally : Tally lock (guard :: g.guards) stray) (o : Orderly who g.guards)
    (hf : ∀ mode, fit (.release mode (who guard.thread)) asking) :
    ∃ stray', Settled I asking stray (g.keep lock guard) stray' := by
  rw [GuardedLock.keep]
  cases hg : g.guard? guard.thread guard.name with
  | none =>
    have clean : Clean (.returned .ok) stray := clean_returned (by simp) (by simp)
    refine ⟨stray, h, tally.perm ?_, Nat.le_refl _, clean, rfl⟩
    rw [without_of_none hg]
    exact (List.perm_append_singleton ..).symm
  | some old =>
    -- the new guard is kept before the one that had its name is dropped
    obtain ⟨ho, ht, -⟩ := of_guard?_eq_some hg
    refine dropGuard_settled p h (tally.perm ?_) ?_
    · refine ((o.perm_without hg).cons guard).trans ((List.Perm.swap old guard _).trans ?_)
      exact (List.perm_append_singleton guard _).symm.cons old
    · rw [o.ids old ho, ht]
      exact hf old.mode

theorem guarding_of_ok (h : turn.outcome = .returned .ok) (g : GuardedLock τ ν ι)
    (guard : Guard τ ν ι) :
    g.guarding guard turn =
      let kept := g.keep turn.state guard
      { kept with signals := turn.signals ++ kept.signals } := by
  rw [guarding, Turn.outcome_eq_returned.mp h]

theorem guarding_of_ne (h : turn.outcome ≠ .returned .ok) (g : GuardedLock τ ν ι)
    (guard : Guard τ ν ι) : g.guarding guard turn = turn.lift (⟨·, g.guards⟩) .ofLock := by
  rw [guarding]
  split
  · next he => exact absurd (Turn.outcome_eq_returned.mpr he) h
  · rfl

omit [DecidableEq τ] [DecidableEq ν] [DecidableEq ι] in
theorem onLock_left (turn : LockTurn ι) (state : Lock ι → GuardedLock τ ν ι)
    (result : LockResult → GuardResult) (task : Nat) (mode : Mode) (thread : τ) (name : ν)
    (timeout : Timeout) :
    onLock who ((turn.lift state result).left task (.take mode thread name timeout) ++ waiting) =
      turn.left task (.acquire mode (who thread) timeout) ++ onLock who waiting := by
  rw [Turn.left, Turn.left, Turn.lift]
  cases turn.ending <;> rfl

omit [DecidableEq τ] [DecidableEq ν] [DecidableEq ι] in
theorem clean_lift (noFault : ∀ fault, turn.outcome ≠ .returned (.fault fault))
    (state : Lock ι → GuardedLock τ ν ι) : Clean (turn.lift state .ofLock).outcome stray := by
  rw [Turn.outcome, Turn.lift]
  cases he : turn.ending with
  | waits stage => exact clean_waiting
  | returns result =>
    cases result with
    | ok | failed =>
      exact clean_returned (by simp [GuardResult.ofLock]) (by simp [GuardResult.ofLock])
    | fault fault => exact absurd (Turn.outcome_eq_returned.mpr he) (noFault fault)

abbrev GuardReport (τ ν : Type) := Report (GuardCall τ ν) GuardResult

/-- The live guards after a report. A guard that has been taken replaces the one of its name, and
one that has been dropped is gone. -/
def afterReport (who : τ → ι) (guards : List (Guard τ ν ι)) (report : GuardReport τ ν) :
    List (Guard τ ν ι) :=
  let others := fun thread name =>
    guards.filter fun guard => ¬(guard.thread = thread ∧ guard.name = name)
  match report.call with
  | .take mode thread name _ =>
    if leavesGuard report.outcome then others thread name ++ [⟨thread, name, mode, who thread⟩]
    else guards
  | .drop thread name => others thread name
  | .acquire .. | .release .. => guards

/-- The guards that were taken in a run, and neither dropped nor replaced since. -/
def guardsOf (who : τ → ι) (reports : List (GuardReport τ ν)) : List (Guard τ ν ι) :=
  reports.foldl (afterReport who) []

section taken

variable {reports : List (GuardReport τ ν)} {outcome : Outcome GuardResult} {task : Nat}
  {mode : Mode} {thread : τ} {name : ν}

omit [DecidableEq ι] in
theorem guardsOf_concat (report : GuardReport τ ν) :
    guardsOf who (reports ++ [report]) = afterReport who (guardsOf who reports) report :=
  List.foldl_concat ..

omit [DecidableEq ι] in
theorem guardsOf_take (taken : g.guards = guardsOf who reports) (left : leavesGuard outcome = true) :
    guardsOf who (reports ++ [⟨task, .take mode thread name timeout, outcome⟩]) =
      g.without thread name ++ [⟨thread, name, mode, who thread⟩] := by
  rw [guardsOf_concat, ← taken]
  exact if_pos left

omit [DecidableEq ι] in
theorem guardsOf_take_idle (taken : g.guards = guardsOf who reports)
    (idle : leavesGuard outcome = false) :
    guardsOf who (reports ++ [⟨task, .take mode thread name timeout, outcome⟩]) = g.guards := by
  rw [guardsOf_concat, ← taken]
  exact if_neg (Bool.eq_false_iff.mp idle)

omit [DecidableEq ι] in
theorem guardsOf_drop (taken : g.guards = guardsOf who reports) :
    guardsOf who (reports ++ [⟨task, .drop thread name, outcome⟩]) = g.without thread name := by
  rw [guardsOf_concat, ← taken]
  rfl

end taken

/-- The guards, the waiting calls and the reports of a lock that is used through guards only. Each
guard stands for one lock that the registry holds for its identity. A reader that strays breaks this
for the read guards, but never for the write guards. -/
structure Tallied (who : τ → ι) (g : GuardedLock τ ν ι)
    (waiting : List (Suspended (GuardCall τ ν) LockStage)) (reports : List (GuardReport τ ν))
    (stray : Nat) : Prop where
  tally : Tally g.lock g.guards stray
  orderly : Orderly who g.guards
  taken : g.guards = guardsOf who reports
  takes : ∀ s ∈ waiting, ∃ mode thread name timeout, s.call = .take mode thread name timeout
  clean : ∀ r ∈ reports, Clean r.outcome stray

variable {reports : List (GuardReport τ ν)} {mode : Mode} {thread : τ} {name : ν}

theorem Tallied.clean_report (b : Tallied who g waiting reports stray) (hs : stray ≤ stray')
    {report : GuardReport τ ν} (hc : Clean report.outcome stray') :
    ∀ r ∈ reports ++ [report], Clean r.outcome stray' := by
  intro r hr
  obtain hr | hr := List.mem_append.mp hr
  · exact (b.clean r hr).mono hs
  · rwa [List.mem_singleton.mp hr]

theorem Tallied.drop (b : Tallied who g waiting reports stray) (p : Lock.Preserved fit I)
    (h : I g.lock (onLock who waiting) stray)
    (hf : ∀ mode, fit (.release mode (who thread)) (onLock who waiting)) (task : Nat) :
    let call := .drop thread name
    let turn := g.drop thread name
    ∃ stray', I turn.state.lock (onLock who (turn.left task call ++ waiting)) stray' ∧
      Tallied who turn.state (turn.left task call ++ waiting)
        (reports ++ [⟨task, call, turn.outcome⟩]) stray' := by
  rw [GuardedLock.drop]
  cases hg : g.guard? thread name with
  | none =>
    refine ⟨stray, h, b.tally, b.orderly, ?_, b.takes, ?_⟩
    · exact (without_of_none hg).symm.trans (guardsOf_drop b.taken).symm
    · exact b.clean_report (Nat.le_refl _) (clean_returned (by simp) (by simp))
  | some old =>
    obtain ⟨ho, ht, -⟩ := of_guard?_eq_some hg
    have hf' : fit (.release old.mode old.id) (onLock who waiting) := by
      rw [b.orderly.ids old ho, ht]
      exact hf old.mode
    obtain ⟨stray', settled⟩ :=
      dropGuard_settled p h (b.tally.perm (b.orderly.perm_without hg)) hf'
    obtain ⟨result, hr⟩ := returned_of_leavesGuard settled.left
    dsimp only
    rw [Turn.left_eq_nil hr]
    exact ⟨stray', settled.lock, settled.tally, b.orderly.without thread name,
      (guardsOf_drop b.taken).symm, b.takes, b.clean_report settled.stray_le settled.clean⟩

theorem Tallied.take (b : Tallied who g waiting reports stray) (p : Lock.Preserved fit I)
    {task : Nat}
    (h : I turn.state (turn.left task (.acquire mode (who thread) timeout) ++ onLock who waiting)
      stray')
    (e : Lock.Effect g.lock stray (.acquire mode (who thread) timeout) turn stray')
    (hf : ∀ mode, fit (.release mode (who thread)) (onLock who waiting)) :
    let call := .take mode thread name timeout
    let after := g.guarding ⟨thread, name, mode, who thread⟩ turn
    ∃ stray', I after.state.lock (onLock who (after.left task call ++ waiting)) stray' ∧
      Tallied who after.state (after.left task call ++ waiting)
        (reports ++ [⟨task, call, after.outcome⟩]) stray' := by
  intro call after
  by_cases ok : turn.outcome = .returned .ok
  · let guard : Guard τ ν ι := ⟨thread, name, mode, who thread⟩
    have tally : Tally turn.state (guard :: g.guards) stray' := b.tally.granted e ok
    rw [Turn.left_eq_nil ok] at h
    obtain ⟨stray'', settled⟩ := keep_settled p h tally b.orderly hf
    have ha : after = _ := guarding_of_ok ok g guard
    obtain ⟨result, hr⟩ := returned_of_leavesGuard settled.left
    have hl : after.left task call = [] := by
      rw [ha]
      exact Turn.left_eq_nil hr task call
    have hk := keep_guards g turn.state guard
    rw [hl, ha]
    refine ⟨stray'', settled.lock, settled.tally, ?_, ?_, b.takes, ?_⟩
    · dsimp only
      rw [hk]
      exact b.orderly.keep rfl
    · exact hk.trans (guardsOf_take b.taken settled.left).symm
    · exact b.clean_report (Nat.le_trans e.stray_le settled.stray_le) settled.clean
  · have ha : after = _ := guarding_of_ne ok g ⟨thread, name, mode, who thread⟩
    have tally : Tally turn.state g.guards stray' := b.tally.idle e ok
    rw [ha]
    refine ⟨stray', ?_, tally, b.orderly, ?_, ?_,
      b.clean_report e.stray_le (clean_lift e.noFault _)⟩
    · rw [onLock_left]
      exact h
    · exact (guardsOf_take_idle b.taken (leavesGuard_lift ok _)).symm
    · intro s hs
      obtain hl | hs := List.mem_append.mp hs
      · exact ⟨mode, thread, name, timeout, (Turn.mem_left.mp hl).2.1⟩
      · exact b.takes s hs

def run (who : τ → ι) (now : Instant) (events : List (Event (GuardCall τ ν))) :
    Room (GuardedLock τ ν ι) (GuardCall τ ν) LockStage × List (GuardReport τ ν) :=
  (monitor who).exec { state := {}, now := now } events

/-- The lock is not acquired or released but through guards. -/
def onlyGuards (events : List (Event (GuardCall τ ν))) : Bool :=
  events.all fun event =>
    match event with
    | .start call => call.isGuarded
    | _ => true

variable {apart : GuardCall τ ν → GuardCall τ ν → Bool}

theorem keeps_tallied (p : Lock.Preserved fit I)
    (fits : ∀ {call waiting request},
      (∀ s ∈ waiting, ((monitor who).separated apart).excludes call s.call = false) →
      call.Asks who request → fit request (onLock who waiting)) :
    ((monitor who).separated apart).Keeps fun g waiting reports =>
      (∀ r ∈ reports, r.call.isGuarded = true) →
        ∃ stray, I g.lock (onLock who waiting) stray ∧ Tallied who g waiting reports stray where
  perm := by
    intro g waiting others reports hp h guarded
    obtain ⟨stray, hi, b⟩ := h guarded
    refine ⟨stray, p.perm (onLock_perm hp) hi, { b with takes := ?_ }⟩
    exact fun s hs => b.takes s (hp.mem_iff.mpr hs)
  start := by
    intro g waiting reports now task call free h guarded
    obtain ⟨stray, hi, b⟩ := h fun r hr => guarded r (List.mem_append_left _ hr)
    have hc := guarded _ (List.mem_append_right reports List.mem_cons_self)
    have hf : ∀ mode, fit (.release mode (who call.thread)) (onLock who waiting) :=
      fun mode => fits free (.release mode)
    cases call with
    | take mode thread name timeout =>
      have request : fit (.acquire mode (who thread) timeout) (onLock who waiting) :=
        fits free (.acquire rfl)
      obtain ⟨stray', hi', e⟩ := p.start now task _ request hi
      exact b.take p hi' e hf
    | drop thread name => exact b.drop p hi hf task
    | acquire | release => cases hc
  resume := by
    intro g waiting reports now s h guarded
    obtain ⟨stray, hi, b⟩ := h fun r hr => guarded r (List.mem_append_left _ hr)
    obtain ⟨task, call, stage⟩ := s
    obtain ⟨mode, thread, name, timeout, rfl⟩ := b.takes _ List.mem_cons_self
    rw [onLock_take] at hi
    obtain ⟨stray', hi', e⟩ := p.resume now _ hi
    have b' : Tallied who g waiting reports stray :=
      { b with takes := fun s hs => b.takes s (List.mem_cons_of_mem _ hs) }
    exact b'.take p hi' e fun mode => p.release _ mode hi

theorem tallied_new : Tallied who ({} : GuardedLock τ ν ι) [] [] 0 where
  tally mode id _ := by cases mode <;> rfl
  orderly := ⟨List.nodup_nil, fun _ hg => nomatch hg⟩
  taken := rfl
  takes _ hs := nomatch hs
  clean _ hr := nomatch hr

/-- What the turns of a lock preserve, if calls are started as they are fit, holds after every run
through guards that keeps the calls apart; and the guards are backed by locks. -/
theorem tallied_run (p : Lock.Preserved fit I) (fresh : I .new [] 0)
    (fits : ∀ {call waiting request},
      (∀ s ∈ waiting, ((monitor who).separated apart).excludes call s.call = false) →
      call.Asks who request → fit request (onLock who waiting))
    {events : List (Event (GuardCall τ ν))} (guarded : onlyGuards events = true)
    (ha : (monitor who).keepsApart apart { state := {}, now := now } events = true) :
    ∃ stray, I (run who now events).1.state.lock (onLock who (run who now events).1.suspended)
        stray ∧
      Tallied who (run who now events).1.state (run who now events).1.suspended
        (run who now events).2 stray := by
  have start : ∀ call, .start call ∈ events → call.isGuarded = true :=
    fun call hc => List.all_eq_true.mp guarded (.start call) hc
  have calls : Monitor.Traced (fun _ call => call.isGuarded = true) (run who now events).1
      (run who now events).2 := Monitor.traced_exec rfl start
  exact (keeps_tallied p fits).exec_apart (fun _ => ⟨0, fresh, tallied_new⟩) ha calls.reports

end GuardedLock

end BlockingSync
