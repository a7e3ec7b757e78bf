import BlockingSync.Proofs.Lock.Bookkeeping
import BlockingSync.Proofs.Lock.Deadlock
import BlockingSync.Proofs.Monitor.Calls

namespace BlockingSync

variable {ι : Type} [DecidableEq ι]

def HeldCounts.take (held : HeldCounts) : Mode → HeldCounts
  | .read => { held with reads := held.reads - 1 }
  | .write => { held with writes := held.writes - 1 }

theorem HeldCounts.take_add (held : HeldCounts) (mode : Mode) :
    (held.add mode).take mode = held := by
  cases mode <;> rfl

def LockCall.book : LockCall ι → HeldCounts → HeldCounts
  | acquire mode _ _ => (·.add mode)
  | release mode _ => (·.take mode)

namespace Lock

def booked (held : ι → HeldCounts) (report : LockReport ι) : ι → HeldCounts := fun y =>
  if report.outcome = .returned .ok ∧ y = report.call.id then report.call.book (held y) else held y

/-- What everyone holds after the calls of a run, if it held nothing before. -/
def holdings (reports : List (LockReport ι)) : ι → HeldCounts := reports.foldl booked fun _ => {}

/-- The holdings allow one more lock of `id`: nobody else holds what keeps it out. Who holds a lock
already may always read. -/
def Grants (held : ι → HeldCounts) (id : ι) : Mode → Prop
  | .read => held id ≠ {} ∨ ∀ other, other ≠ id → (held other).writes = 0
  | .write => ∀ other, other ≠ id → held other = {}

/-- How a call ends in its first turn, if everyone holds what it says. -/
inductive Answer (now : Instant) (held : ι → HeldCounts) : LockCall ι → Outcome LockResult → Prop
  | grant {mode : Mode} {id : ι} {timeout : Timeout} (granted : Grants held id mode) :
      Answer now held (.acquire mode id timeout) (.returned .ok)
  | late {mode : Mode} {id : ι} {timeout : Timeout} (taken : ¬ Grants held id mode)
      (late : timeout.isExpired now = true) :
      Answer now held (.acquire mode id timeout) (.returned (.failed (.timedOut mode)))
  | wait {mode : Mode} {id : ι} {timeout : Timeout} (taken : ¬ Grants held id mode)
      (early : timeout.isExpired now = false) :
      Answer now held (.acquire mode id timeout) .waiting
  | release {mode : Mode} {id : ι} (holds : (held id).count mode ≠ 0) :
      Answer now held (.release mode id) (.returned .ok)
  | unheld {mode : Mode} {id : ι} (zero : (held id).count mode = 0) :
      Answer now held (.release mode id) (.returned (.failed (.notHeld mode)))

variable {lock claimed : Lock ι} {held : ι → HeldCounts} {now : Instant} {id : ι}
  {call : LockCall ι} {turn : LockTurn ι} {outcome other : Outcome LockResult}
  {report : LockReport ι} {reports : List (LockReport ι)} {room after : LockRoom ι}
  {event : Event (LockCall ι)} {stray stray' : Nat}

omit [DecidableEq ι] in
theorem Answer.unique (h : Answer now held call outcome) (h' : Answer now held call other) :
    outcome = other := by
  cases h with
  | grant granted =>
    cases h' with
    | grant => rfl
    | late taken | wait taken => exact absurd granted taken
  | late taken late =>
    cases h' with
    | grant granted => exact absurd granted taken
    | late => rfl
    | wait _ early => exact absurd late (Bool.eq_false_iff.mp early)
  | wait taken early =>
    cases h' with
    | grant granted => exact absurd granted taken
    | late _ late => exact absurd late (Bool.eq_false_iff.mp early)
    | wait => rfl
  | release holds =>
    cases h' with
    | release => rfl
    | unheld zero => exact absurd zero holds
  | unheld zero =>
    cases h' with
    | release holds => exact absurd zero holds
    | unheld => rfl

omit [DecidableEq ι] in
theorem Answer.ne_deadlock (h : Answer now held call outcome) :
    outcome ≠ .returned (.failed .deadlock) := by
  cases h <;> simp

theorem holdings_concat (reports : List (LockReport ι)) (report : LockReport ι) :
    holdings (reports ++ [report]) = booked (holdings reports) report :=
  List.foldl_concat ..

theorem booked_of_ne {y : ι} (h : y ≠ report.call.id) : booked held report y = held y :=
  if_neg fun hb => h hb.2

theorem booked_of_failed (h : report.outcome ≠ .returned .ok) : booked held report = held :=
  funext fun _ => if_neg fun hb => h hb.1

theorem holdings_of_ne {y : ι} (h : ∀ r ∈ reports, y ≠ r.call.id) : holdings reports y = {} := by
  induction reports using List.reverseRecOn with
  | nil => rfl
  | append_singleton reports report ih =>
    rw [holdings_concat, booked_of_ne (h report (List.mem_append_right _ List.mem_cons_self))]
    exact ih fun r hr => h r (List.mem_append_left _ hr)

theorem Effect.held_booked (e : Effect lock stray call turn stray) (task : Nat) :
    turn.state.held = booked lock.held ⟨task, call, turn.outcome⟩ := by
  cases e with
  | wait same =>
    rw [booked_of_failed (by simp [Turn.outcome, Turn.waits])]
    exact funext same
  | fail same =>
    rw [booked_of_failed (by simp [Turn.outcome])]
    exact funext same
  | @acquire mode id _ _ adds =>
    funext y
    by_cases hy : y = id
    · rw [booked, if_pos ⟨rfl, hy⟩]
      exact (adds y).trans (if_pos hy)
    · rw [booked_of_ne hy]
      exact (adds y).trans (if_neg hy)
  | @release mode id after _ adds =>
    funext y
    by_cases hy : y = id
    · have more : lock.held y = (after.held y).add mode := (adds y).trans (if_pos hy)
      rw [booked, if_pos ⟨rfl, hy⟩, more]
      exact ((after.held y).take_add mode).symm
    · rw [booked_of_ne hy]
      exact ((adds y).trans (if_neg hy)).symm

theorem Phase.heldBy_isSome_iff (h : lock.Phase stray) (settled : lock.upgrading = none) (y : ι) :
    (lock.heldBy y).isSome ↔ lock.held y ≠ {} := by
  rw [← Option.ne_none_iff_isSome, Ne, h.heldBy_eq_none_iff, settled]
  refine not_congr ⟨?_, ?_⟩
  · rintro ⟨zero, -⟩
    exact HeldCounts.eq_empty (zero .read) (zero .write)
  · intro empty
    refine ⟨?_, nofun⟩
    intro mode
    rw [empty]
    cases mode <;> rfl

theorem forall_ne_iff {p : ι → Prop} (own : p id) : (∀ y, y ≠ id → p y) ↔ ∀ y, p y := by
  refine ⟨?_, fun all y _ => all y⟩
  intro others y
  by_cases hy : y = id
  · rwa [hy]
  · exact others y hy

theorem Outside.grants_iff {mode : Mode} (outside : Outside lock id mode.stage none)
    (h : lock.Phase 0) (settled : lock.upgrading = none) :
    Grants lock.held id mode ↔ lock.admits mode.stage = true := by
  cases outside with
  | newcomer unregistered =>
    cases mode with
    | read =>
      have empty := held_eq_of_none unregistered
      change _ ↔ lock.readable = true
      rw [h.consistent.readable_iff_forall, Grants, empty, settled]
      simp only [ne_eq, not_true_eq_false, false_or, reduceCtorEq, or_false, Nat.not_lt,
        Nat.le_zero]
      exact forall_ne_iff (by rw [empty])
    | write =>
      change _ ↔ lock.writable = true
      simp only [h.writable_iff_forall, h.heldBy_isSome_iff settled, Grants, Decidable.not_not]
      exact forall_ne_iff (held_eq_of_none unregistered)

theorem Claim.grants_iff (claim : Claim lock id none claimed) (h : lock.Phase 0)
    (settled : lock.upgrading = none) : Grants lock.held id .write ↔ claimed.readers = 0 := by
  rw [(claim.upgrading h nofun).readers_eq_zero_iff, Grants]
  refine forall_congr' fun y => ?_
  rw [claim.heldBy_eq, h.heldBy_isSome_iff settled]
  constructor
  · rintro others ⟨holds, hy⟩
    exact holds (others hy)
  · intro alone hy
    exact Decidable.byContradiction fun holds => alone ⟨holds, hy⟩

theorem Move.answer (m : Move now lock none call turn) (h : lock.Phase 0)
    (settled : lock.upgrading = none) : Answer now lock.held call turn.outcome := by
  cases call with
  | release mode id =>
    rw [m.release_outcome]
    split
    · next zero => exact .unheld zero
    · next holds => exact .release holds
  | acquire mode id timeout =>
    cases m with
    | readAgain registered =>
      have holds := (h.heldBy_isSome_iff settled id).mp (Option.isSome_of_eq_some registered)
      exact .grant (Or.inl holds)
    | readEnter outside readable => exact .grant ((outside.grants_iff h settled).mpr readable)
    | writeEnter outside writable => exact .grant ((outside.grants_iff h settled).mpr writable)
    | expire outside closed late =>
      exact .late (mt (outside.grants_iff h settled).mp (Bool.eq_false_iff.mp closed)) late
    | wait outside closed early =>
      exact .wait (mt (outside.grants_iff h settled).mp (Bool.eq_false_iff.mp closed)) early
    | writeAgain registered writes =>
      have alone := (h.exclusive_of_writes registered writes).alone
      refine .grant fun other hne => held_eq_of_none (Option.not_isSome_iff_eq_none.mp ?_)
      exact mt (alone other).mp hne
    | writeRefuse registered idle writers =>
      -- nobody waits, so whoever is counted as a writer writes, and no reader is beside it
      obtain ⟨u, upgrading⟩ | shared := h.upgrading_or_shared registered idle
      · cases settled.symm.trans upgrading.upgrading
      · exact absurd shared.writers (Nat.ne_of_gt writers)
    | upgradeGrant claim readers => exact .grant ((claim.grants_iff h settled).mpr readers)
    | upgradeBack claim readers late | upgradeWithdraw claim readers late =>
      exact .late (mt (claim.grants_iff h settled).mp (Nat.ne_of_gt readers)) late
    | upgradeWait claim readers early =>
      exact .wait (mt (claim.grants_iff h settled).mp (Nat.ne_of_gt readers)) early

structure Quiet (room : LockRoom ι) (reports : List (LockReport ι)) : Prop where
  idle : room.suspended = []
  sound : Sound room.state [] 0
  held : room.state.held = holdings reports
  notRefused : ∀ r ∈ reports, r.outcome ≠ .returned (.failed .deadlock)

theorem Quiet.start (q : Quiet room reports) (call : LockCall ι) (task : Nat) :
    let turn := (monitor ι).start room.now room.state call
    Answer room.now (holdings reports) call turn.outcome ∧
      turn.state.held = holdings (reports ++ [⟨task, call, turn.outcome⟩]) ∧
      Sound turn.state (turn.left task call) 0 := by
  intro turn
  have m : Move room.now room.state none call turn := start_move q.sound.phase room.now call
  have settled : room.state.upgrading = none := Option.toList_eq_nil_iff.mp q.sound.upgraders.symm
  obtain ⟨stray, sound, e⟩ := q.sound.start room.now task call
  obtain rfl := m.stray_eq e nofun
  rw [holdings_concat, ← q.held]
  rw [List.append_nil] at sound
  exact ⟨m.answer q.sound.phase settled, e.held_booked task, sound⟩

theorem Quiet.ready_eq_nil (q : Quiet room reports) : room.ready = [] :=
  (List.append_eq_nil_iff.mp q.idle).2

theorem Quiet.change {report : Option (LockReport ι)} (q : Quiet room reports)
    (hc : (monitor ι).Change room event after report)
    (unhindered : ∀ r ∈ report.toList, r.outcome ≠ .waiting) :
    Quiet after (reports ++ report.toList) := by
  cases hc with
  | number _ n =>
    rw [Option.toList_none, List.append_nil]
    exact { q with }
  | wake _ hw =>
    rw [Option.toList_none, List.append_nil]
    refine ⟨List.nil_perm.mp (q.idle ▸ hw.suspended), ?_, ?_, q.notRefused⟩
    · exact hw.state.symm ▸ q.sound
    · exact hw.state.symm ▸ q.held
  | start call free =>
    obtain ⟨answer, held, sound⟩ := q.start call room.next
    have left : ((monitor ι).start room.now room.state call).left room.next call = [] := by
      cases ho : ((monitor ι).start room.now room.state call).outcome with
      | waiting => exact absurd ho (unhindered _ (List.mem_singleton.mpr rfl))
      | returned result => exact Turn.left_eq_nil ho _ _
    have perm := (monitor ι).conclude_suspended { room with next := room.next + 1 } room.next call
      ((monitor ι).start room.now room.state call)
    rw [left] at perm sound
    refine ⟨?_, ?_, ?_, ?_⟩
    · exact (perm.trans (List.Perm.of_eq q.idle)).eq_nil
    · rw [Monitor.conclude_state]
      exact sound
    · rw [Monitor.conclude_state]
      exact held
    · intro r hr
      obtain hr | hr := List.mem_append.mp hr
      · exact q.notRefused r hr
      · obtain rfl := List.mem_singleton.mp hr
        exact answer.ne_deadlock
  | run s earlier later hr => simp [q.ready_eq_nil] at hr

theorem quiet_run (now : Instant) (events : List (Event (LockCall ι)))
    (h : ∀ r ∈ (run now events).2, r.outcome ≠ .waiting) :
    Quiet (run now events).1 (run now events).2 := by
  refine (monitor ι).exec_induction
    (P := fun _ room reports => (∀ r ∈ reports, r.outcome ≠ .waiting) → Quiet room reports)
    ?_ ?_ events h
  · intro _
    exact ⟨rfl, sound_new, rfl, fun r hr => absurd hr List.not_mem_nil⟩
  · intro events room reports event ih h
    have q : Quiet room reports := ih fun r hr => h r (List.mem_append.mpr (Or.inl hr))
    refine q.change ((monitor ι).step_change room event) ?_
    intro r hr
    exact h r (List.mem_append.mpr (Or.inr hr))

theorem Quiet.silent {report : Option (LockReport ι)} (q : Quiet room reports)
    (hc : (monitor ι).Change room event after report) (hs : event.isStart = false) :
    report = none ∧ after.state = room.state := by
  cases hc with
  | number => exact ⟨rfl, rfl⟩
  | wake _ hw => exact ⟨rfl, hw.state⟩
  | start => cases hs
  | run s earlier later hr => simp [q.ready_eq_nil] at hr

/-- The lock is a map of what everyone holds: it answers the next call as the map demands, books the
call there if it succeeds, and changes at no other time. -/
structure Sequential (room : LockRoom ι) (reports : List (LockReport ι)) : Prop where
  held : room.state.held = holdings reports
  answered : ∀ call outcome, ((monitor ι).step room (.start call)).2 =
      some ⟨room.next, call, outcome⟩ ↔
    Answer room.now (holdings reports) call outcome
  booked : ∀ call, ((monitor ι).step room (.start call)).1.state.held =
    holdings (reports ++ ((monitor ι).step room (.start call)).2.toList)
  silent : ∀ event, event.isStart = false → ((monitor ι).step room event).2 = none ∧
    ((monitor ι).step room event).1.state = room.state
  notRefused : ∀ r ∈ reports, r.outcome ≠ .returned (.failed .deadlock)

theorem Quiet.sequential (q : Quiet room reports) : Sequential room reports where
  held := q.held
  answered call outcome := by
    obtain ⟨answer, -, -⟩ := q.start call room.next
    rw [report_start, Option.some.injEq, Report.mk.injEq]
    constructor
    · rintro ⟨-, -, rfl⟩
      exact answer
    · intro other
      exact ⟨rfl, rfl, answer.unique other⟩
  booked call := by
    obtain ⟨-, booked, -⟩ := q.start call room.next
    rw [report_start, (monitor ι).step_start_room (not_busy room call), Monitor.conclude_state]
    exact booked
  silent event hs := q.silent ((monitor ι).step_change room event) hs
  notRefused := q.notRefused

def Unhindered (report : LockReport ι) : Prop :=
  report.outcome = .returned .ok ∨
    ∃ mode id, report.call = .release mode id ∧
      report.outcome = .returned (.failed (.notHeld mode))

omit [DecidableEq ι] in
theorem Answer.unhindered (h : Answer now held call outcome)
    (alone : ∀ y, y ≠ call.id → held y = {}) (task : Nat) : Unhindered ⟨task, call, outcome⟩ := by
  have grants : ∀ mode, Grants held call.id mode := by
    rintro (_ | _)
    · right
      intro other hne
      rw [alone other hne]
    · exact alone
  cases h with
  | grant | release => exact Or.inl rfl
  | late taken | wait taken => exact absurd (grants _) taken
  | @unheld mode id => exact Or.inr ⟨mode, id, rfl, rfl⟩

omit [DecidableEq ι] in
theorem Unhindered.ne_waiting (h : Unhindered report) : report.outcome ≠ .waiting := by
  obtain h | ⟨mode, id, -, h⟩ := h <;> rw [h] <;> nofun

theorem unhindered_run (now : Instant) (x : ι) (events : List (Event (LockCall ι)))
    (own : ∀ call, .start call ∈ events → call.id = x) :
    ∀ r ∈ (run now events).2, Unhindered r := by
  induction events using List.reverseRecOn with
  | nil => exact fun r hr => absurd hr List.not_mem_nil
  | append_singleton events event ih =>
    have earlier : ∀ call, .start call ∈ events → call.id = x :=
      fun call hc => own call (List.mem_append_left _ hc)
    have unhindered := ih earlier
    have q := quiet_run now events fun r hr => (unhindered r hr).ne_waiting
    have calls : Monitor.Traced (fun _ call => call.id = x) (run now events).1 (run now events).2 :=
      Monitor.traced_exec rfl earlier
    intro r hr
    rw [run, Monitor.exec_concat] at hr
    obtain hr | hr := List.mem_append.mp hr
    · exact unhindered r hr
    · change r ∈ ((monitor ι).step (run now events).1 event).2.toList at hr
      cases event with
      | start call =>
        rw [report_start] at hr
        obtain rfl := List.mem_singleton.mp hr
        obtain ⟨answer, -, -⟩ := q.start call (run now events).1.next
        refine answer.unhindered ?_ _
        -- the others have made no call
        intro y hy
        apply holdings_of_ne
        intro r hr
        rw [calls.reports r hr, ← own call (List.mem_append_right _ List.mem_cons_self)]
        exact hy
      | run | wake | advance | skip =>
        rw [(q.silent ((monitor ι).step_change _ _) rfl).1] at hr
        cases hr

/-- If no call of a run has waited, the lock is a map of what everyone holds; and no call of a run
waits or fails for want of the lock if all calls are of one identity. -/
theorem sequential_run (now : Instant) (events : List (Event (LockCall ι))) :
    ((∀ r ∈ (run now events).2, r.outcome ≠ .waiting) →
        Sequential (run now events).1 (run now events).2) ∧
      ∀ x, (∀ call, .start call ∈ events → call.id = x) →
        ∀ r ∈ (run now events).2, Unhindered r := by
  refine ⟨?_, fun x own => unhindered_run now x events own⟩
  intro unhindered
  exact (quiet_run now events unhindered).sequential

/-- An upgrade fails beside another reader and succeeds when that one has left. -/
def retriedUpgradeEvents : List (Event (LockCall Nat)) :=
  [.start (.acquire .read 1 .infinite), .start (.acquire .read 2 .infinite),
    .start (.acquire .write 1 (.expired .zero)), .start (.release .read 2),
    .start (.acquire .write 1 .infinite)]

theorem sequential_run_retriedUpgrade :
    let room := (run .zero retriedUpgradeEvents).1
    let reports := (run .zero retriedUpgradeEvents).2
    (∀ r ∈ reports, r.outcome ≠ .waiting) ∧ Sequential room reports ∧
      holdings reports 1 = { reads := 1, writes := 1 } ∧
      Answer room.now (holdings reports) (.acquire .read 2 .infinite) .waiting := by
  intro room reports
  have unhindered : ∀ r ∈ reports, r.outcome ≠ .waiting := by decide
  have sequential : Sequential room reports :=
    (sequential_run .zero retriedUpgradeEvents).1 unhindered
  exact ⟨unhindered, sequential, by decide, (sequential.answered _ _).mp (by decide)⟩

end Lock

end BlockingSync
