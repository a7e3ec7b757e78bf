import BlockingSync.Monitor.Session
import BlockingSync.Proofs.Monitor.Waking
import Mathlib.Data.List.Induction
import Mathlib.Data.List.Nodup

namespace BlockingSync

namespace Turn

variable {σ α κ χ ρ : Type}

def left (turn : Turn σ κ χ ρ) (task : Nat) (call : α) : List (Suspended α κ) :=
  match turn.ending with
  | .waits stage => [⟨task, call, stage⟩]
  | .returns _ => []

def outcome (turn : Turn σ κ χ ρ) : Outcome ρ :=
  match turn.ending with
  | .waits _ => .waiting
  | .returns result => .returned result

theorem mem_left {turn : Turn σ κ χ ρ} {task : Nat} {call : α} {s : Suspended α κ} :
    s ∈ turn.left task call ↔ s.task = task ∧ s.call = call ∧ turn.ending = .waits s.stage := by
  rw [left]
  cases turn.ending with
  | waits stage =>
    rw [List.mem_singleton]
    constructor
    · rintro rfl
      exact ⟨rfl, rfl, rfl⟩
    · rintro ⟨rfl, rfl, h⟩
      cases h
      rfl
  | returns result => simp

theorem outcome_eq_returned {turn : Turn σ κ χ ρ} {result : ρ} :
    turn.outcome = .returned result ↔ turn.ending = .returns result := by
  rw [outcome]
  cases turn.ending with
  | waits stage => exact ⟨nofun, nofun⟩
  | returns r => rw [Outcome.returned.injEq, Ending.returns.injEq]

theorem left_eq_nil {turn : Turn σ κ χ ρ} {result : ρ} (h : turn.outcome = .returned result)
    (task : Nat) (call : α) : turn.left task call = [] := by
  rw [left, outcome_eq_returned.mp h]

theorem lift_outcome {σ' ρ' : Type} {turn : Turn σ κ χ ρ} {r : ρ} (h : turn.outcome = .returned r)
    (state : σ → σ') (result : ρ → ρ') :
    (turn.lift state result).outcome = .returned (result r) := by
  rw [outcome_eq_returned] at h ⊢
  rw [lift, h]

theorem countP_left_le (turn : Turn σ κ χ ρ) (task : Nat) (call : α) (p : α → Bool) :
    (turn.left task call).countP (p ·.call) ≤ if p call then 1 else 0 := by
  rw [left]
  cases turn.ending with
  | waits stage => simp [List.countP_cons]
  | returns result => exact Nat.zero_le _

theorem nodup_left {β : Type} (turn : Turn σ κ χ ρ) {task : Nat} {call : α}
    {waiting : List (Suspended α κ)} {f : Suspended α κ → β} {b : β}
    (hf : ∀ stage, f ⟨task, call, stage⟩ = b) (hn : b ∉ waiting.map f)
    (h : (waiting.map f).Nodup) : ((turn.left task call ++ waiting).map f).Nodup := by
  rw [left]
  cases turn.ending with
  | waits stage => exact List.nodup_cons.mpr ⟨(hf stage).symm ▸ hn, h⟩
  | returns result => exact h

end Turn

def Event.isStart {α : Type} : Event α → Bool
  | start _ => true
  | _ => false

def Report.hasReturned {α ρ : Type} (report : Report α ρ) : Bool :=
  match report.outcome with
  | .waiting => false
  | .returned _ => true

theorem Turn.length_left {σ α κ χ ρ : Type} (turn : Turn σ κ χ ρ) (task : Nat) (call : α) :
    (turn.left task call).length +
      [(⟨task, call, turn.outcome⟩ : Report α ρ)].countP Report.hasReturned = 1 := by
  rw [left, outcome]
  cases turn.ending with
  | waits stage => rfl
  | returns result => rfl

namespace Monitor

variable {σ α κ χ ρ : Type} [DecidableEq χ] (m : Monitor σ α κ χ ρ)

/-- What the end of a turn does: its signals wake some calls, and its own call is parked if it
waits. -/
structure Concluded (room : Room σ α κ) (task : Nat) (call : α) (turn : Turn σ κ χ ρ)
    (after : Room σ α κ) (woken : List (Suspended α κ)) : Prop where
  state : after.state = turn.state
  next : after.next = room.next
  parked : (turn.left task call ++ room.parked).Perm (after.parked ++ woken)
  ready : after.ready = room.ready ++ woken
  mem : ∀ s ∈ after.parked, s ∈ turn.left task call ∨
    s ∈ room.parked ∧ ∀ c, .all c ∈ turn.signals → m.condition s.stage ≠ c
  one : ∀ c, .one c ∈ turn.signals → ∀ s ∈ room.parked, m.condition s.stage = c →
    ∃ t ∈ woken, m.condition t.stage = c

theorem conclude_eq (room : Room σ α κ) (task : Nat) (call : α) (turn : Turn σ κ χ ρ) :
    m.conclude room task call turn =
      let after := turn.signals.foldl m.signal { room with state := turn.state }
      ({ after with parked := after.parked ++ turn.left task call },
        ⟨task, call, turn.outcome⟩) := by
  rw [conclude, Turn.left, Turn.outcome]
  cases turn.ending with
  | waits stage => rfl
  | returns result => simp

section conclude

variable (room : Room σ α κ) (task : Nat) (call : α) (turn : Turn σ κ χ ρ)

theorem conclude_concluded :
    ∃ woken, m.Concluded room task call turn (m.conclude room task call turn).1 woken := by
  rw [conclude_eq]
  obtain ⟨woken, h⟩ := m.foldl_signalled { room with state := turn.state } turn.signals
  refine ⟨woken, h.wakes.state, h.wakes.next, ?_, h.wakes.ready, ?_, h.one⟩
  · refine (h.wakes.parked.append_left (turn.left task call)).trans ?_
    rw [← List.append_assoc]
    exact List.perm_append_comm.append_right woken
  · intro s hs
    obtain hp | hl := List.mem_append.mp hs
    · exact Or.inr ⟨h.wakes.mem_parked hp, fun c hc => h.all c hc s hp⟩
    · exact Or.inl hl

theorem conclude_report : (m.conclude room task call turn).2 = ⟨task, call, turn.outcome⟩ := by
  rw [conclude_eq]

theorem conclude_state : (m.conclude room task call turn).1.state = turn.state := by
  obtain ⟨woken, h⟩ := m.conclude_concluded room task call turn
  exact h.state

theorem conclude_next : (m.conclude room task call turn).1.next = room.next := by
  obtain ⟨woken, h⟩ := m.conclude_concluded room task call turn
  exact h.next

theorem conclude_suspended :
    (m.conclude room task call turn).1.suspended.Perm (turn.left task call ++ room.suspended) := by
  obtain ⟨woken, h⟩ := m.conclude_concluded room task call turn
  rw [Room.suspended, Room.suspended, h.ready]
  refine (List.perm_append_comm.append_left _).trans ?_
  rw [← List.append_assoc, ← List.append_assoc]
  exact h.parked.symm.append_right room.ready

variable {room task call turn}

theorem mem_conclude {s : Suspended α κ} (hs : s ∈ (m.conclude room task call turn).1.suspended) :
    s ∈ turn.left task call ∨ s ∈ room.suspended :=
  List.mem_append.mp ((m.conclude_suspended room task call turn).mem_iff.mp hs)

end conclude

theorem suspended_of_ready {room : Room σ α κ} {s : Suspended α κ}
    {earlier later : List (Suspended α κ)} (h : room.ready = earlier ++ s :: later) :
    room.suspended.Perm (s :: { room with ready := earlier ++ later }.suspended) := by
  rw [Room.suspended, Room.suspended, h]
  exact (List.perm_middle.append_left room.parked).trans List.perm_middle

/-- What an event can do: give out numbers, wake calls, or let a call start or go on. -/
inductive Change (room : Room σ α κ) : Event α → Room σ α κ → Option (Report α ρ) → Prop
  | number (event : Event α) (n : Nat) :
      Change room event { room with next := room.next + n } none
  | wake (event : Event α) {after : Room σ α κ} {woken : List (Suspended α κ)}
      (h : room.Wakes after woken) : Change room event after none
  | start (call : α) (free : m.busy room call = false) :
      Change room (.start call)
        (m.conclude { room with next := room.next + 1 } room.next call
          (m.start room.now room.state call)).1
        (some ⟨room.next, call, (m.start room.now room.state call).outcome⟩)
  | run (s : Suspended α κ) (earlier later : List (Suspended α κ))
      (h : room.ready = earlier ++ s :: later) :
      Change room (.run s.task)
        (m.conclude { room with ready := earlier ++ later } s.task s.call
          (m.resume room.now room.state s.call s.stage)).1
        (some ⟨s.task, s.call, (m.resume room.now room.state s.call s.stage).outcome⟩)

theorem step_run_of_find? {room : Room σ α κ} {task : Nat} {s : Suspended α κ}
    (hf : room.ready.find? (·.task = task) = some s) :
    ∃ earlier later, room.ready = earlier ++ s :: later ∧ s.task = task ∧
      m.step room (.run task) =
        ((m.conclude { room with ready := earlier ++ later } s.task s.call
          (m.resume room.now room.state s.call s.stage)).1,
          some ⟨s.task, s.call, (m.resume room.now room.state s.call s.stage).outcome⟩) := by
  obtain ⟨earlier, later, hl, hr⟩ := eraseP_of_find?_eq_some hf
  have ht : s.task = task := by simpa using List.find?_some hf
  subst ht
  exact ⟨earlier, later, hl, rfl, by simp [step, hf, hr, conclude_report]⟩

theorem step_change (room : Room σ α κ) (event : Event α) :
    m.Change room event (m.step room event).1 (m.step room event).2 := by
  cases event with
  | start call =>
    cases h : m.busy room call with
    | true => simpa [step, h] using (Change.number (.start call) 1 : m.Change room _ _ _)
    | false => simpa [step, h, conclude_report] using (Change.start call h : m.Change room _ _ _)
  | run task =>
    cases h : room.ready.find? (·.task = task) with
    | none => simpa [step, h] using (Change.number (.run task) 0 : m.Change room _ _ _)
    | some s =>
      obtain ⟨earlier, later, hl, rfl, hs⟩ := m.step_run_of_find? h
      rw [hs]
      exact .run s earlier later hl
  | wake task => exact .wake _ (room.wakeFirst_wakes (·.task = task))
  | advance d =>
    let due := fun s : Suspended α κ => (m.timeout s.call).isExpired (room.now.advance d)
    have sorted := List.mergeSort_perm (room.parked.filter due)
      fun s t => m.timeout s.call ≤ m.timeout t.call
    exact .wake _
      ⟨rfl, rfl, (room.wakeAll_wakes due).parked.trans (sorted.symm.append_left _), rfl⟩
  | skip => exact .number _ 1

theorem Change.state_eq {room after : Room σ α κ} {event : Event α}
    (hc : m.Change room event after none) : after.state = room.state := by
  cases hc with
  | number => rfl
  | wake _ hw => exact hw.state

theorem Change.next_le {room after : Room σ α κ} {event : Event α} {report : Option (Report α ρ)}
    (hc : m.Change room event after report) : room.next ≤ after.next := by
  cases hc with
  | number _ n => exact Nat.le_add_right ..
  | wake _ hw => exact Nat.le_of_eq hw.next.symm
  | start =>
    rw [conclude_next]
    exact Nat.le_succ _
  | run s earlier later =>
    exact Nat.le_of_eq (m.conclude_next { room with ready := earlier ++ later } ..).symm

theorem step_start_next (room : Room σ α κ) (call : α) :
    (m.step room (.start call)).1.next = room.next + 1 := by
  rw [step]
  split
  · rfl
  · exact conclude_next ..

theorem step_start {room : Room σ α κ} {call : α} (free : m.busy room call = false) :
    (m.step room (.start call)).2 =
      some ⟨room.next, call, (m.start room.now room.state call).outcome⟩ := by
  simp [step, free, conclude_report]

theorem step_start_room {room : Room σ α κ} {call : α} (free : m.busy room call = false) :
    (m.step room (.start call)).1 =
      (m.conclude { room with next := room.next + 1 } room.next call
        (m.start room.now room.state call)).1 := by
  simp [step, free]

theorem exec_append (room : Room σ α κ) (events more : List (Event α)) :
    m.exec room (events ++ more) =
      ((m.exec (m.exec room events).1 more).1,
        (m.exec room events).2 ++ (m.exec (m.exec room events).1 more).2) := by
  induction events generalizing room with
  | nil => rfl
  | cons event rest ih => simp only [List.cons_append, exec, ih, List.append_assoc]

theorem exec_concat (room : Room σ α κ) (events : List (Event α)) (event : Event α) :
    m.exec room (events ++ [event]) =
      ((m.step (m.exec room events).1 event).1,
        (m.exec room events).2 ++ (m.step (m.exec room events).1 event).2.toList) := by
  rw [exec_append]
  simp only [exec, List.append_nil]

theorem exec_induction {P : List (Event α) → Room σ α κ → List (Report α ρ) → Prop}
    {room : Room σ α κ} (fresh : P [] room [])
    (step : ∀ {events room reports} (event : Event α), P events room reports →
      P (events ++ [event]) (m.step room event).1 (reports ++ (m.step room event).2.toList))
    (events : List (Event α)) : P events (m.exec room events).1 (m.exec room events).2 := by
  induction events using List.reverseRecOn with
  | nil => exact fresh
  | append_singleton events event ih =>
    rw [exec_concat]
    exact step event ih

/-- A property of the state, the calls that have not returned and the reports is kept by every turn
that a call can take. -/
structure Keeps (P : σ → List (Suspended α κ) → List (Report α ρ) → Prop) : Prop where
  perm : ∀ {state waiting waiting' reports}, waiting.Perm waiting' →
    P state waiting reports → P state waiting' reports
  start : ∀ {state waiting reports} (now : Instant) (task : Nat) (call : α),
    (∀ s ∈ waiting, m.excludes call s.call = false) → P state waiting reports →
    P (m.start now state call).state ((m.start now state call).left task call ++ waiting)
      (reports ++ [⟨task, call, (m.start now state call).outcome⟩])
  resume : ∀ {state waiting reports} (now : Instant) (s : Suspended α κ),
    P state (s :: waiting) reports →
    P (m.resume now state s.call s.stage).state
      ((m.resume now state s.call s.stage).left s.task s.call ++ waiting)
      (reports ++ [⟨s.task, s.call, (m.resume now state s.call s.stage).outcome⟩])

variable {m} {P : σ → List (Suspended α κ) → List (Report α ρ) → Prop}

theorem Keeps.change (h : m.Keeps P) {room after : Room σ α κ} {event : Event α}
    {report : Option (Report α ρ)} (reports : List (Report α ρ))
    (hc : m.Change room event after report) (hp : P room.state room.suspended reports) :
    P after.state after.suspended (reports ++ report.toList) := by
  cases hc with
  | number _ n =>
    rw [Option.toList_none, List.append_nil]
    exact hp
  | wake _ hw =>
    rw [hw.state, Option.toList_none, List.append_nil]
    exact h.perm hw.suspended hp
  | start call free =>
    rw [conclude_state]
    refine h.perm (m.conclude_suspended _ _ _ _).symm (h.start _ _ _ ?_ hp)
    intro s hs
    simpa using List.any_eq_false.mp free s hs
  | run s earlier later hr =>
    rw [conclude_state]
    exact h.perm (m.conclude_suspended _ _ _ _).symm
      (h.resume _ _ (h.perm (suspended_of_ready hr) hp))

theorem Keeps.exec (h : m.Keeps P) {room : Room σ α κ} (fresh : P room.state room.suspended [])
    (events : List (Event α)) :
    P (m.exec room events).1.state (m.exec room events).1.suspended (m.exec room events).2 :=
  m.exec_induction (P := fun _ room reports => P room.state room.suspended reports) fresh
    (fun event hp => h.change _ (m.step_change _ event) hp) events

structure Numbered (waiting : List (Suspended α κ)) (n : Nat) : Prop where
  nodup : (waiting.map (·.task)).Nodup
  lt : ∀ s ∈ waiting, s.task < n

theorem Numbered.perm {waiting others : List (Suspended α κ)} {n : Nat}
    (hp : waiting.Perm others) (h : Numbered waiting n) : Numbered others n where
  nodup := (hp.map _).nodup_iff.mp h.nodup
  lt s hs := h.lt s (hp.mem_iff.mpr hs)

theorem Numbered.task_ne {room : Room σ α κ} {n : Nat} (h : Numbered room.suspended n)
    {s t : Suspended α κ} (hs : s ∈ room.parked) (ht : t ∈ room.ready) : s.task ≠ t.task := by
  have hn := h.nodup
  rw [Room.suspended, List.map_append] at hn
  obtain ⟨-, -, hd⟩ := List.nodup_append.mp hn
  exact hd s.task (List.mem_map_of_mem hs) t.task (List.mem_map_of_mem ht)

omit [DecidableEq χ] in
theorem Numbered.left {waiting : List (Suspended α κ)} {n task : Nat} (h : Numbered waiting n)
    (hn : task ∉ waiting.map (·.task)) (ht : task < n) (turn : Turn σ κ χ ρ) (call : α) :
    Numbered (turn.left task call ++ waiting) n where
  nodup := turn.nodup_left (fun _ => rfl) hn h.nodup
  lt s hs := by
    obtain hs | hs := List.mem_append.mp hs
    · obtain ⟨rfl, -, -⟩ := Turn.mem_left.mp hs
      exact ht
    · exact h.lt s hs

theorem Numbered.change {room after : Room σ α κ} {event : Event α} {report : Option (Report α ρ)}
    (hc : m.Change room event after report) (h : Numbered room.suspended room.next) :
    Numbered after.suspended after.next := by
  cases hc with
  | number _ n => exact ⟨h.nodup, fun s hs => Nat.lt_add_right n (h.lt s hs)⟩
  | wake _ hw =>
    rw [hw.next]
    exact h.perm hw.suspended
  | start call free =>
    rw [conclude_next]
    refine Numbered.perm (m.conclude_suspended _ _ _ _).symm (Numbered.left ?_ ?_ ?_ _ _)
    · exact ⟨h.nodup, fun s hs => Nat.lt_succ_of_lt (h.lt s hs)⟩
    · intro hm
      obtain ⟨s, hs, ht⟩ := List.mem_map.mp hm
      exact Nat.lt_irrefl room.next (ht ▸ h.lt s hs)
    · exact Nat.lt_succ_self room.next
  | run s earlier later hr =>
    rw [conclude_next]
    have hs := h.perm (suspended_of_ready hr)
    obtain ⟨hn, hd⟩ := List.nodup_cons.mp hs.nodup
    refine Numbered.perm (m.conclude_suspended _ _ _ _).symm (Numbered.left ?_ hn ?_ _ _)
    · exact ⟨hd, fun t ht => hs.lt t (List.mem_cons_of_mem s ht)⟩
    · exact hs.lt s List.mem_cons_self

theorem Numbered.find?_ready {room : Room σ α κ} (h : Numbered room.suspended room.next)
    {s : Suspended α κ} (hs : s ∈ room.ready) :
    room.ready.find? (·.task = s.task) = some s := by
  obtain ⟨t, ht⟩ := Option.isSome_iff_exists.mp
    (List.find?_isSome.mpr ⟨s, hs, decide_eq_true rfl⟩ :
      (room.ready.find? (·.task = s.task)).isSome)
  have hn : (room.ready.map (·.task)).Nodup :=
    ((List.sublist_append_right room.parked room.ready).map _).nodup h.nodup
  have hk : t.task = s.task := by simpa using List.find?_some ht
  rw [ht, List.inj_on_of_nodup_map hn (List.mem_of_find?_eq_some ht) hs hk]

theorem step_run {room : Room σ α κ} (h : Numbered room.suspended room.next) {s : Suspended α κ}
    (hs : s ∈ room.ready) :
    (m.step room (.run s.task)).2 =
      some ⟨s.task, s.call, (m.resume room.now room.state s.call s.stage).outcome⟩ := by
  obtain ⟨_, _, -, -, hstep⟩ := m.step_run_of_find? (h.find?_ready hs)
  rw [hstep]

theorem numbered_exec {room : Room σ α κ} (fresh : room.suspended = []) (events : List (Event α)) :
    Numbered (m.exec room events).1.suspended (m.exec room events).1.next := by
  refine m.exec_induction (P := fun _ room _ => Numbered room.suspended room.next) ?_ ?_ events
  · rw [fresh]
    exact ⟨List.nodup_nil, by simp⟩
  · intro _ room _ event h
    exact h.change (m.step_change room event)

theorem conclude_length (room : Room σ α κ) (task : Nat) (call : α) (turn : Turn σ κ χ ρ) :
    [(⟨task, call, turn.outcome⟩ : Report α ρ)].countP Report.hasReturned +
      (m.conclude room task call turn).1.suspended.length = room.suspended.length + 1 := by
  have hl := turn.length_left task call
  have hs := (m.conclude_suspended room task call turn).length_eq
  rw [List.length_append] at hs
  omega

theorem Change.length_le {room after : Room σ α κ} {event : Event α} {report : Option (Report α ρ)}
    (hc : m.Change room event after report) :
    report.toList.countP Report.hasReturned + after.suspended.length ≤
      room.suspended.length + [event].countP Event.isStart := by
  cases hc with
  | number _ n =>
    rw [Option.toList_none, List.countP_nil, Nat.zero_add]
    exact Nat.le_add_right _ _
  | wake _ hw =>
    rw [Option.toList_none, List.countP_nil, Nat.zero_add, hw.suspended.length_eq]
    exact Nat.le_add_right _ _
  | start call free =>
    exact Nat.le_of_eq (m.conclude_length { room with next := room.next + 1 } room.next call _)
  | run s earlier later hr =>
    rw [(suspended_of_ready hr).length_eq]
    exact Nat.le_of_eq (m.conclude_length { room with ready := earlier ++ later } s.task s.call _)

/-- A call returns at most once: with those that have not returned, at most the calls that were
started. -/
theorem returned_exec {room : Room σ α κ} (fresh : room.suspended = []) (events : List (Event α)) :
    (m.exec room events).2.countP Report.hasReturned + (m.exec room events).1.suspended.length ≤
      events.countP Event.isStart := by
  refine m.exec_induction (P := fun events room reports =>
    reports.countP Report.hasReturned + room.suspended.length ≤ events.countP Event.isStart)
    ?_ ?_ events
  · rw [fresh]
    exact Nat.le_refl 0
  · intro events room reports event h
    have hc := (m.step_change room event).length_le
    rw [List.countP_append, List.countP_append]
    omega

theorem runReady_exec (turns : Nat) (room : Room σ α κ) :
    ∃ tasks : List Nat, m.exec room (tasks.map .run) = m.runReady turns room := by
  induction turns generalizing room with
  | zero => exact ⟨[], rfl⟩
  | succ turns ih =>
    rw [runReady]
    cases room.ready with
    | nil => exact ⟨[], rfl⟩
    | cons s rest =>
      obtain ⟨tasks, h⟩ := ih (m.step room (.run s.task)).1
      exact ⟨s.task :: tasks, by simp only [List.map_cons, exec, h]⟩

variable {γ β : Type}

theorem act_exec (plan : Room σ α κ → γ → Plan α β) (room : Room σ α κ) (action : Action γ) :
    ∃ events, (m.exec room events).1 = (m.act plan room action).1 := by
  cases action with
  | request request =>
    cases h : plan room request with
    | call call =>
      cases hs : m.step room (.start call) with
      | mk after report =>
        refine ⟨[.start call], ?_⟩
        cases report <;> simp only [act, exec, h, hs]
    | answer a => exact ⟨[.skip], by simp only [act, exec, h]⟩
    | busy => exact ⟨[.skip], by simp only [act, exec, h]⟩
  | advance d => exact ⟨[.skip, .advance d], rfl⟩
  | wake task => exact ⟨[.skip, .wake task], rfl⟩
  | run task => exact ⟨[.skip, .run task], rfl⟩
  | rest => exact ⟨[.skip], rfl⟩

theorem perform_exec (plan : Room σ α κ → γ → Plan α β) (room : Room σ α κ) (step : Step γ) :
    ∃ events, (m.exec room events).1 = (m.perform plan room step).1 := by
  obtain ⟨events, h⟩ := m.act_exec plan room step.action
  cases hold : step.holds with
  | true => exact ⟨events, by simp only [perform, hold, if_true, h]⟩
  | false =>
    let acted := (m.act plan room step.action).1
    let turns := acted.suspended.length * (acted.suspended.length + 1)
    obtain ⟨tasks, h'⟩ := m.runReady_exec turns acted
    refine ⟨events ++ tasks.map .run, ?_⟩
    rw [exec_append, h, h']
    simp only [perform, hold, settle, Bool.false_eq_true, if_false, acted, turns]

theorem session_exec (plan : Room σ α κ → γ → Plan α β) (room : Room σ α κ)
    (steps : List (Step γ)) {answer : StepAnswer α β ρ × Room σ α κ}
    (ha : answer ∈ m.session plan room steps) :
    ∃ events, (m.exec room events).1 = answer.2 := by
  induction steps generalizing room with
  | nil => cases ha
  | cons step rest ih =>
    obtain ⟨events, h⟩ := m.perform_exec plan room step
    obtain rfl | ha := List.mem_cons.mp ha
    · exact ⟨events, h⟩
    · obtain ⟨more, h'⟩ := ih (m.perform plan room step).1 ha
      refine ⟨events ++ more, ?_⟩
      rw [exec_append, h]
      exact h'

end Monitor

end BlockingSync
