import BlockingSync.Proofs.Monitor.Deadline
import Mathlib.Data.Nat.Choose.Bounds

namespace BlockingSync

namespace Turn

variable {σ α κ χ ρ : Type} {turn : Turn σ κ χ ρ}

def Discreet (turn : Turn σ κ χ ρ) : Prop := turn.outcome = .waiting → turn.signals = []

theorem discreet_waits (state : σ) (stage : κ) : (waits state stage : Turn σ κ χ ρ).Discreet :=
  fun _ => rfl

theorem discreet_of_returned {result : ρ} (h : turn.outcome = .returned result) :
    turn.Discreet := by
  intro hw
  rw [h] at hw
  cases hw

theorem left_of_waiting (h : turn.outcome = .waiting) (task : Nat) (call : α) :
    ∃ stage, turn.left task call = [⟨task, call, stage⟩] := by
  cases he : turn.ending with
  | waits stage => exact ⟨stage, by rw [left, he]⟩
  | returns result => simp [outcome, he] at h

theorem Discreet.lift {σ' ρ' : Type} (h : turn.Discreet) (state : σ → σ') (result : ρ → ρ') :
    (turn.lift state result).Discreet := by
  cases ho : turn.outcome with
  | waiting => exact fun _ => h ho
  | returned r => exact discreet_of_returned (lift_outcome ho state result)

end Turn

namespace Room

variable {σ α κ : Type}

/-- A bound for the turns until no call is ready: one for each ready call, and one for each pair of
calls that have not returned, since either of the two may return and wake the other. -/
def turnsLeft (room : Room σ α κ) : Nat := room.ready.length + room.suspended.length.choose 2

theorem length_ready_le (room : Room σ α κ) : room.ready.length ≤ room.suspended.length := by
  simp [suspended]

theorem turnsLeft_le_of_returned {room after : Room σ α κ}
    (h : after.suspended.length + 1 = room.suspended.length) :
    after.turnsLeft ≤ room.suspended.length.choose 2 := by
  have hp : (after.suspended.length + 1).choose 2 =
      after.suspended.length + after.suspended.length.choose 2 := by
    rw [Nat.choose_succ_succ', Nat.choose_one_right]
  have hr := after.length_ready_le
  rw [← h, turnsLeft]
  omega

theorem turnsLeft_le (room : Room σ α κ) :
    room.turnsLeft ≤ room.suspended.length * (room.suspended.length + 1) := by
  have hr := room.length_ready_le
  have hp := Nat.choose_le_pow room.suspended.length 2
  calc room.turnsLeft ≤ room.suspended.length + room.suspended.length ^ 2 := Nat.add_le_add hr hp
    _ = room.suspended.length * (room.suspended.length + 1) := by
      rw [Nat.pow_two, Nat.mul_succ, Nat.add_comm]

end Room

namespace Monitor

variable {σ α κ χ ρ : Type}

def Discreet (m : Monitor σ α κ χ ρ) : Prop :=
  ∀ now state call place, (m.turn now state call place).Discreet

variable {m : Monitor σ α κ χ ρ}

theorem Discreet.resume (h : m.Discreet) (now : Instant) (state : σ) (call : α) (stage : κ) :
    (m.resume now state call stage).Discreet :=
  h now state call (some stage)

variable [DecidableEq χ] {room : Room σ α κ} {s : Suspended α κ}
  {earlier later : List (Suspended α κ)}

/-- How the ready call `s` has run. Either it waits again, and then it has signalled nobody and only
the call itself has moved. Or it has returned, and may have woken others. -/
inductive Ran (m : Monitor σ α κ χ ρ) (room : Room σ α κ) (s : Suspended α κ) :
    Room σ α κ → Option (Report α ρ) → Prop
  | waits {earlier later : List (Suspended α κ)} {stage : κ}
      (ready : room.ready = earlier ++ s :: later)
      (silent : (m.resume room.now room.state s.call s.stage).signals = []) :
      Ran m room s
        { room with
          state := (m.resume room.now room.state s.call s.stage).state
          parked := room.parked ++ [⟨s.task, s.call, stage⟩]
          ready := earlier ++ later }
        (some ⟨s.task, s.call, .waiting⟩)
  | returns {earlier later woken : List (Suspended α κ)} {after : Room σ α κ} {result : ρ}
      (ready : room.ready = earlier ++ s :: later)
      (parked : room.parked.Perm (after.parked ++ woken))
      (others : after.ready = earlier ++ later ++ woken) :
      Ran m room s after (some ⟨s.task, s.call, .returned result⟩)

theorem conclude_of_silent {turn : Turn σ κ χ ρ} (h : turn.signals = []) (room : Room σ α κ)
    (task : Nat) (call : α) :
    (m.conclude room task call turn).1 =
      { room with state := turn.state, parked := room.parked ++ turn.left task call } := by
  rw [conclude_eq, h]
  rfl

theorem Discreet.ran (h : m.Discreet) {task : Nat}
    (hf : room.ready.find? (·.task = task) = some s) :
    m.Ran room s (m.step room (.run task)).1 (m.step room (.run task)).2 := by
  obtain ⟨earlier, later, hr, rfl, hs⟩ := m.step_run_of_find? hf
  rw [hs]
  cases ho : (m.resume room.now room.state s.call s.stage).outcome with
  | waiting =>
    have silent := h.resume room.now room.state s.call s.stage ho
    obtain ⟨stage, hl⟩ := Turn.left_of_waiting ho s.task s.call
    rw [conclude_of_silent silent, hl]
    exact .waits hr silent
  | returned result =>
    obtain ⟨woken, c⟩ := m.conclude_concluded { room with ready := earlier ++ later } s.task s.call
      (m.resume room.now room.state s.call s.stage)
    have hp := c.parked
    rw [Turn.left_eq_nil ho] at hp
    exact .returns hr hp c.ready

omit [DecidableEq χ] in
theorem Ran.turnsLeft_lt {after : Room σ α κ} {report : Option (Report α ρ)}
    (h : m.Ran room s after report) : after.turnsLeft < room.turnsLeft := by
  cases h with
  | @waits earlier later _ ready =>
    -- one ready call less, and as many calls as before
    have same : room.parked.length + 1 + (earlier.length + later.length) =
        room.parked.length + (earlier.length + (later.length + 1)) := by omega
    simp only [Room.turnsLeft, Room.suspended, ready, List.length_append, List.length_cons,
      List.length_nil, Nat.zero_add, same]
    omega
  | returns ready parked others =>
    -- one call less, and all others may be ready now: they are the pairs that the call was in
    have hp := parked.length_eq
    have gone : after.suspended.length + 1 = room.suspended.length := by
      simp only [Room.suspended, ready, others, List.length_append, List.length_cons] at hp ⊢
      omega
    have hle := Room.turnsLeft_le_of_returned gone
    have hs : s ∈ room.ready := by simp [ready]
    have hpos := List.length_pos_of_mem hs
    change after.turnsLeft < room.ready.length + room.suspended.length.choose 2
    omega

theorem Discreet.step_run_le (h : m.Discreet) (room : Room σ α κ) (task : Nat) :
    (m.step room (.run task)).2.toList.length + (m.step room (.run task)).1.turnsLeft ≤
      room.turnsLeft := by
  cases hf : room.ready.find? (·.task = task) with
  | none => simp [Monitor.step, hf]
  | some s =>
    have hlt := (h.ran hf).turnsLeft_lt
    have one : (m.step room (.run task)).2.toList.length ≤ 1 := Option.length_toList_le
    omega

theorem Discreet.exec_runs (h : m.Discreet) (tasks : List Nat) (room : Room σ α κ) :
    (m.exec room (tasks.map .run)).2.length + (m.exec room (tasks.map .run)).1.turnsLeft ≤
      room.turnsLeft := by
  induction tasks generalizing room with
  | nil => simp [Monitor.exec]
  | cons task rest ih =>
    have first := h.step_run_le room task
    have others := ih (m.step room (.run task)).1
    simp only [List.map_cons, Monitor.exec, List.length_append]
    omega

theorem Discreet.ready_eq_nil (h : m.Discreet) {turns : Nat} {room : Room σ α κ}
    (ht : room.turnsLeft ≤ turns) : (m.runReady turns room).1.ready = [] := by
  induction turns generalizing room with
  | zero =>
    rw [Room.turnsLeft] at ht
    have none_ready : room.ready.length = 0 := by omega
    exact List.length_eq_zero_iff.mp none_ready
  | succ turns ih =>
    rw [runReady]
    cases hr : room.ready with
    | nil => exact hr
    | cons s later =>
      have hf : room.ready.find? (·.task = s.task) = some s := by simp [hr]
      have hlt := (h.ran hf).turnsLeft_lt
      exact ih (by omega)

theorem runReady_add {turns : Nat} {room : Room σ α κ} (h : (m.runReady turns room).1.ready = [])
    (more : Nat) : m.runReady (turns + more) room = m.runReady turns room := by
  induction turns generalizing room with
  | zero =>
    have hr : room.ready = [] := h
    cases more with
    | zero => rfl
    | succ more => simp [runReady, hr]
  | succ turns ih =>
    rw [Nat.add_right_comm, runReady, runReady]
    cases hr : room.ready with
    | nil => rfl
    | cons s later =>
      simp only [runReady, hr] at h
      simp only [ih h]

theorem step_run_now (room : Room σ α κ) (task : Nat) :
    (m.step room (.run task)).1.now = room.now := by
  cases hf : room.ready.find? (·.task = task) with
  | none => simp [Monitor.step, hf]
  | some s =>
    obtain ⟨_, _, -, -, hs⟩ := m.step_run_of_find? hf
    rw [hs]
    exact conclude_now m _ _ _ _

theorem exec_runs_now (tasks : List Nat) (room : Room σ α κ) :
    (m.exec room (tasks.map .run)).1.now = room.now := by
  induction tasks generalizing room with
  | nil => rfl
  | cons task rest ih => exact (ih _).trans (step_run_now room task)

/-- The ready calls of a room run until none is left, and the clock stands still meanwhile. -/
structure Settles (m : Monitor σ α κ χ ρ) (room : Room σ α κ) : Prop where
  ran : ∀ s ∈ room.ready, m.Ran room s (m.step room (.run s.task)).1 (m.step room (.run s.task)).2
  bounded : ∀ tasks : List Nat, (m.exec room (tasks.map .run)).2.length ≤ room.turnsLeft
  /-- With so many turns, first come first served, no call is left ready. -/
  rest : ∀ turns, room.turnsLeft ≤ turns →
    (m.runReady turns room).1.ready = [] ∧ m.runReady turns room = m.settle room
  clock : ∀ turns, (m.runReady turns room).1.now = room.now ∧
    ∃ tasks : List Nat, m.runReady turns room = m.exec room (tasks.map .run)

theorem Discreet.settles (h : m.Discreet) (numbered : Numbered room.suspended room.next) :
    m.Settles room where
  ran s hs := h.ran (numbered.find?_ready hs)
  bounded tasks := Nat.le_of_add_right_le (h.exec_runs tasks room)
  rest turns ht := by
    have enough := h.ready_eq_nil (Nat.le_refl room.turnsLeft)
    obtain ⟨more, rfl⟩ := Nat.exists_eq_add_of_le ht
    obtain ⟨most, hm⟩ := Nat.exists_eq_add_of_le room.turnsLeft_le
    refine ⟨h.ready_eq_nil ht, ?_⟩
    rw [settle, hm, runReady_add enough, runReady_add enough]
  clock turns := by
    obtain ⟨tasks, ht⟩ := m.runReady_exec turns room
    rw [← ht]
    exact ⟨exec_runs_now tasks room, tasks, rfl⟩

end Monitor

end BlockingSync
