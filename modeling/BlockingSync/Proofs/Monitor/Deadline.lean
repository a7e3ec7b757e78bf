import BlockingSync.Proofs.Monitor.Calls
import BlockingSync.Proofs.Time.Countdown

namespace BlockingSync

/-- The outcome of a turn at `now` of a call that is held up or not. It waits only if its deadline
has not come, gives up only if it has, and does neither unless it is held up. -/
structure Timely {ρ : Type} (late : ρ → Bool) (now : Instant) (timeout : Timeout) (heldUp : Prop)
    (outcome : Outcome ρ) : Prop where
  waits : outcome = .waiting → heldUp ∧ ∀ t, timeout.deadline = some t → now < t
  late : ∀ result, outcome = .returned result → late result = true →
    heldUp ∧ ∃ t, timeout.deadline = some t ∧ t ≤ now

namespace Timely

variable {ρ κ σ χ : Type} {late : ρ → Bool} {now : Instant} {timeout : Timeout} {heldUp : Prop}

theorem of_returns {result : ρ} (h : late result = false) :
    Timely late now timeout heldUp (.returned result) where
  waits hw := by cases hw
  late result' hr hl := by
    obtain rfl := Outcome.returned.inj hr
    rw [h] at hl
    cases hl

theorem of_late {result : ρ} (held : heldUp) (h : timeout.isExpired now = true) :
    Timely late now timeout heldUp (.returned result) where
  waits hw := by cases hw
  late _ _ _ := ⟨held, Timeout.isExpired_iff.mp h⟩

theorem of_waits (held : heldUp) (h : timeout.isExpired now = false) :
    Timely late now timeout heldUp .waiting where
  waits _ := ⟨held, Timeout.isExpired_eq_false_iff.mp h⟩
  late _ hr _ := by cases hr

end Timely

namespace Monitor

variable {σ α κ χ ρ : Type}

def Punctual (m : Monitor σ α κ χ ρ) (late : ρ → Bool) (heldUp : σ → α → Option κ → Prop) : Prop :=
  ∀ now state call place,
    Timely late now (m.timeout call) (heldUp state call place) (m.turn now state call place).outcome

variable {m : Monitor σ α κ χ ρ} {late : ρ → Bool} {heldUp : σ → α → Option κ → Prop}

theorem Punctual.waits (p : m.Punctual late heldUp) (place : Option κ) {now : Instant} {state : σ}
    {call : α} (h : (m.turn now state call place).outcome = .waiting) :
    (m.timeout call).isExpired now = false :=
  Timeout.isExpired_eq_false_iff.mpr ((p now state call place).waits h).2

theorem Punctual.limited (p : m.Punctual late heldUp) (place : Option κ) {now : Instant} {state : σ}
    {call : α} {result : ρ} (h : (m.turn now state call place).outcome = .returned result)
    (hl : late result = true) :
    (m.timeout call).isInfinite = false := by
  obtain ⟨-, t, ht, -⟩ := (p now state call place).late result h hl
  rw [Timeout.isInfinite, ht, Option.isNone_some]

theorem Punctual.keeps_limited (p : m.Punctual late heldUp) :
    m.Keeps fun _ _ reports => ∀ r ∈ reports, ∀ result, r.outcome = .returned result →
      late result = true → (m.timeout r.call).isInfinite = false where
  perm _ h := h
  start now task call _ h r hr := by
    obtain hr | hr := List.mem_append.mp hr
    · exact h r hr
    · obtain rfl := List.mem_singleton.mp hr
      exact fun result => p.limited none
  resume now s h r hr := by
    obtain hr | hr := List.mem_append.mp hr
    · exact h r hr
    · obtain rfl := List.mem_singleton.mp hr
      exact fun result => p.limited (some s.stage)

variable [DecidableEq χ]

/-- What a run has come to keeps its deadlines: those of the calls that have not returned, those of
the calls that are going to run next, and those of the calls that have returned. -/
structure OnTime (m : Monitor σ α κ χ ρ) (late : ρ → Bool) (heldUp : σ → α → Option κ → Prop)
    (room : Room σ α κ) (reports : List (Report α ρ)) : Prop where
  parked : ∀ s ∈ room.parked, ∀ t, (m.timeout s.call).deadline = some t → room.now < t
  /-- The time that is left to a parked call leads from now to its deadline. -/
  left : ∀ s ∈ room.parked, ∀ time, (m.timeout s.call).remaining room.now = some time →
    room.now.add? time = (m.timeout s.call).deadline
  /-- The clock wakes a parked call once the time that is left to it has gone by, and not before. -/
  woken : ∀ s ∈ room.parked, ∀ d later, room.now.add? d = some later →
    (s ∈ (m.step room (.advance d)).1.ready ↔
      ∃ time, (m.timeout s.call).remaining room.now = some time ∧ time ≤ d)
  start : ∀ call, m.busy room call = false →
    ∃ outcome, (m.step room (.start call)).2 = some ⟨room.next, call, outcome⟩ ∧
      Timely late room.now (m.timeout call) (heldUp room.state call none) outcome
  run : ∀ s ∈ room.ready,
    ∃ outcome, (m.step room (.run s.task)).2 = some ⟨s.task, s.call, outcome⟩ ∧
      Timely late room.now (m.timeout s.call) (heldUp room.state s.call (some s.stage)) outcome
  /-- As long as a call waits, and when it returns, it is the call that was started. -/
  fixed : ∀ call more, let later := m.exec (m.step room (.start call)).1 more
    (∀ s ∈ later.1.suspended, s.task = room.next → s.call = call) ∧
      ∀ r ∈ later.2, r.task = room.next → r.call = call
  limited : ∀ r ∈ reports, ∀ result, r.outcome = .returned result → late result = true →
    (m.timeout r.call).isInfinite = false

theorem signal_now (m : Monitor σ α κ χ ρ) (room : Room σ α κ) (signal : Signal χ) :
    (m.signal room signal).now = room.now := by
  cases signal with
  | one c =>
    rw [Monitor.signal, Room.wakeFirst]
    split <;> rfl
  | all c => rfl

theorem foldl_signal_now (m : Monitor σ α κ χ ρ) (room : Room σ α κ) (signals : List (Signal χ)) :
    (signals.foldl m.signal room).now = room.now := by
  induction signals generalizing room with
  | nil => rfl
  | cons first rest ih => exact (ih _).trans (m.signal_now room first)

theorem conclude_now (m : Monitor σ α κ χ ρ) (room : Room σ α κ) (task : Nat) (call : α)
    (turn : Turn σ κ χ ρ) : (m.conclude room task call turn).1.now = room.now := by
  rw [conclude_eq]
  exact m.foldl_signal_now _ _

def Early (m : Monitor σ α κ χ ρ) (room : Room σ α κ) : Prop :=
  ∀ s ∈ room.parked, (m.timeout s.call).isExpired room.now = false

theorem Early.conclude {room : Room σ α κ} (h : m.Early room) {task : Nat} {call : α}
    {turn : Turn σ κ χ ρ}
    (ht : turn.outcome = .waiting → (m.timeout call).isExpired room.now = false) :
    m.Early (m.conclude room task call turn).1 := by
  obtain ⟨woken, c⟩ := m.conclude_concluded room task call turn
  intro s hs
  rw [conclude_now]
  obtain hl | ⟨hp, -⟩ := c.mem s hs
  · obtain ⟨-, hc, hw⟩ := Turn.mem_left.mp hl
    rw [hc]
    apply ht
    rw [Turn.outcome, hw]
  · exact h s hp

theorem Early.step (p : m.Punctual late heldUp) {room : Room σ α κ} (h : m.Early room)
    (event : Event α) : m.Early (m.step room event).1 := by
  cases event with
  | start call =>
    cases hb : m.busy room call with
    | true => simpa [Monitor.step, hb, Early] using h
    | false =>
      rw [step_start_room _ hb]
      have h' : m.Early { room with next := room.next + 1 } := h
      exact h'.conclude (p.waits none)
  | run task =>
    cases hf : room.ready.find? (·.task = task) with
    | none => simpa [Monitor.step, hf] using h
    | some s =>
      obtain ⟨earlier, later, -, -, hs⟩ := m.step_run_of_find? hf
      rw [hs]
      have h' : m.Early { room with ready := earlier ++ later } := h
      exact h'.conclude (p.waits (some s.stage))
  | wake task =>
    have hw := room.wakeFirst_wakes (·.task = task)
    have hn : (room.wakeFirst (·.task = task)).now = room.now := by
      rw [Room.wakeFirst]
      split <;> rfl
    intro s hs
    rw [show (m.step room (.wake task)).1.now = room.now from hn]
    exact h s (hw.mem_parked hs)
  | advance d =>
    intro s hs
    obtain ⟨-, hd⟩ := List.mem_filter.mp hs
    change (m.timeout s.call).isExpired (room.now.advance d) = false
    simpa using hd
  | skip => exact h

theorem mem_ready_advance {room : Room σ α κ} {n : Nat} (numbered : Numbered room.suspended n)
    {s : Suspended α κ} (hs : s ∈ room.parked) (d : Duration) :
    s ∈ (m.step room (.advance d)).1.ready ↔
      (m.timeout s.call).isExpired (room.now.advance d) = true := by
  have apart : s ∉ room.ready := fun hr => numbered.task_ne hs hr rfl
  simp [Monitor.step, List.mem_mergeSort, apart, hs]

theorem Punctual.onTime (p : m.Punctual late heldUp) {room : Room σ α κ}
    (fresh : room.suspended = []) (events : List (Event α)) :
    m.OnTime late heldUp (m.exec room events).1 (m.exec room events).2 := by
  have numbered := numbered_exec (m := m) fresh events
  have early : m.Early (m.exec room events).1 := by
    refine m.exec_induction (P := fun _ room _ => m.Early room) ?_
      (fun event h => h.step p event) events
    intro s hs
    have hn := List.mem_append_left room.ready hs
    rw [← Room.suspended, fresh] at hn
    cases hn
  constructor
  · exact fun s hs => Timeout.isExpired_eq_false_iff.mp (early s hs)
  · exact fun s hs time => Timeout.add?_remaining (early s hs)
  · intro s hs d later hd
    rw [mem_ready_advance numbered hs, Instant.advance_of_add?_eq_some hd]
    exact Timeout.isExpired_add?_iff (early s hs) hd
  · exact fun call free => ⟨_, m.step_start free, p _ _ call none⟩
  · exact fun s hs => ⟨_, m.step_run numbered hs, p _ _ s.call (some s.stage)⟩
  · intro call more
    have named := (named_start (m := m) numbered call).exec (m := m) more
    exact ⟨named.suspended, named.reports⟩
  · exact p.keeps_limited.exec (by simp) events

end Monitor

end BlockingSync
