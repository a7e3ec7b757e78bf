import BlockingSync.Monitor.Room

namespace BlockingSync

theorem eraseP_of_find?_eq_some {β : Type} {p : β → Bool} {l : List β} {x : β}
    (h : l.find? p = some x) :
    ∃ earlier later, l = earlier ++ x :: later ∧ l.eraseP p = earlier ++ later := by
  obtain ⟨hx, earlier, later, hl, he⟩ := List.find?_eq_some_iff_append.mp h
  refine ⟨earlier, later, hl, ?_⟩
  rw [hl, List.eraseP_append_right (x :: later) (by simpa using he), List.eraseP_cons_of_pos hx]

namespace Room

variable {σ α κ : Type}

/-- The calls `woken` have become ready, and the state is as before. -/
structure Wakes (before after : Room σ α κ) (woken : List (Suspended α κ)) : Prop where
  state : after.state = before.state
  next : after.next = before.next
  parked : before.parked.Perm (after.parked ++ woken)
  ready : after.ready = before.ready ++ woken

namespace Wakes

variable {before middle after : Room σ α κ} {woken others : List (Suspended α κ)}

theorem refl (room : Room σ α κ) : room.Wakes room [] where
  state := rfl
  next := rfl
  parked := by rw [List.append_nil]
  ready := by rw [List.append_nil]

theorem trans (h : before.Wakes middle woken) (h' : middle.Wakes after others) :
    before.Wakes after (woken ++ others) where
  state := h'.state.trans h.state
  next := h'.next.trans h.next
  parked := by
    have hp := h.parked.trans (h'.parked.append_right woken)
    refine hp.trans ?_
    rw [List.append_assoc]
    exact List.Perm.append_left after.parked List.perm_append_comm
  ready := by rw [h'.ready, h.ready, List.append_assoc]

theorem suspended (h : before.Wakes after woken) : before.suspended.Perm after.suspended := by
  rw [Room.suspended, Room.suspended, h.ready]
  refine (h.parked.append_right before.ready).trans ?_
  rw [List.append_assoc]
  exact List.perm_append_comm.append_left after.parked

theorem mem_parked (h : before.Wakes after woken) {s : Suspended α κ} (hs : s ∈ after.parked) :
    s ∈ before.parked :=
  h.parked.mem_iff.mpr (List.mem_append_left woken hs)

theorem mem_ready (h : before.Wakes after woken) {s : Suspended α κ} (hs : s ∈ before.ready) :
    s ∈ after.ready := by
  rw [h.ready]
  exact List.mem_append_left woken hs

theorem parked_or_woken (h : before.Wakes after woken) {s : Suspended α κ}
    (hs : s ∈ before.parked) : s ∈ after.parked ∨ s ∈ woken :=
  List.mem_append.mp (h.parked.mem_iff.mp hs)

end Wakes

theorem wakeFirst_wakes (room : Room σ α κ) (p : Suspended α κ → Bool) :
    room.Wakes (room.wakeFirst p) (room.parked.find? p).toList := by
  rw [wakeFirst]
  cases h : room.parked.find? p with
  | none => exact Wakes.refl room
  | some s =>
    obtain ⟨earlier, later, hl, hp⟩ := eraseP_of_find?_eq_some h
    refine ⟨rfl, rfl, ?_, rfl⟩
    rw [hp, hl, Option.toList_some]
    exact List.perm_middle.trans (List.perm_append_singleton s (earlier ++ later)).symm

theorem wakeAll_wakes (room : Room σ α κ) (p : Suspended α κ → Bool) :
    room.Wakes (room.wakeAll p) (room.parked.filter p) where
  state := rfl
  next := rfl
  parked := List.perm_append_comm.trans (List.filter_append_perm p room.parked) |>.symm
  ready := rfl

theorem wakeFirst_of_none {room : Room σ α κ} {p : Suspended α κ → Bool}
    (h : ∀ s ∈ room.parked, ¬ p s = true) : room.wakeFirst p = room := by
  rw [wakeFirst, List.find?_eq_none.mpr h]

theorem wakeAll_of_none {room : Room σ α κ} {p : Suspended α κ → Bool}
    (h : ∀ s ∈ room.parked, ¬ p s = true) : room.wakeAll p = room := by
  have stay : room.parked.filter (!p ·) = room.parked :=
    List.filter_eq_self.mpr fun s hs => by simpa using h s hs
  rw [wakeAll, stay, List.filter_eq_nil_iff.mpr h, List.append_nil]

end Room

def Signal.condition {χ : Type} : Signal χ → χ
  | one c => c
  | all c => c

namespace Monitor

variable {σ α κ χ ρ : Type} [DecidableEq χ] (m : Monitor σ α κ χ ρ)

/-- In the room `after` some signals have been sent. One to all has left nobody at its condition,
and one to a single call has found somebody if anybody was there. -/
structure Signalled (room : Room σ α κ) (signals : List (Signal χ)) (after : Room σ α κ)
    (woken : List (Suspended α κ)) : Prop where
  wakes : room.Wakes after woken
  all : ∀ c, .all c ∈ signals → ∀ s ∈ after.parked, m.condition s.stage ≠ c
  one : ∀ c, .one c ∈ signals → ∀ s ∈ room.parked, m.condition s.stage = c →
    ∃ t ∈ woken, m.condition t.stage = c

theorem signal_signalled (room : Room σ α κ) (signal : Signal χ) :
    ∃ woken, m.Signalled room [signal] (m.signal room signal) woken := by
  cases signal with
  | one c =>
    refine ⟨_, room.wakeFirst_wakes _, by simp, ?_⟩
    intro d hd s hs hsd
    obtain rfl : d = c := by simpa using hd
    have hf : (room.parked.find? (m.condition ·.stage = d)).isSome :=
      List.find?_isSome.mpr ⟨s, hs, by simpa using hsd⟩
    obtain ⟨t, ht⟩ := Option.isSome_iff_exists.mp hf
    exact ⟨t, by simp [ht], by simpa using List.find?_some ht⟩
  | all c =>
    refine ⟨_, room.wakeAll_wakes _, ?_, by simp⟩
    intro d hd s hs
    obtain rfl : d = c := by simpa using hd
    simpa using (List.mem_filter.mp hs).2

theorem foldl_signalled (room : Room σ α κ) (signals : List (Signal χ)) :
    ∃ woken, m.Signalled room signals (signals.foldl m.signal room) woken := by
  induction signals generalizing room with
  | nil => exact ⟨[], Room.Wakes.refl room, by simp, by simp⟩
  | cons first rest ih =>
    obtain ⟨woken, h⟩ := m.signal_signalled room first
    obtain ⟨others, h'⟩ := ih (m.signal room first)
    refine ⟨woken ++ others, h.wakes.trans h'.wakes, ?_, ?_⟩
    · intro c hc s hs
      obtain rfl | hc := List.mem_cons.mp hc
      · exact h.all c List.mem_cons_self s (h'.wakes.mem_parked hs)
      · exact h'.all c hc s hs
    · intro c hc s hs hsc
      obtain rfl | hc := List.mem_cons.mp hc
      · obtain ⟨t, ht, htc⟩ := h.one c List.mem_cons_self s hs hsc
        exact ⟨t, List.mem_append_left others ht, htc⟩
      · obtain hp | hw := h.wakes.parked_or_woken hs
        · obtain ⟨t, ht, htc⟩ := h'.one c hc s hp hsc
          exact ⟨t, List.mem_append_right woken ht, htc⟩
        · exact ⟨s, List.mem_append_left others hw, hsc⟩

variable {m}

theorem signal_of_nobody {room : Room σ α κ} {signal : Signal χ}
    (h : ∀ s ∈ room.parked, m.condition s.stage ≠ signal.condition) :
    m.signal room signal = room := by
  cases signal with
  | one c => exact Room.wakeFirst_of_none fun s hs ht => h s hs (of_decide_eq_true ht)
  | all c => exact Room.wakeAll_of_none fun s hs ht => h s hs (of_decide_eq_true ht)

theorem foldl_signal_of_nobody {room : Room σ α κ} {signals : List (Signal χ)}
    (h : ∀ signal ∈ signals, ∀ s ∈ room.parked, m.condition s.stage ≠ signal.condition) :
    signals.foldl m.signal room = room := by
  induction signals with
  | nil => rfl
  | cons first rest ih =>
    rw [List.foldl_cons, signal_of_nobody (h first List.mem_cons_self)]
    exact ih fun signal hs => h signal (List.mem_cons_of_mem first hs)

end Monitor

end BlockingSync
