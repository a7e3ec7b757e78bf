import BlockingSync.Proofs.Queue.Move

namespace BlockingSync

theorem QueueStage.eq_or_eq_other (stage k : QueueStage) : k = stage ∨ k = stage.other := by
  cases stage <;> cases k <;> simp [other]

theorem QueueStage.other_ne (stage : QueueStage) : stage ≠ stage.other := by
  cases stage <;> simp [other]

namespace QueueCall

variable {α : Type}

def isPush : QueueCall α → Bool
  | push _ => true
  | _ => false

def isPop : QueueCall α → Bool
  | pop _ => true
  | _ => false

theorem isPush_iff {call : QueueCall α} : call.isPush = true ↔ call.stage? = some .pusher := by
  cases call <;> simp [isPush, stage?]

theorem isPop_iff {call : QueueCall α} : call.isPop = true ↔ call.stage? = some .popper := by
  cases call <;> simp [isPop, stage?]

end QueueCall

namespace Queue

variable {α : Type}

/-- How many calls at a stage could go on: there are items for pops and places for pushes. -/
def supply (queue : Queue α) : QueueStage → Nat
  | .pusher => queue.capacity.size - queue.length
  | .popper => queue.length

/-- What a call is parked for is going to be taken by ready calls, or by the call that acts if its
stage is the same. Nobody is parked at a queue that is shut down. -/
structure Supplied (queue : Queue α) (parked ready : List (Suspended (QueueCall α) QueueStage))
    (acting : Option QueueStage) : Prop where
  supply : ∀ s ∈ parked,
    queue.supply s.stage ≤ countAt s.stage ready + if acting = some s.stage then 1 else 0
  closed : queue.shutDown = true → parked = []

variable {queue : Queue α} {parked ready waiting : List (Suspended (QueueCall α) QueueStage)}
  {room after : QueueRoom α} {task : Nat} {call : QueueCall α} {turn : QueueTurn α}
  {woken : List (Suspended (QueueCall α) QueueStage)} {stage : QueueStage} {now : Instant}

theorem supplied_nil (queue : Queue α) (ready : List (Suspended (QueueCall α) QueueStage))
    (acting : Option QueueStage) : Supplied queue [] ready acting where
  supply s hs := by cases hs
  closed _ := rfl

theorem Counted.stage_ne (h : Counted queue waiting) (hb : queue.blocked stage = 0)
    {s : Suspended (QueueCall α) QueueStage} (hs : s ∈ waiting) : s.stage ≠ stage := by
  intro hk
  have hc := (h.blocked stage).symm.trans hb
  exact List.countP_eq_zero.mp hc s hs (by simpa using hk)

theorem Counted.parked_eq_nil (h : Counted queue room.suspended)
    (hb : ∀ stage, queue.blocked stage = 0) : room.parked = [] := by
  apply List.eq_nil_iff_forall_not_mem.mpr
  intro s hs
  exact h.stage_ne (hb s.stage) (List.mem_append_left _ hs) rfl

theorem parked_eq_nil (c : (monitor α).Concluded room task call turn after woken)
    (left : turn.left task call = []) (h : room.parked = [] ∨ .all () ∈ turn.signals) :
    after.parked = [] := by
  apply List.eq_nil_iff_forall_not_mem.mpr
  intro s hs
  obtain hl | ⟨hp, hall⟩ := c.mem s hs
  · rw [left] at hl
    cases hl
  · obtain h | h := h
    · rw [h] at hp
      cases hp
    · exact hall () h rfl

theorem Supplied.short (h : Supplied queue room.parked room.ready (some stage))
    (c : (monitor α).Concluded room task call turn after woken)
    (own : queue.supply stage = 0) (same : turn.state.supply = queue.supply)
    (left : ∀ s ∈ turn.left task call, s.stage = stage) (isOpen : turn.state.shutDown = false) :
    Supplied after.state after.parked after.ready none where
  supply s hs := by
    rw [c.state, same]
    by_cases hk : s.stage = stage
    · rw [hk, own]
      exact Nat.zero_le _
    · obtain hl | ⟨hp, -⟩ := c.mem s hs
      · exact absurd (left s hl) hk
      · have hle := h.supply s hp
        rw [if_neg fun he => hk (Option.some.inj he).symm] at hle
        rw [c.ready, countAt_append]
        omega
  closed hd := by
    rw [c.state, isOpen] at hd
    cases hd

theorem Supplied.trade (h : Supplied queue room.parked room.ready (some stage))
    (counted : Counted queue room.suspended)
    (c : (monitor α).Concluded room task call turn after woken)
    (signals : turn.signals = wakeOther (queue.blocked stage.other) (queue.blocked stage))
    (left : turn.left task call = []) (own : turn.state.supply stage + 1 ≤ queue.supply stage)
    (others : turn.state.supply stage.other ≤ queue.supply stage.other + 1)
    (shut : turn.state.shutDown = queue.shutDown) :
    Supplied after.state after.parked after.ready none where
  supply s hs := by
    obtain hl | ⟨hp, hall⟩ := c.mem s hs
    · rw [left] at hl
      cases hl
    have hle := h.supply s hp
    rw [c.state, c.ready, countAt_append]
    obtain hk | hk := stage.eq_or_eq_other s.stage
    · rw [hk, if_pos rfl] at hle
      rw [hk]
      omega
    rw [hk, if_neg fun he => stage.other_ne (Option.some.inj he)] at hle
    rw [hk]
    have hother : queue.blocked stage.other ≠ 0 := by
      intro hb
      exact counted.stage_ne hb (List.mem_append_left _ hp) hk
    -- a signal to all would have woken `s`
    have hown : queue.blocked stage = 0 := by
      apply Decidable.byContradiction
      intro hb
      rw [signals, wakeOther, if_neg hother, if_neg hb] at hall
      exact hall () (List.mem_singleton.mpr rfl) rfl
    rw [wakeOther, if_neg hother, if_pos hown] at signals
    obtain ⟨t, ht, -⟩ := c.one () (by rw [signals]; exact List.mem_singleton.mpr rfl) s hp rfl
    have htp : t ∈ room.parked := by
      have hm := c.parked.mem_iff.mpr (List.mem_append_right after.parked ht)
      rw [left] at hm
      exact hm
    have htk : t.stage = stage.other := by
      obtain hk' | hk' := stage.eq_or_eq_other t.stage
      · exact absurd hk' (counted.stage_ne hown (List.mem_append_left _ htp))
      · exact hk'
    have hw : 0 < countAt stage.other woken := List.countP_pos_iff.mpr ⟨t, ht, by simpa using htk⟩
    omega
  closed hd := by
    rw [c.state, shut] at hd
    exact parked_eq_nil c left (Or.inl (h.closed hd))

theorem Move.supplied (m : Move now queue call turn)
    (h : Supplied queue room.parked room.ready call.stage?)
    (counted : Counted queue room.suspended)
    (idle : ∀ capacity, call = .setCapacity capacity → room.parked = [])
    (c : (monitor α).Concluded room task call turn after woken) :
    Supplied after.state after.parked after.ready none := by
  cases m with
  | pushRefuse closed | popRefuse _ closed | closeAgain closed =>
    rw [parked_eq_nil c rfl (Or.inl (h.closed closed))]
    exact supplied_nil _ _ _
  | pushWait isOpen full =>
    refine h.short c (Nat.sub_eq_zero_of_le full) rfl ?_ isOpen
    intro s hs
    obtain rfl := List.mem_singleton.mp hs
    rfl
  | pushEnter isOpen space =>
    refine h.trade counted c rfl rfl ?_ ?_ rfl
    · simp only [supply, length, List.length_append, List.length_singleton] at space ⊢
      omega
    · simp [supply, length, QueueStage.other]
  | @popTake _ a rest items =>
    refine h.trade counted c rfl rfl ?_ ?_ rfl
    · simp [supply, length, items]
    · simp only [supply, length, items, QueueStage.other, List.length_cons]
      omega
  | popTimeout empty isOpen =>
    refine h.short c (by simp [supply, length, empty]) rfl ?_ isOpen
    intro s hs
    cases hs
  | popWait empty isOpen =>
    refine h.short c (by simp [supply, length, empty]) rfl ?_ isOpen
    intro s hs
    obtain rfl := List.mem_singleton.mp hs
    rfl
  | close isOpen =>
    rw [parked_eq_nil c rfl ?_]
    · exact supplied_nil _ _ _
    · by_cases hb : 0 < queue.blockedPushers ∨ 0 < queue.blockedPoppers
      · right
        rw [if_pos hb]
        exact List.mem_singleton.mpr rfl
      · left
        apply counted.parked_eq_nil
        intro stage
        cases stage <;> rw [blocked] <;> omega
  | resize capacity =>
    rw [parked_eq_nil c rfl (Or.inl (idle capacity rfl))]
    exact supplied_nil _ _ _

theorem Supplied.wake (h : Supplied room.state room.parked room.ready none)
    (hw : room.Wakes after woken) : Supplied after.state after.parked after.ready none where
  supply s hs := by
    have hle := h.supply s (hw.mem_parked hs)
    rw [hw.state, hw.ready, countAt_append]
    omega
  closed hd := by
    rw [hw.state] at hd
    apply List.eq_nil_iff_forall_not_mem.mpr
    intro s hs
    have hp := hw.mem_parked hs
    rw [h.closed hd] at hp
    cases hp

theorem Supplied.newcomer (h : Supplied queue parked ready none) (acting : Option QueueStage) :
    Supplied queue parked ready acting where
  supply s hs := Nat.le_add_right_of_le (h.supply s hs)
  closed := h.closed

theorem supply_unblock (queue : Queue α) (stage : QueueStage) :
    (queue.unblock stage).supply = queue.supply := by
  cases stage <;> rfl

theorem shutDown_unblock (queue : Queue α) (stage : QueueStage) :
    (queue.unblock stage).shutDown = queue.shutDown := by
  cases stage <;> rfl

theorem Supplied.take {s : Suspended (QueueCall α) QueueStage}
    {earlier later : List (Suspended (QueueCall α) QueueStage)}
    (h : Supplied queue parked (earlier ++ s :: later) none) :
    Supplied (queue.unblock s.stage) parked (earlier ++ later) (some s.stage) where
  supply t ht := by
    have hle := h.supply t ht
    rw [countAt_append, countAt_cons] at hle
    rw [supply_unblock, countAt_append]
    simp only [Option.some.injEq, reduceCtorEq, if_false] at hle ⊢
    omega
  closed hd := by
    rw [shutDown_unblock] at hd
    exact h.closed hd

theorem Supplied.change {event : Event (QueueCall α)}
    {report : Option (Report (QueueCall α) (QueueResult α))}
    (hc : (monitor α).Change room event after report)
    (counted : Counted room.state room.suspended)
    (h : Supplied room.state room.parked room.ready none) :
    Supplied after.state after.parked after.ready none := by
  cases hc with
  | number => exact h
  | wake _ hw => exact h.wake hw
  | start call free =>
    obtain ⟨woken, c⟩ := (monitor α).conclude_concluded { room with next := room.next + 1 }
      room.next call (start room.now room.state call)
    refine (start_move room.now room.state call).supplied ?_ ?_ ?_ c
    · exact h.newcomer _
    · exact counted
    · rintro capacity rfl
      apply List.eq_nil_iff_forall_not_mem.mpr
      intro s hs
      exact List.any_eq_false.mp free s (List.mem_append_left _ hs) rfl
  | run s earlier later hr =>
    obtain ⟨woken, c⟩ := (monitor α).conclude_concluded { room with ready := earlier ++ later }
      s.task s.call (resume room.now room.state s.call s.stage)
    have hs := counted.perm (Monitor.suspended_of_ready hr)
    have hk := hs.places s List.mem_cons_self
    obtain ⟨m, counted'⟩ := hs.resume room.now
    rw [hr] at h
    refine m.supplied ?_ counted' ?_ c
    · rw [hk]
      exact h.take
    · intro capacity he
      rw [he] at hk
      cases hk

theorem supplied_run (capacity : Capacity) (now : Instant) (events : List (Event (QueueCall α))) :
    Counted (run capacity now events).1.state (run capacity now events).1.suspended ∧
      Supplied (run capacity now events).1.state (run capacity now events).1.parked
        (run capacity now events).1.ready none := by
  refine (monitor α).exec_induction
    (P := fun _ room _ =>
      Counted room.state room.suspended ∧ Supplied room.state room.parked room.ready none)
    ?_ ?_ events
  · exact ⟨counted_new capacity, supplied_nil _ _ _⟩
  · rintro events room reports event ⟨counted, h⟩
    have hc := (monitor α).step_change room event
    have counted' : Counted ((monitor α).step room event).1.state
        ((monitor α).step room event).1.suspended :=
      keeps_counted.change reports hc counted
    exact ⟨counted', h.change hc counted⟩

/-- While a pop is parked there are no more items than ready pops, and while a push is parked there
are no more places than ready pushes. Nobody is parked at a queue that is shut down. -/
structure NoneStranded (room : QueueRoom α) : Prop where
  pops : (∃ s ∈ room.parked, s.call.isPop) → room.state.length ≤ room.ready.countP (·.call.isPop)
  pushes : (∃ s ∈ room.parked, s.call.isPush) →
    room.state.capacity.size - room.state.length ≤ room.ready.countP (·.call.isPush)
  closed : room.state.shutDown = true → room.parked = []

structure Starved (room : QueueRoom α) : Prop where
  pops : ∀ s ∈ room.parked, s.call.isPop → room.state.items = [] ∧ room.state.shutDown = false
  pushes : ∀ s ∈ room.parked, s.call.isPush →
    room.state.capacity.size ≤ room.state.length ∧ room.state.shutDown = false
  not_both : ¬ ((∃ s ∈ room.parked, s.call.isPop) ∧ ∃ s ∈ room.parked, s.call.isPush)

theorem countAt_eq_countP (places : ∀ s ∈ waiting, s.call.stage? = some s.stage)
    {kind : QueueCall α → Bool} (hkind : ∀ {call}, kind call = true ↔ call.stage? = some stage) :
    countAt stage waiting = waiting.countP (kind ·.call) := by
  apply List.countP_congr
  intro s hs
  rw [hkind, places s hs]
  simp

theorem Supplied.le_ready (h : Supplied room.state room.parked room.ready none)
    (places : ∀ s ∈ room.suspended, s.call.stage? = some s.stage) {kind : QueueCall α → Bool}
    (hkind : ∀ {call}, kind call = true ↔ call.stage? = some stage)
    (hp : ∃ s ∈ room.parked, kind s.call) :
    room.state.supply stage ≤ room.ready.countP (kind ·.call) := by
  obtain ⟨s, hs, hp⟩ := hp
  have hk := (places s (List.mem_append_left _ hs)).symm.trans (hkind.mp hp)
  have hle := h.supply s hs
  rw [Option.some.inj hk] at hle
  rw [← countAt_eq_countP (fun t ht => places t (List.mem_append_right _ ht)) hkind]
  exact hle

theorem Supplied.noneStranded (h : Supplied room.state room.parked room.ready none)
    (places : ∀ s ∈ room.suspended, s.call.stage? = some s.stage) : NoneStranded room where
  pops := h.le_ready places QueueCall.isPop_iff
  pushes := h.le_ready places QueueCall.isPush_iff
  closed := h.closed

theorem NoneStranded.starved (h : NoneStranded room) (hr : room.ready = []) : Starved room := by
  have isOpen : ∀ s ∈ room.parked, room.state.shutDown = false := by
    intro s hs
    apply Bool.eq_false_iff.mpr
    intro hd
    rw [h.closed hd] at hs
    cases hs
  have pops : ∀ s ∈ room.parked, s.call.isPop → room.state.length = 0 := by
    intro s hs hp
    have hle := h.pops ⟨s, hs, hp⟩
    rw [hr] at hle
    exact Nat.eq_zero_of_le_zero hle
  have pushes : ∀ s ∈ room.parked, s.call.isPush →
      room.state.capacity.size ≤ room.state.length := by
    intro s hs hp
    have hle := h.pushes ⟨s, hs, hp⟩
    rw [hr] at hle
    exact Nat.le_of_sub_eq_zero (Nat.eq_zero_of_le_zero hle)
  constructor
  · exact fun s hs hp => ⟨List.length_eq_zero_iff.mp (pops s hs hp), isOpen s hs⟩
  · exact fun s hs hp => ⟨pushes s hs hp, isOpen s hs⟩
  · rintro ⟨⟨s, hs, hsp⟩, t, ht, htp⟩
    have hempty := pops s hs hsp
    have hfull := pushes t ht htp
    have hpos := room.state.capacity.size_pos
    omega

/-- In every state that a run reaches, enough calls have been woken for what there is to take, and
nobody is parked after a shutdown. If nothing is ready, the parked calls wait for what is not
there. -/
theorem none_stranded (capacity : Capacity) (now : Instant) (events : List (Event (QueueCall α))) :
    NoneStranded (run capacity now events).1 ∧
      ((run capacity now events).1.ready = [] → Starved (run capacity now events).1) := by
  obtain ⟨counted, h⟩ := supplied_run capacity now events
  have hn := h.noneStranded counted.places
  exact ⟨hn, hn.starved⟩

-- An item beside a parked pop: the pop that was woken for it has not run yet.
example :
    let events : List (Event (QueueCall Nat)) :=
      [.start (.pop .infinite), .start (.pop .infinite), .start (.push 7)]
    let room := (run .unbounded .zero events).1
    room.state.items = [7] ∧ room.parked.map (·.task) = [1] ∧ room.ready.map (·.task) = [0] := by
  decide

end Queue

end BlockingSync
