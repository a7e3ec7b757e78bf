import BlockingSync.Proofs.Queue.Fifo
import BlockingSync.Proofs.Queue.Wakeup

namespace BlockingSync

namespace Queue

variable {α : Type}

/-- The answer of a queue that is shut down and still has these items. -/
def closedAnswer (items : List α) : QueueCall α → QueueResult α
  | .push a => .refused a
  | .pop _ =>
    match items with
    | a :: _ => .popped a
    | [] => .failed .shutDown
  | .shutDown => .done
  | .setCapacity _ => .done

/-- A queue that was shut down while it had `items`, and the reports since. -/
structure Draining (items : List α) (room : QueueRoom α) (reports : List (QueueReport α)) :
    Prop where
  closed : room.state.shutDown = true
  parked : room.parked = []
  /-- What has been popped is the beginning of `items`, and the rest is queued. -/
  values : items = popped reports ++ room.state.items
  start : ∀ call, (monitor α).busy room call = false →
    ((monitor α).step room (.start call)).2 =
      some ⟨room.next, call, .returned (closedAnswer room.state.items call)⟩
  run : ∀ s ∈ room.ready, ((monitor α).step room (.run s.task)).2 =
    some ⟨s.task, s.call, .returned (closedAnswer room.state.items s.call)⟩
  again : (monitor α).step room (.start .shutDown) =
    ({ room with next := room.next + 1 }, some ⟨room.next, .shutDown, .returned .done⟩)
  pushes : ∀ r ∈ reports, ∀ a, r.call = .push a → r.outcome = .returned (.refused a)
  pops : ∀ r ∈ reports, ∀ timeout, r.call = .pop timeout →
    (∃ a ∈ items, r.outcome = .returned (.popped a)) ∨ r.outcome = .returned (.failed .shutDown)

variable {queue : Queue α} {now : Instant} {call : QueueCall α} {turn : QueueTurn α}
  {room after : QueueRoom α} {event : Event (QueueCall α)} {report : Option (QueueReport α)}
  {items : List α} {reports : List (QueueReport α)}

theorem Move.closed_outcome (m : Move now queue call turn) (closed : queue.shutDown = true) :
    turn.outcome = .returned (closedAnswer queue.items call) := by
  cases m with
  | pushRefuse | closeAgain | resize => rfl
  | popTake items => rw [items]; rfl
  | popRefuse empty => rw [empty]; rfl
  | pushWait isOpen | pushEnter isOpen | popTimeout _ isOpen | popWait _ isOpen | close isOpen =>
    rw [isOpen] at closed
    cases closed

theorem resume_closed_outcome {s : Suspended (QueueCall α) QueueStage}
    {waiting : List (Suspended (QueueCall α) QueueStage)} (h : Counted queue (s :: waiting))
    (closed : queue.shutDown = true) (now : Instant) :
    (resume now queue s.call s.stage).outcome = .returned (closedAnswer queue.items s.call) := by
  obtain ⟨m, -⟩ := h.resume now
  rw [m.closed_outcome (by rw [shutDown_unblock, closed]), items_unblock]

theorem closed_report (hc : (monitor α).Change room event after report)
    (counted : Counted room.state room.suspended) (closed : room.state.shutDown = true) :
    ∀ r ∈ report, r.outcome = .returned (closedAnswer room.state.items r.call) := by
  rintro r hr
  cases hc with
  | number | wake => cases hr
  | start call free =>
    obtain rfl := Option.some.inj hr
    exact (start_move room.now room.state call).closed_outcome closed
  | run s earlier later hl =>
    obtain rfl := Option.some.inj hr
    exact resume_closed_outcome (counted.perm (Monitor.suspended_of_ready hl)) closed room.now

end Queue

theorem Fifo.Step.shutDown {α : Type} {now : Instant} {task : Nat} {result : QueueResult α}
    {before after : Fifo α} (h : before.Step now (some ⟨task, .shutDown, .returned result⟩) after) :
    after = { before with shutDown := true } := by
  cases h
  rfl

theorem Fifo.Step.closed {α : Type} {now : Instant} {before after : Fifo α}
    {report : Option (QueueReport α)} (h : before.Step now report after)
    (closed : before.shutDown = true) : after.shutDown = true := by
  cases h with
  | close => rfl
  | silent | wait | push | refuse | pop | drained | late | resize => exact closed

namespace Queue

variable {α : Type} {room after : QueueRoom α} {event : Event (QueueCall α)}
  {report : Option (QueueReport α)} {items : List α} {reports : List (QueueReport α)}

theorem items_of_closed_step {now : Instant} {before after : Fifo α}
    (h : before.Step now report after) (closed : before.shutDown = true) :
    before.items = popped report.toList ++ after.items := by
  have hp : pushed report.toList = [] := by
    cases h with
    | push isOpen =>
      rw [isOpen] at closed
      cases closed
    | silent | wait | refuse | pop | drained | late | close | resize => rfl
  have hi := items_of_step h
  rwa [hp, List.append_nil] at hi

structure Closed (items : List α) (room : QueueRoom α) (reports : List (QueueReport α)) : Prop where
  shutDown : room.state.shutDown = true
  counted : Counted room.state room.suspended
  supplied : Supplied room.state room.parked room.ready none
  numbered : Monitor.Numbered room.suspended room.next
  values : items = popped reports ++ room.state.items
  answers : ∀ r ∈ reports, ∃ rest, (∀ a ∈ rest, a ∈ items) ∧
    r.outcome = .returned (closedAnswer rest r.call)

theorem Closed.step (h : Closed items room reports) (event : Event (QueueCall α)) :
    Closed items ((monitor α).step room event).1
      (reports ++ ((monitor α).step room event).2.toList) := by
  have hc := (monitor α).step_change room event
  have hs := fifo_of_change hc h.counted
  refine ⟨hs.closed h.shutDown, ?_, h.supplied.change hc h.counted, h.numbered.change hc, ?_, ?_⟩
  · exact keeps_counted.change reports hc h.counted
  · have hi := items_of_closed_step hs h.shutDown
    calc items = popped reports ++ room.state.items := h.values
      _ = popped reports ++ (popped ((monitor α).step room event).2.toList ++
            ((monitor α).step room event).1.state.items) := congrArg _ hi
      _ = _ := by rw [popped, popped, popped, List.filterMap_append, List.append_assoc]
  · intro r hr
    obtain hr | hr := List.mem_append.mp hr
    · exact h.answers r hr
    · refine ⟨room.state.items, ?_, ?_⟩
      · intro a ha
        rw [h.values]
        exact List.mem_append_right _ ha
      · exact closed_report hc h.counted h.shutDown r (Option.mem_toList.mp hr)

theorem Closed.exec (h : Closed items room []) (more : List (Event (QueueCall α))) :
    Closed items ((monitor α).exec room more).1 ((monitor α).exec room more).2 :=
  (monitor α).exec_induction (P := fun _ room reports => Closed items room reports) h
    (fun event h => h.step event) more

theorem not_busy_shutDown (room : QueueRoom α) : (monitor α).busy room .shutDown = false :=
  List.any_eq_false.mpr fun _ _ => Bool.false_ne_true

theorem Closed.again (h : Closed items room reports) :
    (monitor α).step room (.start .shutDown) =
      ({ room with next := room.next + 1 }, some ⟨room.next, .shutDown, .returned .done⟩) := by
  have hclose : room.state.close = .returns room.state .done := if_pos h.shutDown
  have hstart : (monitor α).start room.now room.state .shutDown = .returns room.state .done :=
    hclose
  simp only [Monitor.step, not_busy_shutDown, Bool.false_eq_true, if_false, hstart,
    Monitor.conclude, Turn.returns, List.foldl_nil]

theorem Closed.start (h : Closed items room reports) {call : QueueCall α}
    (free : (monitor α).busy room call = false) :
    ((monitor α).step room (.start call)).2 =
      some ⟨room.next, call, .returned (closedAnswer room.state.items call)⟩ := by
  have ho : ((monitor α).start room.now room.state call).outcome =
      .returned (closedAnswer room.state.items call) :=
    (start_move room.now room.state call).closed_outcome h.shutDown
  rw [Monitor.step_start _ free, ho]

theorem Closed.run (h : Closed items room reports) {s : Suspended (QueueCall α) QueueStage}
    (hs : s ∈ room.ready) :
    ((monitor α).step room (.run s.task)).2 =
      some ⟨s.task, s.call, .returned (closedAnswer room.state.items s.call)⟩ := by
  obtain ⟨earlier, later, hl⟩ := List.append_of_mem hs
  have counted := h.counted.perm (Monitor.suspended_of_ready hl)
  have ho : ((monitor α).resume room.now room.state s.call s.stage).outcome =
      .returned (closedAnswer room.state.items s.call) :=
    resume_closed_outcome counted h.shutDown room.now
  rw [Monitor.step_run h.numbered hs, ho]

theorem Closed.draining (h : Closed items room reports) : Draining items room reports where
  closed := h.shutDown
  parked := h.supplied.closed h.shutDown
  values := h.values
  start _ := h.start
  run _ := h.run
  again := h.again
  pushes r hr a hc := by
    obtain ⟨rest, -, ho⟩ := h.answers r hr
    rwa [hc] at ho
  pops r hr timeout hc := by
    obtain ⟨rest, hrest, ho⟩ := h.answers r hr
    rw [hc] at ho
    cases rest with
    | nil => exact Or.inr ho
    | cons a rest => exact Or.inl ⟨a, hrest a List.mem_cons_self, ho⟩

theorem Move.shutDown_outcome {queue : Queue α} {now : Instant} {turn : QueueTurn α}
    (m : Move now queue .shutDown turn) : turn.outcome = .returned .done := by
  cases m with
  | closeAgain | close => rfl

theorem report_shutDown (room : QueueRoom α) :
    ((monitor α).step room (.start .shutDown)).2 =
      some ⟨room.next, .shutDown, .returned .done⟩ := by
  have ho : ((monitor α).start room.now room.state .shutDown).outcome = .returned .done :=
    (start_move room.now room.state .shutDown).shutDown_outcome
  rw [Monitor.step_start _ (not_busy_shutDown room), ho]

theorem closed_shutDown (counted : Counted room.state room.suspended)
    (supplied : Supplied room.state room.parked room.ready none)
    (numbered : Monitor.Numbered room.suspended room.next) :
    Closed room.state.items ((monitor α).step room (.start .shutDown)).1 [] := by
  have hc := (monitor α).step_change room (.start .shutDown)
  have hs := fifo_of_change hc counted
  rw [report_shutDown] at hs
  have hf := hs.shutDown
  exact
    { shutDown := congrArg Fifo.shutDown hf
      counted := keeps_counted.change [] hc counted
      supplied := supplied.change hc counted
      numbered := numbered.change hc
      values := (congrArg Fifo.items hf).symm
      answers := fun r hr => by cases hr }

theorem suspended_shutDown (room : QueueRoom α) :
    ((monitor α).step room (.start .shutDown)).1.suspended.Perm room.suspended := by
  have ho : ((monitor α).start room.now room.state .shutDown).outcome = .returned .done :=
    (start_move room.now room.state .shutDown).shutDown_outcome
  rw [Monitor.step_start_room _ (not_busy_shutDown room)]
  have hp := (monitor α).conclude_suspended { room with next := room.next + 1 } room.next .shutDown
    ((monitor α).start room.now room.state .shutDown)
  rwa [Turn.left_eq_nil ho] at hp

/-- A shutdown makes every waiting call ready, and from then on, whatever happens, the queue answers
every call at once: pushes are refused, and the pops get the items that the queue had, in order,
until there are none. -/
theorem drains (capacity : Capacity) (now : Instant) (events more : List (Event (QueueCall α))) :
    let room := (run capacity now events).1
    let closing := (monitor α).step room (.start .shutDown)
    let later := (monitor α).exec closing.1 more
    closing.2 = some ⟨room.next, .shutDown, .returned .done⟩ ∧
      room.suspended.Perm closing.1.ready ∧ Draining room.state.items later.1 later.2 := by
  intro room closing later
  obtain ⟨counted, supplied⟩ := supplied_run capacity now events
  have fresh : ({ state := new capacity, now := now } : QueueRoom α).suspended = [] := rfl
  have closed : Closed room.state.items closing.1 [] :=
    closed_shutDown counted supplied (Monitor.numbered_exec fresh events)
  refine ⟨report_shutDown room, ?_, (closed.exec more).draining⟩
  have hp := (suspended_shutDown room).symm
  have parked : closing.1.parked = [] := closed.draining.parked
  rwa [show closing.1.suspended = closing.1.ready by rw [Room.suspended, parked, List.nil_append]]
    at hp

-- A pop that was woken for a value finds it taken, and a push that waited for room is refused.
example :
    let events : List (Event (QueueCall Nat)) :=
      [.start (.pop .infinite), .start (.push 1), .start (.pop .infinite), .start (.push 2),
        .start (.push 3), .start .shutDown, .start (.pop .infinite), .run 4, .run 0]
    (run ⟨1, by decide⟩ .zero events).2.drop 6 =
      [⟨6, .pop .infinite, .returned (.popped 2)⟩, ⟨4, .push 3, .returned (.refused 3)⟩,
        ⟨0, .pop .infinite, .returned (.failed .shutDown)⟩] := by
  decide

end Queue

end BlockingSync
