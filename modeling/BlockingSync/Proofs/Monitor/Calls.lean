import BlockingSync.Proofs.Monitor.Run

namespace BlockingSync

namespace Monitor

variable {σ α κ χ ρ : Type}

def turn (m : Monitor σ α κ χ ρ) (now : Instant) (state : σ) (call : α) :
    Option κ → Turn σ κ χ ρ
  | none => m.start now state call
  | some stage => m.resume now state call stage

variable [DecidableEq χ] {m : Monitor σ α κ χ ρ} {n : Nat} {call : α}

/-- What holds of the calls that have not returned and of those that have been reported, each with
its number. -/
structure Traced (p : Nat → α → Prop) (room : Room σ α κ) (reports : List (Report α ρ)) :
    Prop where
  suspended : ∀ s ∈ room.suspended, p s.task s.call
  reports : ∀ r ∈ reports, p r.task r.call

variable {p : Nat → α → Prop} {room after : Room σ α κ} {event : Event α}
  {report : Option (Report α ρ)} {reports : List (Report α ρ)}

theorem Traced.conclude (h : Traced p room reports) {task : Nat} (hc : p task call)
    (turn : Turn σ κ χ ρ) :
    Traced p (m.conclude room task call turn).1 (reports ++ [⟨task, call, turn.outcome⟩]) where
  suspended s hs := by
    obtain hl | hs := m.mem_conclude hs
    · obtain ⟨rfl, rfl, -⟩ := Turn.mem_left.mp hl
      exact hc
    · exact h.suspended s hs
  reports r hr := by
    obtain hr | hr := List.mem_append.mp hr
    · exact h.reports r hr
    · obtain rfl := List.mem_singleton.mp hr
      exact hc

theorem Traced.change (h : Traced p room reports)
    (started : ∀ call, event = .start call → p room.next call)
    (hc : m.Change room event after report) : Traced p after (reports ++ report.toList) := by
  cases hc with
  | number _ n =>
    rw [Option.toList_none, List.append_nil]
    exact ⟨h.suspended, h.reports⟩
  | wake _ hw =>
    rw [Option.toList_none, List.append_nil]
    exact ⟨fun s hs => h.suspended s (hw.suspended.mem_iff.mpr hs), h.reports⟩
  | start call free =>
    have h' : Traced p { room with next := room.next + 1 } reports := ⟨h.suspended, h.reports⟩
    exact h'.conclude (started call rfl) _
  | run s earlier later hr =>
    have hs := suspended_of_ready hr
    have h' : Traced p { room with ready := earlier ++ later } reports :=
      ⟨fun t ht => h.suspended t (hs.mem_iff.mpr (List.mem_cons_of_mem s ht)), h.reports⟩
    exact h'.conclude (h.suspended s (hs.mem_iff.mpr List.mem_cons_self)) _

theorem traced_exec {kind : α → Prop} (fresh : room.suspended = []) {events : List (Event α)}
    (h : ∀ call, .start call ∈ events → kind call) :
    Traced (fun _ => kind) (m.exec room events).1 (m.exec room events).2 := by
  refine m.exec_induction (P := fun events room reports =>
    (∀ call, .start call ∈ events → kind call) → Traced (fun _ => kind) room reports) ?_ ?_ events h
  · intro _
    exact ⟨by simp [fresh], nofun⟩
  · intro events room reports event ih h
    have before := ih fun call hc => h call (List.mem_append_left _ hc)
    refine before.change ?_ (m.step_change room event)
    rintro call rfl
    exact h call (List.mem_append_right _ List.mem_cons_self)

/-- The call of number `n`, if it has not returned, or has been reported, is `call`. -/
structure Named (n : Nat) (call : α) (room : Room σ α κ) (reports : List (Report α ρ)) : Prop
    extends Traced (fun task other => task = n → other = call) room reports where
  next : n < room.next

theorem Named.change (h : Named n call room reports) (hc : m.Change room event after report) :
    Named n call after (reports ++ report.toList) where
  toTraced := h.toTraced.change (fun _ _ he => absurd he (Nat.ne_of_gt h.next)) hc
  next := Nat.lt_of_lt_of_le h.next hc.next_le

theorem named_start (numbered : Numbered room.suspended room.next) (call : α) :
    Named room.next call (m.step room (.start call)).1 ([] : List (Report α ρ)) := by
  have fresh : Traced (fun task other => task = room.next → other = call) room
      ([] : List (Report α ρ)) :=
    ⟨fun s hs he => absurd he (Nat.ne_of_lt (numbered.lt s hs)), nofun⟩
  have started : ∀ other, Event.start call = .start other → room.next = room.next → other = call :=
    fun _ he _ => (Event.start.inj he).symm
  refine ⟨⟨(fresh.change started (m.step_change room _)).suspended, nofun⟩, ?_⟩
  rw [step_start_next]
  exact Nat.lt_succ_self _

theorem Named.exec (h : Named n call room ([] : List (Report α ρ))) (events : List (Event α)) :
    Named n call (m.exec room events).1 (m.exec room events).2 :=
  m.exec_induction (P := fun _ room reports => Named n call room reports) h
    (fun event h => h.change (m.step_change _ event)) events

/-- The reports do not tell that the call of number `n` has returned. -/
def Unreturned (n : Nat) (reports : List (Report α ρ)) : Prop :=
  ∀ r ∈ reports, r.task = n → r.hasReturned = false

instance (n : Nat) (reports : List (Report α ρ)) : Decidable (Unreturned n reports) :=
  inferInstanceAs (Decidable (∀ r ∈ reports, r.task = n → r.hasReturned = false))

omit [DecidableEq χ] in
theorem unreturned_append {earlier later : List (Report α ρ)} :
    Unreturned n (earlier ++ later) ↔ Unreturned n earlier ∧ Unreturned n later := by
  simp only [Unreturned, List.mem_append, or_imp, forall_and]

omit [DecidableEq χ] in
theorem Unreturned.waiting {report : Report α ρ} (h : Unreturned n [report])
    (hn : report.task = n) : report.outcome = .waiting := by
  have hr := h report List.mem_cons_self hn
  rw [Report.hasReturned] at hr
  split at hr
  · assumption
  · cases hr

theorem Change.own_run {report : Report α ρ}
    (hc : m.Change room event after (some report)) (numbered : Numbered room.suspended room.next)
    {s : Suspended α κ} (hs : s ∈ room.suspended) (hn : report.task = s.task) :
    ∃ earlier later, room.ready = earlier ++ s :: later ∧
      after = (m.conclude { room with ready := earlier ++ later } s.task s.call
        (m.resume room.now room.state s.call s.stage)).1 ∧
      report = ⟨s.task, s.call, (m.resume room.now room.state s.call s.stage).outcome⟩ := by
  cases hc with
  | start call free => exact absurd hn (Nat.ne_of_gt (numbered.lt s hs))
  | run t earlier later hr =>
    have ht : t ∈ room.suspended := (suspended_of_ready hr).mem_iff.mpr List.mem_cons_self
    obtain rfl := List.inj_on_of_nodup_map numbered.nodup ht hs hn
    exact ⟨earlier, later, hr, rfl, rfl⟩

/-- The part `f` of the state belongs to the owner of some calls, which exclude each other. Turns of
other calls do not touch it, nor does a turn with an idle outcome. -/
structure Owns (m : Monitor σ α κ χ ρ) (mine : α → Prop) {β : Type} (f : σ → β)
    (idle : Outcome ρ → Prop) : Prop where
  alone : ∀ {call other}, mine call → mine other → m.excludes call other = true
  others : ∀ now state {call} place, ¬ mine call → f (m.turn now state call place).state = f state
  waiting : idle .waiting
  idle : ∀ now state call place, idle (m.turn now state call place).outcome →
    f (m.turn now state call place).state = f state

/-- The call of number `n` belongs to an owner, as does no other one that waits with it. Nothing has
happened to the owner's part of the state as long as the call waits, or if its turn was the last one
and was idle. -/
structure Untouched {β : Type} (mine : α → Prop) (f : σ → β) (idle : Outcome ρ → Prop) (n : Nat)
    (before : β) (room : Room σ α κ) (reports : List (Report α ρ)) : Prop where
  numbered : Numbered room.suspended room.next
  next : n < room.next
  owned : ∀ s ∈ room.suspended, s.task = n → mine s.call
  others : ∀ s ∈ room.suspended, ∀ t ∈ room.suspended, s.task = n → t.task ≠ n → ¬ mine t.call
  waiting : ∀ s ∈ room.suspended, s.task = n → f room.state = before
  last : ∀ r, reports.getLast? = some r → r.task = n → idle r.outcome → f room.state = before

variable {β : Type} {mine : α → Prop} {f : σ → β} {idle : Outcome ρ → Prop} {before : β}
  {rest : Room σ α κ} {task : Nat} {turn : Turn σ κ χ ρ}

theorem Untouched.conclude_other (h : Untouched mine f idle n before room reports)
    (sub : ∀ s ∈ rest.suspended, s ∈ room.suspended) (ht : task ≠ n)
    (numbered : Numbered (m.conclude rest task call turn).1.suspended
      (m.conclude rest task call turn).1.next)
    (next : n < rest.next)
    (other : ∀ s ∈ rest.suspended, s.task = n → ¬ mine call ∧ f turn.state = f room.state) :
    Untouched mine f idle n before (m.conclude rest task call turn).1
      (reports ++ [⟨task, call, turn.outcome⟩]) := by
  have mem : ∀ s ∈ (m.conclude rest task call turn).1.suspended, s ∈ rest.suspended ∨
      s.task = task ∧ s.call = call := by
    intro s hs
    obtain hl | hs := m.mem_conclude hs
    · obtain ⟨hn, hc, -⟩ := Turn.mem_left.mp hl
      exact Or.inr ⟨hn, hc⟩
    · exact Or.inl hs
  have waits : ∀ s ∈ (m.conclude rest task call turn).1.suspended, s.task = n →
      s ∈ rest.suspended := by
    intro s hs hn
    exact (mem s hs).resolve_right fun he => ht (he.1.symm.trans hn)
  refine ⟨numbered, (m.conclude_next ..).symm ▸ next, ?_, ?_, ?_, ?_⟩
  · exact fun s hs hn => h.owned s (sub s (waits s hs hn)) hn
  · intro s hs t ht' hn hne
    have hw := waits s hs hn
    obtain hr | ⟨-, hc⟩ := mem t ht'
    · exact h.others s (sub s hw) t (sub t hr) hn hne
    · exact hc ▸ (other s hw hn).1
  · intro s hs hn
    have hw := waits s hs hn
    rw [conclude_state, (other s hw hn).2]
    exact h.waiting s (sub s hw) hn
  · intro r hr hn
    rw [List.getLast?_concat] at hr
    obtain rfl := Option.some.inj hr
    exact absurd hn ht

theorem Untouched.conclude_own (h : Untouched mine f idle n before room reports)
    (o : m.Owns mine f idle) {s : Suspended α κ}
    (perm : room.suspended.Perm (s :: rest.suspended)) (hn : s.task = n) (next : n < rest.next)
    (numbered : Numbered (m.conclude rest s.task s.call turn).1.suspended
      (m.conclude rest s.task s.call turn).1.next)
    (idled : idle turn.outcome → f turn.state = f room.state) :
    Untouched mine f idle n before (m.conclude rest s.task s.call turn).1
      (reports ++ [⟨s.task, s.call, turn.outcome⟩]) := by
  have hs : s ∈ room.suspended := perm.mem_iff.mpr List.mem_cons_self
  have sub : ∀ t ∈ rest.suspended, t ∈ room.suspended :=
    fun t ht => perm.mem_iff.mpr (List.mem_cons_of_mem s ht)
  have same : idle turn.outcome → f turn.state = before :=
    fun hi => (idled hi).trans (h.waiting s hs hn)
  have rest_ne : ∀ t ∈ rest.suspended, t.task ≠ n := by
    intro t ht he
    exact (List.nodup_cons.mp (h.numbered.perm perm).nodup).1
      (List.mem_map.mpr ⟨t, ht, he.trans hn.symm⟩)
  refine ⟨numbered, (m.conclude_next ..).symm ▸ next, ?_, ?_, ?_, ?_⟩
  · intro t ht he
    obtain hl | hr := m.mem_conclude ht
    · obtain ⟨-, hc, -⟩ := Turn.mem_left.mp hl
      exact hc ▸ h.owned s hs hn
    · exact absurd he (rest_ne t hr)
  · intro _ _ t ht _ hne
    obtain hl | hr := m.mem_conclude ht
    · exact absurd ((Turn.mem_left.mp hl).1.trans hn) hne
    · exact h.others s hs t (sub t hr) hn hne
  · intro t ht he
    rw [conclude_state]
    obtain hl | hr := m.mem_conclude ht
    · obtain ⟨-, -, hw⟩ := Turn.mem_left.mp hl
      apply same
      rw [Turn.outcome, hw]
      exact o.waiting
    · exact absurd he (rest_ne t hr)
  · intro r hr _ hi
    rw [List.getLast?_concat] at hr
    obtain rfl := Option.some.inj hr
    rw [conclude_state]
    exact same hi

theorem Untouched.change (h : Untouched mine f idle n before room reports)
    (o : m.Owns mine f idle) (hc : m.Change room event after report) :
    Untouched mine f idle n before after (reports ++ report.toList) := by
  have numbered := h.numbered.change hc
  cases hc with
  | number _ k =>
    rw [Option.toList_none, List.append_nil]
    exact { h with numbered := numbered, next := Nat.lt_add_right k h.next }
  | wake _ hw =>
    rw [Option.toList_none, List.append_nil]
    have mem := fun s => hw.suspended.mem_iff (a := s)
    refine ⟨numbered, hw.next.symm ▸ h.next, ?_, ?_, ?_, ?_⟩
    · exact fun s hs => h.owned s ((mem s).mpr hs)
    · exact fun s hs t ht => h.others s ((mem s).mpr hs) t ((mem t).mpr ht)
    · exact fun s hs hn => hw.state.symm ▸ h.waiting s ((mem s).mpr hs) hn
    · exact fun r hr hn hi => hw.state.symm ▸ h.last r hr hn hi
  | start call free =>
    -- while the call waits, its owner starts no other
    refine h.conclude_other (fun s hs => hs) (Nat.ne_of_gt h.next) numbered
      (Nat.lt_succ_of_lt h.next) ?_
    intro s hs hn
    have hm : ¬ mine call := by
      intro hm
      have he := List.any_eq_false.mp free s hs
      exact he (o.alone hm (h.owned s hs hn))
    exact ⟨hm, o.others room.now room.state none hm⟩
  | run s earlier later hr =>
    have perm := suspended_of_ready hr
    have hs : s ∈ room.suspended := perm.mem_iff.mpr List.mem_cons_self
    by_cases hn : s.task = n
    · exact h.conclude_own o perm hn h.next numbered
        (o.idle room.now room.state s.call (some s.stage))
    · have sub : ∀ t ∈ ({ room with ready := earlier ++ later } : Room σ α κ).suspended,
          t ∈ room.suspended := fun t ht => perm.mem_iff.mpr (List.mem_cons_of_mem s ht)
      refine h.conclude_other sub hn numbered h.next ?_
      intro t ht he
      have hm := h.others t (sub t ht) s hs he hn
      exact ⟨hm, o.others room.now room.state (some s.stage) hm⟩

theorem Owns.untouched (o : m.Owns mine f idle) (numbered : Numbered room.suspended room.next)
    (hm : mine call) :
    Untouched mine f idle room.next (f room.state) (m.step room (.start call)).1
      (m.step room (.start call)).2.toList := by
  have numbered' := numbered.change (m.step_change room (.start call))
  have old : ∀ s ∈ room.suspended, s.task ≠ room.next := fun s hs => Nat.ne_of_lt (numbered.lt s hs)
  cases hb : m.busy room call with
  | true =>
    have hs : m.step room (.start call) = ({ room with next := room.next + 1 }, none) := by
      simp [Monitor.step, hb]
    rw [hs] at numbered' ⊢
    refine ⟨numbered', Nat.lt_succ_self _, ?_, ?_, ?_, by simp⟩
    · exact fun s hs he => absurd he (old s hs)
    · exact fun s hs _ _ he => absurd he (old s hs)
    · exact fun s hs he => absurd he (old s hs)
  | false =>
    rw [step_start_room _ hb] at numbered' ⊢
    rw [m.step_start hb, Option.toList_some]
    have idled := o.idle room.now room.state call none
    refine ⟨numbered', ?_, ?_, ?_, ?_, ?_⟩
    · rw [conclude_next]
      exact Nat.lt_succ_self _
    · intro s hs he
      obtain hl | hs := m.mem_conclude hs
      · exact (Turn.mem_left.mp hl).2.1 ▸ hm
      · exact absurd he (old s hs)
    · intro _ _ t ht _ hne ht'
      obtain hl | ht := m.mem_conclude ht
      · exact hne (Turn.mem_left.mp hl).1
      · exact List.any_eq_false.mp hb t ht (o.alone hm ht')
    · intro s hs he
      rw [conclude_state]
      obtain hl | hs := m.mem_conclude hs
      · apply idled
        rw [Monitor.turn, Turn.outcome, (Turn.mem_left.mp hl).2.2]
        exact o.waiting
      · exact absurd he (old s hs)
    · intro r hr _ hi
      obtain rfl := Option.some.inj hr
      rw [conclude_state]
      exact idled hi

/-- A call of the owner whose last turn was idle has left the owner's part of the state as it was
when the call started, whatever others have done meanwhile. -/
theorem Owns.exec (o : m.Owns mine f idle) (numbered : Numbered room.suspended room.next)
    (hm : mine call) {more : List (Event α)} {outcome : Outcome ρ} (hi : idle outcome)
    (last : (m.exec room (.start call :: more)).2.getLast? = some ⟨room.next, call, outcome⟩) :
    f (m.exec room (.start call :: more)).1.state = f room.state := by
  let first := m.step room (.start call)
  have h : Untouched mine f idle room.next (f room.state) (m.exec first.1 more).1
      (first.2.toList ++ (m.exec first.1 more).2) := by
    refine m.exec_induction (P := fun _ after reports =>
      Untouched mine f idle room.next (f room.state) after (first.2.toList ++ reports)) ?_ ?_ more
    · rw [List.append_nil]
      exact o.untouched numbered hm
    · intro _ after reports event h
      rw [← List.append_assoc]
      exact h.change o (m.step_change after event)
  exact h.last _ last rfl hi

end Monitor

end BlockingSync
