import BlockingSync.Proofs.Lock.Invariant
import BlockingSync.Proofs.Monitor.Calls

namespace BlockingSync

variable {ι : Type}

def LockCall.mode : LockCall ι → Mode
  | acquire mode _ _ => mode
  | release mode _ => mode

namespace Lock

variable [DecidableEq ι] {lock mid after : Lock ι} {reports later : List (LockReport ι)}
  {now : Instant} {place : Option LockStage} {id u : ι} {timeout : Timeout} {held : HeldCounts}
  {call : LockCall ι} {turn : LockTurn ι} {stray : Nat}

/-- From `lock` to `after` nobody came in. The reports tell of no write lock, and of read locks only
for those who were registered; these locks are what the holdings have changed by. -/
structure Shut (lock after : Lock ι) (reports : List (LockReport ι)) : Prop where
  registered : ∀ y, (after.heldBy y).isSome → (lock.heldBy y).isSome
  readers : after.readers ≤ lock.readers
  granted : ∀ r ∈ reports, r.outcome = .returned .ok →
    r.call.mode = .read ∧ (lock.heldBy r.call.id).isSome
  balance : Balanced lock after reports

theorem Shut.of_idle (h : ∀ r ∈ reports, r.outcome ≠ .returned .ok) : Shut lock lock reports where
  registered _ hy := hy
  readers := Nat.le_refl _
  granted r hr ok := absurd ok (h r hr)
  balance := balanced_of_idle (fun _ => rfl) h

theorem Shut.trans (h : Shut lock mid reports) (h' : Shut mid after later) :
    Shut lock after (reports ++ later) where
  registered y hy := h.registered y (h'.registered y hy)
  readers := Nat.le_trans h'.readers h.readers
  granted r hr ok := by
    obtain hr | hr := List.mem_append.mp hr
    · exact h.granted r hr ok
    · obtain ⟨hm, hi⟩ := h'.granted r hr ok
      exact ⟨hm, h.registered _ hi⟩
  balance mode y := by
    have hb := h.balance mode y
    have hb' := h'.balance mode y
    rw [acquired_append, released_append]
    omega

/-- What the other calls do while an upgrade is pending: nothing, or they take or give back a read
lock of somebody who is registered. -/
inductive Beside (lock : Lock ι) : LockCall ι → LockTurn ι → Prop
  | idle {call : LockCall ι} {turn : LockTurn ι} (same : turn.state = lock)
      (failed : turn.outcome ≠ .returned .ok) : Beside lock call turn
  | reenter {id : ι} {timeout : Timeout} {held : HeldCounts}
      (registered : lock.heldBy id = some held) :
      Beside lock (.acquire .read id timeout)
        (.returns (lock.record id { held with reads := held.reads + 1 }) .ok)
  | release {id : ι} {held : HeldCounts} (registered : lock.heldBy id = some held)
      (reads : 0 < held.reads) :
      Beside lock (.release .read id)
        (.returns (lock.record id { held with reads := held.reads - 1 }) .ok)
  | leave {id : ι} {others : Nat} {signals : List (Signal LockCondition)}
      (registered : lock.heldBy id = some { reads := 1 }) (readers : lock.readers = others + 1) :
      Beside lock (.release .read id)
        ⟨{ lock.forget id with readers := others }, signals, .returns .ok⟩

theorem Move.beside (m : Move now lock place call turn) (h : lock.Upgrading u stray)
    (stays : place = some .upgrader → turn.outcome = .waiting) : Beside lock call turn := by
  have closed : lock.readable ≠ true := by simp [readable_iff, h.canRead]
  have taken : lock.writable ≠ true := by simp [writable_iff, h.writers]
  have unwritten : ∀ {id held}, lock.heldBy id = some held → held.writes = 0 :=
    fun registered => (h.reading _ _ registered).2
  have claimed : lock.writers ≠ 0 := by simp [h.writers]
  cases m with
  | readAgain registered => exact .reenter registered
  | readEnter _ readable => exact absurd readable closed
  | expire | wait | readUnheld | writeRefuse | writeUnheld => exact .idle rfl nofun
  | readRelease registered reads => exact .release registered reads
  | readLeave registered _ readers => exact .leave registered readers
  | writeEnter _ writable => exact absurd writable taken
  | upgradeGrant claim | upgradeBack claim | upgradeWithdraw claim =>
    cases claim with
    | fresh _ _ writers => exact absurd writers claimed
    | pending => cases stays rfl
  | upgradeWait claim =>
    cases claim with
    | fresh _ _ writers => exact absurd writers claimed
    | pending => exact .idle rfl nofun
  | writeAgain registered writes => exact absurd (unwritten registered) (Nat.ne_of_gt writes)
  | writeRelease registered writes =>
    exact absurd (unwritten registered) (Nat.ne_of_gt (Nat.zero_lt_of_lt writes))
  | writeDowngrade registered writes =>
    exact absurd ((unwritten registered).symm.trans writes) (by decide)
  | writeLeave registered => exact absurd (unwritten registered) (by decide)

theorem isSome_of_record {new : HeldCounts} (registered : lock.heldBy id = some held) {y : ι}
    (hy : ((lock.record id new).heldBy y).isSome) : (lock.heldBy y).isSome := by
  rw [heldBy_record] at hy
  split at hy
  · next he => rw [he, registered, Option.isSome_some]
  · exact hy

theorem isSome_of_forget {y : ι} (hy : ((lock.forget id).heldBy y).isSome) :
    (lock.heldBy y).isSome := by
  rw [heldBy_forget] at hy
  split at hy
  · cases hy
  · exact hy

theorem Beside.registered (b : Beside lock call turn) {y : ι}
    (hy : (turn.state.heldBy y).isSome) : (lock.heldBy y).isSome := by
  cases b with
  | idle same => rwa [same] at hy
  | reenter registered | release registered => exact isSome_of_record registered hy
  | leave => exact isSome_of_forget hy

theorem Beside.readers_le (b : Beside lock call turn) : turn.state.readers ≤ lock.readers := by
  cases b with
  | idle same => exact Nat.le_of_eq (congrArg readers same)
  | reenter | release => exact Nat.le_refl _
  | leave _ readers => exact Nat.le_of_lt (readers ▸ Nat.lt_succ_self _)

theorem Beside.granted (b : Beside lock call turn) (ok : turn.outcome = .returned .ok) :
    call.mode = .read ∧ (lock.heldBy call.id).isSome := by
  cases b with
  | idle _ failed => exact absurd ok failed
  | reenter registered | release registered | leave registered =>
    exact ⟨rfl, Option.isSome_of_eq_some registered⟩

theorem Beside.balanced (b : Beside lock call turn) (task : Nat) :
    Balanced lock turn.state [⟨task, call, turn.outcome⟩] := by
  cases b with
  | idle same failed => exact balanced_of_idle (fun _ => by rw [same]) (by simpa using failed)
  | reenter registered =>
    refine Trades.balanced (.acquire (adds_record ?_)) task
    rw [held_eq registered]
    rfl
  | @release id held registered reads =>
    refine Trades.balanced (.release (adds_of_record ?_)) task
    change lock.held id = { held with reads := held.reads - 1 + 1 }
    rw [held_eq registered, Nat.sub_add_cancel reads]
  | leave registered => exact Trades.balanced (.release (adds_forget (held_eq registered))) task

theorem Beside.shut (b : Beside lock call turn) (task : Nat) :
    Shut lock turn.state [⟨task, call, turn.outcome⟩] where
  registered _ := b.registered
  readers := b.readers_le
  granted r hr ok := by
    obtain rfl := List.mem_singleton.mp hr
    exact b.granted ok
  balance := b.balanced task

theorem Beside.idle_of_failed (b : Beside lock call turn) (h : turn.outcome ≠ .returned .ok) :
    turn.state = lock := by
  cases b with
  | idle same => exact same
  | reenter | release | leave => exact absurd rfl h

theorem Move.waits_upgrader (m : Move now lock place call turn) (hp : place = some .upgrader)
    (h : turn.outcome = .waiting) : turn.ending = .waits .upgrader := by
  cases m with
  | @wait _ mode _ _ outside =>
    cases outside with
    | newcomer => cases hp
    | waiter => exact absurd (Option.some.inj hp) mode.stage_ne_upgrader
  | upgradeWait => rfl
  | _ => cases h

variable {room middle rest : LockRoom ι} {s t : Suspended (LockCall ι) LockStage}
  {event : Event (LockCall ι)} {waiting : List (Suspended (LockCall ι) LockStage)}

theorem Sound.stage_ne_of_upgrader (h : Sound lock (t :: waiting) stray) (hs : s ∈ waiting)
    (hk : s.stage = .upgrader) : t.stage ≠ .upgrader := by
  intro ht
  have hu := h.upgraders
  rw [upgraders_cons, ht] at hu
  obtain ⟨hn, -⟩ := eq_some_of_cons_eq_toList hu
  have hm : s.call.id ∈ Lock.upgraders waiting :=
    List.mem_flatMap.mpr ⟨s, hs, mem_upgraderAt.mpr ⟨hk, rfl⟩⟩
  rw [hn] at hm
  cases hm

theorem Sound.upgrading_of_upgrader (h : Sound lock waiting stray) (hs : s ∈ waiting)
    (hk : s.stage = .upgrader) : lock.Upgrading s.call.id stray :=
  h.phase.upgrading_of_pending (h.upgrading_iff.mpr ⟨s, hs, hk, rfl⟩)

structure Pending (s : Suspended (LockCall ι) LockStage) (room after : LockRoom ι)
    (reports : List (LockReport ι)) : Prop where
  waits : s ∈ after.suspended
  shut : Shut room.state after.state reports
  unmoved : (∀ r ∈ reports, r.outcome ≠ .returned .ok) → after.state = room.state

theorem Pending.conclude (h : Pending s room middle reports) (b : Beside middle.state call turn)
    (task : Nat) (hw : s ∈ turn.left task call ++ rest.suspended) :
    Pending s room ((monitor ι).conclude rest task call turn).1
      (reports ++ [⟨task, call, turn.outcome⟩]) where
  waits := ((monitor ι).conclude_suspended rest task call turn).mem_iff.mpr hw
  shut := by
    rw [Monitor.conclude_state]
    exact h.shut.trans (b.shut task)
  unmoved idle := by
    have failed := idle _ (List.mem_append_right reports List.mem_cons_self)
    rw [Monitor.conclude_state, b.idle_of_failed failed]
    exact h.unmoved fun r hr => idle r (List.mem_append_left _ hr)

theorem Pending.change (h : Pending s room middle reports) (hk : s.stage = .upgrader)
    (sound : Sound middle.state middle.suspended stray) {after : LockRoom ι}
    {report : Option (LockReport ι)} (hc : (monitor ι).Change middle event after report)
    (unreturned : Monitor.Unreturned s.task report.toList) :
    Pending s room after (reports ++ report.toList) := by
  have upgrading := sound.upgrading_of_upgrader h.waits hk
  cases hc with
  | number =>
    rw [Option.toList_none, List.append_nil]
    exact ⟨h.waits, h.shut, h.unmoved⟩
  | wake _ hw =>
    rw [Option.toList_none, List.append_nil]
    exact ⟨hw.suspended.mem_iff.mp h.waits, hw.state ▸ h.shut, hw.state ▸ h.unmoved⟩
  | start call free =>
    have m := start_move sound.phase middle.now call
    exact h.conclude (m.beside upgrading nofun) middle.next (List.mem_append_right _ h.waits)
  | run t earlier later hr =>
    have perm := Monitor.suspended_of_ready hr
    have sound' := sound.perm perm
    have m := resume_move (sound'.waits t List.mem_cons_self) middle.state middle.now
    obtain rfl | hs := List.mem_cons.mp (perm.mem_iff.mp h.waits)
    · -- its own turn, in which it waits again
      have hw := unreturned.waiting rfl
      refine h.conclude (m.beside upgrading fun _ => hw) s.task (List.mem_append_left _ ?_)
      have he := m.waits_upgrader (congrArg some hk) hw
      exact Turn.mem_left.mpr ⟨rfl, rfl, he.trans (congrArg Ending.waits hk.symm)⟩
    · have hne := sound'.stage_ne_of_upgrader hs hk
      exact h.conclude (m.beside upgrading fun he => absurd (Option.some.inj he) hne) t.task
        (List.mem_append_right _ hs)

theorem pending_exec (sound : Sound room.state room.suspended stray) (hs : s ∈ room.suspended)
    (hk : s.stage = .upgrader) {events : List (Event (LockCall ι))}
    (unreturned : Monitor.Unreturned s.task ((monitor ι).exec room events).2) :
    Pending s room ((monitor ι).exec room events).1 ((monitor ι).exec room events).2 := by
  refine ((monitor ι).exec_induction (P := fun _ after reports =>
    (∃ stray, Sound after.state after.suspended stray) ∧
      (Monitor.Unreturned s.task reports → Pending s room after reports))
    ?_ ?_ events).2 unreturned
  · exact ⟨⟨stray, sound⟩, fun _ => ⟨hs, .of_idle (by simp), fun _ => rfl⟩⟩
  · rintro _ middle reports event ⟨⟨stray, sound⟩, pending⟩
    refine ⟨sound.step event, ?_⟩
    intro unreturned
    obtain ⟨before, last⟩ := Monitor.unreturned_append.mp unreturned
    exact (pending before).change hk sound ((monitor ι).step_change middle event) last

end Lock

end BlockingSync
