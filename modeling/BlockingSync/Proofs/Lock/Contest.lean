import BlockingSync.Proofs.Lock.Deadlock
import Mathlib.Data.Finset.Basic

namespace BlockingSync

/-- Where a client stands. -/
inductive Errand
  | enters
  | upgrades
  | downgrades
  | leaves (upgraded : Bool)
  | finished (upgraded : Bool)
  | failed (result : LockResult)
deriving DecidableEq, Repr

namespace Errand

variable {ι : Type}

def call (x : ι) : Errand → Option (LockCall ι)
  | enters => some (.acquire .read x .infinite)
  | upgrades => some (.acquire .write x .infinite)
  | downgrades => some (.release .write x)
  | leaves _ => some (.release .read x)
  | finished _ | failed _ => none

def after : Errand → Outcome LockResult → Errand
  | p, .waiting => p
  | enters, .returned .ok => upgrades
  | upgrades, .returned .ok => downgrades
  | upgrades, .returned (.failed .deadlock) => leaves false
  | downgrades, .returned .ok => leaves true
  | leaves upgraded, .returned .ok => finished upgraded
  | _, .returned result => failed result

def isFinished : Errand → Bool
  | finished _ => true
  | _ => false

def isFailed : Errand → Bool
  | failed _ => true
  | _ => false

def entry : Errand → Option HeldCounts
  | upgrades | leaves _ => some { reads := 1 }
  | downgrades => some { reads := 1, writes := 1 }
  | enters | finished _ | failed _ => none

def upgraded : Errand → Bool
  | downgrades => true
  | leaves upgraded | finished upgraded => upgraded
  | enters | upgrades | failed _ => false

def refused : Errand → Bool
  | leaves upgraded | finished upgraded => !upgraded
  | enters | upgrades | downgrades | failed _ => false

theorem after_waiting (p : Errand) : p.after .waiting = p := by
  cases p <;> rfl

theorem upgraded_after {p : Errand} {outcome : Outcome LockResult} (h : p.upgraded = true)
    (unfailed : (p.after outcome).isFailed = false) : (p.after outcome).upgraded = true := by
  cases p with
  | downgrades | leaves =>
    obtain _ | _ | _ | _ := outcome
    · exact h
    · exact h
    · simp [after, isFailed] at unfailed
    · simp [after, isFailed] at unfailed
  | finished =>
    cases outcome with
    | waiting => exact h
    | returned => simp [after, isFailed] at unfailed
  | enters | upgrades | failed => cases h

theorem eq_finished {p : Errand} (h : p.isFinished = true) : p = finished p.upgraded := by
  cases p with
  | finished upgraded => rfl
  | _ => cases h

theorem id_of_call {x : ι} {p : Errand} {call : LockCall ι} (h : p.call x = some call) :
    call.id = x := by
  cases p <;> cases h <;> rfl

end Errand

namespace Lock

variable {ι : Type} [DecidableEq ι]

/-- Clients of a lock. Each reads, upgrades and gives everything back, or gives up if the upgrade is
refused. -/
structure Contest (ι : Type) where
  room : LockRoom ι
  points : ι → Errand

def heed (points : ι → Errand) : Option (LockReport ι) → ι → Errand
  | none => points
  | some report =>
    Function.update points report.call.id ((points report.call.id).after report.outcome)

namespace Contest

def isBlocked (c : Contest ι) (x : ι) : Bool := c.room.suspended.any (·.call.id = x)

/-- The next call of `x`, if `x` is a client that can make it now. -/
def asks (clients : Finset ι) (c : Contest ι) (x : ι) : Event (LockCall ι) :=
  match (c.points x).call x with
  | some call => if x ∈ clients ∧ c.isBlocked x = false then .start call else .skip
  | none => .skip

def event (clients : Finset ι) (c : Contest ι) : Event ι → Event (LockCall ι)
  | .start x => c.asks clients x
  | .run task => .run task
  | .wake task => .wake task
  | .advance d => .advance d
  | .skip => .skip

def step (clients : Finset ι) (c : Contest ι) (event : Event ι) : Contest ι :=
  let (room, report) := (monitor ι).step c.room (c.event clients event)
  { room := room, points := heed c.points report }

end Contest

/-- The clients begin with a new lock and do what the schedule says. -/
def contest (clients : Finset ι) (now : Instant) (schedule : List (Event ι)) : Contest ι :=
  schedule.foldl (Contest.step clients)
    { room := { state := new, now := now }, points := fun _ => .enters }

variable {lock : Lock ι} {waiting others : List (Suspended (LockCall ι) LockStage)} {now : Instant}
  {place : Option LockStage} {x : ι} {p q : Errand} {call : LockCall ι} {turn : LockTurn ι}
  {clients : Finset ι} {points : ι → Errand} {room after : LockRoom ι}

/-- The client `x` goes on from `p` to `q`, and its entry and the pending upgrade with it. -/
structure Goes (x : ι) (p q : Errand) (lock after : Lock ι) : Prop where
  entry : after.heldBy x = q.entry
  unfailed : q.isFailed = false
  refused : q.refused = p.refused ∨ after.upgrading.isSome
  pending : after.upgrading = lock.upgrading ∨ after.upgrading.isSome ∨ q.upgraded = true

theorem Move.goes_enters (m : Move now lock place (.acquire .read x .infinite) turn)
    (entry : lock.heldBy x = none) :
    Goes x .enters (Errand.enters.after turn.outcome) lock turn.state := by
  cases m with
  | readAgain registered => cases entry.symm.trans registered
  | readEnter => exact ⟨(heldBy_record ..).trans (if_pos rfl), rfl, Or.inl rfl, Or.inl rfl⟩
  | expire _ _ late => cases late
  | wait => exact ⟨entry, rfl, Or.inl rfl, Or.inl rfl⟩

theorem Move.goes_upgrades (m : Move now lock place (.acquire .write x .infinite) turn)
    (phase : lock.Phase 0) (entry : lock.heldBy x = some { reads := 1 }) :
    Goes x .upgrades (Errand.upgrades.after turn.outcome) lock turn.state := by
  cases m with
  | writeAgain registered writes =>
    cases entry.symm.trans registered
    cases writes
  | writeRefuse registered idle writers =>
    -- the client is registered, so nobody writes, and the writer counted is an upgrader
    obtain ⟨u, h⟩ | h := phase.upgrading_or_shared registered idle
    · have pending : lock.upgrading.isSome := Option.isSome_of_eq_some h.upgrading
      exact ⟨entry, rfl, Or.inr pending, Or.inl rfl⟩
    · exact absurd h.writers (Nat.ne_of_gt writers)
  | @upgradeGrant _ _ _ claimed claim =>
    have held : claimed.held x = { reads := 1 } := by rw [claim.holdings, held_eq entry]
    refine ⟨?_, rfl, Or.inl rfl, Or.inr (Or.inr rfl)⟩
    rw [Turn.returns, heldBy_grantWrite, if_pos rfl]
    exact congrArg (fun held => some { held with writes := held.writes + 1 }) held
  | upgradeBack _ _ late | upgradeWithdraw _ _ late | expire _ _ late => cases late
  | upgradeWait claim =>
    refine ⟨(claim.heldBy_eq x).trans entry, rfl, Or.inl rfl, ?_⟩
    cases claim with
    | fresh => exact Or.inr (Or.inl rfl)
    | pending => exact Or.inl rfl
  | writeEnter _ writable =>
    obtain ⟨hr, hw⟩ := writable_iff.mp writable
    have free := ((phase.shared_of_writers hw).free_of_readers_eq_zero hr).2 x
    cases entry.symm.trans free
  | wait => exact ⟨entry, rfl, Or.inl rfl, Or.inl rfl⟩

theorem Move.goes_downgrades (m : Move now lock place (.release .write x) turn)
    (entry : lock.heldBy x = some { reads := 1, writes := 1 }) :
    Goes x .downgrades (Errand.downgrades.after turn.outcome) lock turn.state := by
  cases m with
  | writeUnheld unheld =>
    rw [held_eq entry] at unheld
    cases unheld
  | writeRelease registered writes =>
    cases entry.symm.trans registered
    exact absurd writes (Nat.lt_irrefl 1)
  | writeDowngrade registered =>
    cases entry.symm.trans registered
    exact ⟨(heldBy_record ..).trans (if_pos rfl), rfl, Or.inl rfl, Or.inl rfl⟩
  | writeLeave registered => cases entry.symm.trans registered

theorem Move.goes_leaves {upgraded : Bool} (m : Move now lock place (.release .read x) turn)
    (entry : lock.heldBy x = some { reads := 1 })
    (idle : place = none → lock.upgrading ≠ some x) :
    Goes x (.leaves upgraded) ((Errand.leaves upgraded).after turn.outcome) lock turn.state := by
  cases m with
  | readUnheld unheld =>
    rw [held_eq entry] at unheld
    cases unheld
  | readRelease registered reads stays =>
    cases entry.symm.trans registered
    exact absurd rfl (stays.resolve_right (idle rfl))
  | readLeave registered =>
    exact ⟨(heldBy_forget ..).trans (if_pos rfl), rfl, Or.inl rfl, Or.inl rfl⟩

theorem Move.goes (m : Move now lock place call turn) (phase : lock.Phase 0)
    (next : p.call x = some call) (entry : lock.heldBy x = p.entry)
    (idle : place = none → lock.upgrading ≠ some x) :
    Goes x p (p.after turn.outcome) lock turn.state := by
  cases p with
  | enters =>
    cases next
    exact m.goes_enters entry
  | upgrades =>
    cases next
    exact m.goes_upgrades phase entry
  | downgrades =>
    cases next
    exact m.goes_downgrades entry
  | leaves upgraded =>
    cases next
    exact m.goes_leaves entry idle
  | finished | failed => cases next

/-- The clients and the lock fit together: each client is registered with what it holds where it
stands, and the calls that have not returned are the next calls of clients. A refused client has
met an upgrade that is pending or was granted. -/
structure Orderly (clients : Finset ι) (lock : Lock ι)
    (waiting : List (Suspended (LockCall ι) LockStage)) (points : ι → Errand) : Prop where
  entries : ∀ x, lock.heldBy x = (points x).entry
  unfailed : ∀ x, (points x).isFailed = false
  members : ∀ s ∈ waiting, s.call.id ∈ clients
  calls : ∀ s ∈ waiting, (points s.call.id).call s.call.id = some s.call
  outsiders : ∀ x, x ∉ clients → points x = .enters
  covered : ∀ x, (points x).refused = true →
    lock.upgrading.isSome ∨ ∃ y, (points y).upgraded = true

theorem orderly_new (clients : Finset ι) :
    Orderly clients (new : Lock ι) [] fun _ => .enters where
  entries _ := rfl
  unfailed _ := rfl
  members _ hs := nomatch hs
  calls _ hs := nomatch hs
  outsiders _ _ := rfl
  covered _ := nofun

theorem Orderly.perm (h : Orderly clients lock waiting points) (hp : waiting.Perm others) :
    Orderly clients lock others points :=
  { h with
    members := fun s hs => h.members s (hp.mem_iff.mpr hs)
    calls := fun s hs => h.calls s (hp.mem_iff.mpr hs) }

theorem Orderly.tail {s : Suspended (LockCall ι) LockStage}
    (h : Orderly clients lock (s :: waiting) points) : Orderly clients lock waiting points :=
  { h with
    members := fun t ht => h.members t (List.mem_cons_of_mem s ht)
    calls := fun t ht => h.calls t (List.mem_cons_of_mem s ht) }

theorem Goes.covered {later : Lock ι} (goes : Goes x (points x) q lock later)
    (granted : (points x).upgraded = true → q.upgraded = true)
    (h : lock.upgrading.isSome ∨ ∃ y, (points y).upgraded = true) :
    later.upgrading.isSome ∨ ∃ y, (Function.update points x q y).upgraded = true := by
  have own : q.upgraded = true → ∃ y, (Function.update points x q y).upgraded = true :=
    fun hq => ⟨x, by rwa [Function.update_self]⟩
  obtain pending | ⟨y, hy⟩ := h
  · obtain same | stays | hq := goes.pending
    · exact Or.inl (same ▸ pending)
    · exact Or.inl stays
    · exact Or.inr (own hq)
  · -- a client that was granted its upgrade remembers it
    by_cases he : y = x
    · exact Or.inr (own (granted (he ▸ hy)))
    · exact Or.inr ⟨y, by rwa [Function.update_of_ne he]⟩

theorem Orderly.next (h : Orderly clients lock waiting points) (m : Move now lock place call turn)
    (phase : lock.Phase 0) (member : call.id ∈ clients)
    (next : (points call.id).call call.id = some call)
    (alone : ∀ s ∈ waiting, s.call.id ≠ call.id)
    (idle : place = none → lock.upgrading ≠ some call.id) (task : Nat) :
    Orderly clients turn.state (turn.left task call ++ waiting)
      (heed points (some ⟨task, call, turn.outcome⟩)) := by
  have goes := m.goes phase next (h.entries call.id) idle
  have still := goes.covered fun granted => Errand.upgraded_after granted goes.unfailed
  have waits : ∀ s ∈ turn.left task call, s.call = call ∧
      (points call.id).after turn.outcome = points call.id := by
    intro s hs
    obtain ⟨-, hc, hw⟩ := Turn.mem_left.mp hs
    rw [Turn.outcome, hw]
    exact ⟨hc, Errand.after_waiting _⟩
  refine ⟨?_, ?_, ?_, ?_, ?_, ?_⟩
  · refine (Function.forall_update_iff points fun y q => turn.state.heldBy y = q.entry).mpr ?_
    exact ⟨goes.entry, fun y hy => (m.heldBy_of_ne hy).trans (h.entries y)⟩
  · refine (Function.forall_update_iff points fun _ q => q.isFailed = false).mpr ?_
    exact ⟨goes.unfailed, fun y _ => h.unfailed y⟩
  · intro s hs
    obtain hs | hs := List.mem_append.mp hs
    · exact (waits s hs).1 ▸ member
    · exact h.members s hs
  · intro s hs
    obtain hs | hs := List.mem_append.mp hs
    · obtain ⟨rfl, stays⟩ := waits s hs
      rw [heed, stays, Function.update_eq_self]
      exact next
    · rw [heed, Function.update_of_ne (alone s hs)]
      exact h.calls s hs
  · refine (Function.forall_update_iff points fun y q => y ∉ clients → q = .enters).mpr ?_
    exact ⟨fun hn => absurd member hn, fun y _ => h.outsiders y⟩
  · refine (Function.forall_update_iff points fun _ q => q.refused = true → _).mpr ?_
    refine ⟨fun hq => ?_, fun y _ hy => still (h.covered y hy)⟩
    obtain same | pending := goes.refused
    · exact still (h.covered call.id (same ▸ hq))
    · exact Or.inl pending

theorem Orderly.change (h : Orderly clients room.state room.suspended points)
    (sound : Sound room.state room.suspended 0) (single : Single room.state room.suspended)
    {event : Event (LockCall ι)} {report : Option (LockReport ι)}
    (started : ∀ call, event = .start call → call.id ∈ clients ∧
      (points call.id).call call.id = some call ∧ ∀ s ∈ room.suspended, s.call.id ≠ call.id)
    (hc : (monitor ι).Change room event after report) :
    Orderly clients after.state after.suspended (heed points report) := by
  cases hc with
  | number => exact h
  | wake _ hw => exact hw.state ▸ h.perm hw.suspended
  | start call free =>
    obtain ⟨member, next, alone⟩ := started call rfl
    have idle : room.state.upgrading ≠ some call.id := by
      intro hu
      obtain ⟨s, hs, -, hi⟩ := sound.upgrading_iff.mp hu
      exact alone s hs hi
    rw [Monitor.conclude_state]
    refine Orderly.perm ?_ ((monitor ι).conclude_suspended _ _ _ _).symm
    exact h.next (start_move sound.phase room.now call) sound.phase member next alone
      (fun _ => idle) room.next
  | run s earlier later hr =>
    have perm := Monitor.suspended_of_ready hr
    have h' := h.perm perm
    have waits := (sound.perm perm).waits s List.mem_cons_self
    obtain ⟨-, alone⟩ := (single.perm perm).tail
    rw [Monitor.conclude_state]
    refine Orderly.perm ?_ ((monitor ι).conclude_suspended _ _ _ _).symm
    exact h'.tail.next (resume_move waits room.state room.now) sound.phase
      (h'.members s List.mem_cons_self) (h'.calls s List.mem_cons_self) alone nofun s.task

theorem Contest.of_event_eq_start {c : Contest ι} {event : Event ι}
    (h : c.event clients event = .start call) :
    call.id ∈ clients ∧ (c.points call.id).call call.id = some call ∧
      ∀ s ∈ c.room.suspended, s.call.id ≠ call.id := by
  cases event with
  | start x =>
    rw [Contest.event, Contest.asks] at h
    split at h
    · next next =>
      split at h
      · next free =>
        cases h
        obtain rfl := Errand.id_of_call next
        refine ⟨free.1, next, ?_⟩
        simpa [Contest.isBlocked] using free.2
      · cases h
    · cases h
  | run | wake | advance | skip => cases h

structure Reached (clients : Finset ι) (now : Instant) (events : List (Event (LockCall ι)))
    (c : Contest ι) : Prop where
  apart : keepsApart LockCall.sameId now events = true
  room : c.room = (run now events).1
  orderly : Orderly clients c.room.state c.room.suspended c.points

theorem Reached.sound {events : List (Event (LockCall ι))} {c : Contest ι}
    (h : Reached clients now events c) : Sound c.room.state c.room.suspended 0 := by
  rw [h.room]
  exact (exact_run readsApart_sameId h.apart).sound

theorem Reached.single {events : List (Event (LockCall ι))} {c : Contest ι}
    (h : Reached clients now events c) : Single c.room.state c.room.suspended := by
  rw [h.room]
  exact (keeps_single.exec_apart ⟨⟨0, sound_new⟩, single_new⟩ h.apart).2

theorem Reached.step {events : List (Event (LockCall ι))} {c : Contest ι}
    (h : Reached clients now events c) (event : Event ι) :
    Reached clients now (events ++ [c.event clients event]) (c.step clients event) where
  apart := by
    rw [keepsApart, Monitor.keepsApart_append]
    refine Bool.and_eq_true_iff.mpr ⟨h.apart, ?_⟩
    rw [← run, ← h.room]
    cases he : c.event clients event with
    | start call =>
      obtain ⟨-, -, alone⟩ := Contest.of_event_eq_start he
      have free : ∀ s ∈ c.room.suspended, ¬ call.id = s.call.id := fun s hs => (alone s hs).symm
      simpa [Monitor.keepsApart, LockCall.sameId] using free
    | run | wake | advance | skip => rfl
  room := by
    rw [run, Monitor.exec_concat, ← run, ← h.room]
    rfl
  orderly := h.orderly.change h.sound h.single (fun _ => Contest.of_event_eq_start)
    ((monitor ι).step_change c.room (c.event clients event))

theorem contest_concat (clients : Finset ι) (now : Instant) (schedule : List (Event ι))
    (event : Event ι) : contest clients now (schedule ++ [event]) =
      (contest clients now schedule).step clients event :=
  List.foldl_concat ..

theorem reached_contest (clients : Finset ι) (now : Instant) (schedule : List (Event ι)) :
    ∃ events, Reached clients now events (contest clients now schedule) := by
  induction schedule using List.reverseRecOn with
  | nil => exact ⟨[], rfl, rfl, orderly_new clients⟩
  | append_singleton schedule event ih =>
    obtain ⟨events, h⟩ := ih
    rw [contest_concat]
    exact ⟨_, h.step event⟩

theorem Orderly.of_registered (h : Orderly clients lock waiting points) {held : HeldCounts}
    (registered : lock.heldBy x = some held) : x ∈ clients ∧ (points x).isFinished = false := by
  rw [h.entries] at registered
  constructor
  · by_contra hx
    rw [h.outsiders x hx] at registered
    cases registered
  · cases hp : points x with
    | finished =>
      rw [hp] at registered
      cases registered
    | _ => rfl

theorem Orderly.unregistered (h : Orderly clients lock waiting points)
    (finished : ∀ x ∈ clients, (points x).isFinished = true) (x : ι) : lock.heldBy x = none := by
  by_contra hx
  obtain ⟨held, registered⟩ := Option.ne_none_iff_exists'.mp hx
  obtain ⟨member, unfinished⟩ := h.of_registered registered
  rw [finished x member] at unfinished
  cases unfinished

theorem Orderly.exists_upgraded (h : Orderly clients lock waiting points)
    (nonempty : clients.Nonempty) (finished : ∀ x ∈ clients, (points x).isFinished = true)
    (idle : lock.upgrading = none) : ∃ x ∈ clients, points x = .finished true := by
  obtain ⟨x, hx⟩ := nonempty
  have upgraded : ∃ y, (points y).upgraded = true := by
    have hp := Errand.eq_finished (finished x hx)
    cases hu : (points x).upgraded with
    | true => exact ⟨x, hu⟩
    | false =>
      have refused : (points x).refused = true := by rw [hp, hu]; rfl
      refine (h.covered x refused).resolve_left ?_
      rw [idle]
      exact Bool.false_ne_true
  obtain ⟨y, hy⟩ := upgraded
  have member : y ∈ clients := by
    by_contra hn
    rw [h.outsiders y hn] at hy
    cases hy
  exact ⟨y, member, hy ▸ Errand.eq_finished (finished y member)⟩

/-- While nothing is ready to run and a call is parked, some client can make a call: a holder that
does not wait. -/
theorem Reached.parked_eq_nil {events : List (Event (LockCall ι))} {c : Contest ι}
    (h : Reached clients now events c) (hr : c.room.ready = [])
    (stuck : ∀ x ∈ clients, (c.points x).isFinished = true ∨ c.isBlocked x = true) :
    c.room.parked = [] := by
  by_contra hp
  have watched : Watched c.room := h.room ▸ watched_run now events
  obtain ⟨x, held, registered, -, free⟩ := exists_holder h.single h.sound watched hr hp
  obtain ⟨member, unfinished⟩ := h.orderly.of_registered registered
  obtain finished | blocked := stuck x member
  · rw [unfinished] at finished
    cases finished
  · obtain ⟨s, hs, hx⟩ := List.any_eq_true.mp blocked
    rw [Room.suspended, hr, List.append_nil] at hs
    exact free s hs (of_decide_eq_true hx)

theorem Phase.free_of_unregistered (h : lock.Phase 0) (free : ∀ x, lock.heldBy x = none) :
    lock.upgrading = none ∧ lock.state = ⟨0, 0, true, 0⟩ := by
  obtain ⟨hr, hw⟩ := writable_iff.mp (h.writable_iff_forall.mpr fun y => by rw [free y]; nofun)
  have shared := h.shared_of_writers hw
  have size : lock.holders.size = 0 := shared.readers.symm.trans hr
  exact ⟨shared.upgrading, by rw [state, hr, hw, shared.canRead, size]⟩

/-- In a contest no client meets with a result it does not reckon with. When nothing is ready to run
and no client can make a call, then all have finished, the lock is free, and some upgrade was
granted. -/
theorem contest_ends (clients : Finset ι) (nonempty : clients.Nonempty) (now : Instant)
    (schedule : List (Event ι)) :
    let c := contest clients now schedule
    (∀ x, (c.points x).isFailed = false) ∧
      (c.room.ready = [] →
        (∀ x ∈ clients, (c.points x).isFinished = true ∨ c.isBlocked x = true) →
        (∀ x ∈ clients, (c.points x).isFinished = true) ∧
          c.room.state.state = ⟨0, 0, true, 0⟩ ∧ ∃ x ∈ clients, c.points x = .finished true) := by
  intro c
  obtain ⟨events, h⟩ : ∃ events, Reached clients now events c :=
    reached_contest clients now schedule
  refine ⟨h.orderly.unfailed, ?_⟩
  intro hr stuck
  have parked := h.parked_eq_nil hr stuck
  have finished : ∀ x ∈ clients, (c.points x).isFinished = true := by
    intro x hx
    refine (stuck x hx).resolve_right ?_
    rw [Contest.isBlocked, Room.suspended, parked, hr]
    exact Bool.false_ne_true
  have free := h.orderly.unregistered finished
  obtain ⟨upgrading, state⟩ := h.sound.phase.free_of_unregistered free
  exact ⟨finished, state, h.orderly.exists_upgraded nonempty finished upgrading⟩

def rivals : Finset Nat := {0, 1, 2, 3}

/-- While 0 upgrades and is woken once for no reason, 3 waits to read, and 1 and 2 are refused and
leave. When 0 has been granted the lock and has given it back, 3 reads and upgrades at once. -/
def rivalrySchedule : List (Event Nat) :=
  [.start 0, .start 1, .start 2, .start 0, .start 3, .start 1, .wake 3, .run 3, .start 1, .start 2,
    .start 2, .run 3, .start 0, .run 4, .start 0, .start 3, .start 3, .start 3]

theorem contest_ends_rivalry :
    let c := contest rivals .zero rivalrySchedule
    c.room.ready = [] ∧
      (∀ x ∈ rivals, (c.points x).isFinished = true ∨ c.isBlocked x = true) ∧
      ((∀ x ∈ rivals, (c.points x).isFinished = true) ∧ c.room.state.state = ⟨0, 0, true, 0⟩ ∧
        ∃ x ∈ rivals, c.points x = .finished true) ∧
      rivals.filter (fun x => (c.points x).refused) = {1, 2} := by
  have ready : (contest rivals .zero rivalrySchedule).room.ready = [] := by decide
  have stuck : ∀ x ∈ rivals, ((contest rivals .zero rivalrySchedule).points x).isFinished = true ∨
      (contest rivals .zero rivalrySchedule).isBlocked x = true := by decide
  exact ⟨ready, stuck, (contest_ends rivals ⟨0, by decide⟩ .zero rivalrySchedule).2 ready stuck,
    by decide⟩

end Lock

end BlockingSync
