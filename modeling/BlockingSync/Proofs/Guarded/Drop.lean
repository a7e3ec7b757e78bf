import BlockingSync.Proofs.Guarded.Backing
import BlockingSync.Proofs.Lock.Pool

namespace BlockingSync

variable {τ ν ι : Type}

def GuardCall.bothRead [DecidableEq ι] (who : τ → ι) (call other : GuardCall τ ν) : Bool :=
  match call.acquisition? who, other.acquisition? who with
  | some request, some otherRequest => request.bothRead otherRequest
  | _, _ => false

namespace GuardedLock

variable [DecidableEq τ] [DecidableEq ν] [DecidableEq ι]

def keepsApart (who : τ → ι) (apart : GuardCall τ ν → GuardCall τ ν → Bool) (now : Instant)
    (events : List (Event (GuardCall τ ν))) : Bool :=
  (monitor who).keepsApart apart { state := {}, now := now } events

/-- The live guards of a mode find their locks when they are dropped, as have those that were
dropped or replaced before. -/
structure Drops (who : τ → ι) (mode : Mode)
    (room : Room (GuardedLock τ ν ι) (GuardCall τ ν) LockStage) (reports : List (GuardReport τ ν)) :
    Prop where
  release : ∀ guard ∈ room.state.guards, guard.mode = mode →
    (room.state.lock.release mode guard.id).outcome = .returned .ok
  drop : ∀ guard ∈ room.state.guards, guard.mode = mode →
    (monitor who).busy room (.drop guard.thread guard.name) = false →
    let after := (monitor who).step room (.start (.drop guard.thread guard.name))
    after.2 = some ⟨room.next, .drop guard.thread guard.name, .returned .ok⟩ ∧
      ∀ other, other ∈ after.1.state.guards ↔ other ∈ room.state.guards ∧ other ≠ guard
  unheld : ∀ r ∈ reports, r.outcome ≠ .returned (.unheld mode)
  noFault : ∀ r ∈ reports, ∀ fault, r.outcome ≠ .returned (.fault fault)

variable {who : τ → ι} {room : Room (GuardedLock τ ν ι) (GuardCall τ ν) LockStage}
  {waiting : List (Suspended (GuardCall τ ν) LockStage)} {reports : List (GuardReport τ ν)}
  {stray : Nat} {mode : Mode} {now : Instant} {events : List (Event (GuardCall τ ν))}

theorem Tallied.drops (b : Tallied who room.state waiting reports stray)
    (phase : room.state.lock.Phase stray) (hm : mode = .write ∨ stray = 0) :
    Drops who mode room reports := by
  have release : ∀ guard ∈ room.state.guards, guard.mode = mode →
      (room.state.lock.release mode guard.id).outcome = .returned .ok := by
    rintro guard hg rfl
    have ho : (room.state.lock.release guard.mode guard.id).outcome = _ :=
      (Lock.start_move phase room.now (.release guard.mode guard.id)).release_outcome
    rw [ho, if_neg (Nat.ne_of_gt (b.tally.count_pos hg hm))]
  refine ⟨release, ?_, fun r hr => (b.clean r hr).unheld mode hm, ?_⟩
  · rintro guard hg rfl free
    have found := b.orderly.guard?_eq hg
    have hd : (room.state.drop guard.thread guard.name).outcome = .returned .ok := by
      rw [GuardedLock.drop, found]
      exact Turn.lift_outcome (release guard hg rfl) _ _
    refine ⟨?_, fun other => ?_⟩
    · rw [Monitor.step_start _ free]
      exact congrArg (fun outcome => some (Report.mk _ _ outcome)) hd
    · have hs : (room.state.drop guard.thread guard.name).state.guards =
          room.state.without guard.thread guard.name := by
        rw [GuardedLock.drop, found]
        rfl
      rw [Monitor.step_start_room _ free, Monitor.conclude_state]
      change other ∈ (room.state.drop guard.thread guard.name).state.guards ↔ _
      rw [hs, b.orderly.mem_without_iff hg]
  · exact fun r hr => (b.clean r hr).noFault

theorem sound_run (who : τ → ι) (now : Instant) {events : List (Event (GuardCall τ ν))}
    (guarded : onlyGuards events = true) :
    ∃ stray, Lock.Sound (run who now events).1.state.lock
        (onLock who (run who now events).1.suspended) stray ∧
      Tallied who (run who now events).1.state (run who now events).1.suspended
        (run who now events).2 stray :=
  tallied_run Lock.preserved_sound Lock.sound_new (fun _ _ => trivial) guarded
    ((monitor who).keepsApart_never _ events)

theorem readsAlone_of_apart {call : GuardCall τ ν} {request : LockCall ι}
    (free : ∀ s ∈ waiting, ((monitor who).separated (GuardCall.bothRead who)).excludes call s.call =
      false) (asks : call.Asks who request) : request.ReadsAlone (onLock who waiting) := by
  intro id hc t ht
  cases asks with
  | release => cases hc
  | acquire h =>
    obtain ⟨s, hs, hr, -, -⟩ := mem_onLock.mp ht
    have hb := Monitor.apart_eq_false (free s hs)
    obtain rfl := LockCall.id_of_acquires hc
    have hb' : request.bothRead t.call = false := by simpa only [GuardCall.bothRead, h, hr] using hb
    rwa [LockCall.bothRead, hc, Bool.true_and] at hb'

theorem lone_run (guarded : onlyGuards events = true)
    (apart : keepsApart who (GuardCall.bothRead who) now events = true) :
    Lock.Sound (run who now events).1.state.lock (onLock who (run who now events).1.suspended) 0 ∧
      Tallied who (run who now events).1.state (run who now events).1.suspended
        (run who now events).2 0 := by
  obtain ⟨stray, ⟨sound, rfl, -⟩, b⟩ :=
    tallied_run Lock.preserved_lone ⟨Lock.sound_new, rfl, Lock.lone_new⟩ readsAlone_of_apart guarded
      apart
  exact ⟨sound, b⟩

/-- Two threads of one identity wait to read behind a writer. Both are let in, and the first one
drops its guard. -/
def sharedReadsEvents : List (Event (GuardCall (Nat × Nat) Nat)) :=
  [.start (.take .write (1, 0) 0 .infinite), .start (.take .read (2, 1) 0 .infinite),
    .start (.take .read (2, 2) 0 .infinite), .start (.drop (1, 0) 0), .run 1, .run 2,
    .start (.drop (2, 1) 0)]

theorem drop_unheld_sharedReads :
    onlyGuards sharedReadsEvents = true ∧
      (run Prod.fst .zero sharedReadsEvents).1.state.guards = [⟨(2, 2), 0, .read, 2⟩] ∧
      (monitor Prod.fst).busy (run Prod.fst .zero sharedReadsEvents).1 (.drop (2, 2) 0) = false ∧
      ((run Prod.fst .zero sharedReadsEvents).1.state.lock.release .read 2).outcome =
        .returned (.failed (.notHeld .read)) ∧
      ((monitor Prod.fst).step (run Prod.fst .zero sharedReadsEvents).1
        (.start (.drop (2, 2) 0))).2 =
        some ⟨5, .drop (2, 2) 0, .returned (.unheld .read)⟩ := by
  decide

/-- A guard finds its lock when it is dropped, whatever threads of the same and of other identities
have done or wait for: a write guard always, and a read guard as long as the lock counts its pool.
It does in every run in which no thread starts to read while another thread of its identity waits to
read. -/
theorem drops_find_locks (who : τ → ι) (now : Instant) {events : List (Event (GuardCall τ ν))}
    (guarded : onlyGuards events = true) :
    Drops who .write (run who now events).1 (run who now events).2 ∧
      ((run who now events).1.state.lock.readers = (run who now events).1.state.lock.pool →
        Drops who .read (run who now events).1 (run who now events).2) ∧
      (keepsApart who (GuardCall.bothRead who) now events = true →
        Drops who .read (run who now events).1 (run who now events).2) := by
  obtain ⟨stray, sound, b⟩ := sound_run who now guarded
  refine ⟨b.drops sound.phase (Or.inl rfl), ?_, ?_⟩
  · intro hp
    exact b.drops sound.phase (Or.inr (sound.phase.readers_eq_pool_iff.mp hp))
  · intro apart
    obtain ⟨lone, b⟩ := lone_run guarded apart
    exact b.drops lone.phase (Or.inr rfl)

/-- Two threads of an identity read and a third one upgrades, while two threads of another identity
wait. The first thread takes a write guard in place of its read guard, and the third one drops its
own. -/
def sharedHoldersEvents : List (Event (GuardCall (Nat × Nat) Nat)) :=
  [.start (.take .read (2, 1) 0 .infinite), .start (.take .write (1, 0) 0 .infinite),
    .start (.take .read (2, 2) 0 .infinite), .start (.take .write (2, 3) 0 .infinite),
    .start (.take .read (1, 1) 0 .infinite), .start (.take .write (2, 1) 0 .infinite),
    .start (.drop (2, 3) 0)]

theorem drops_find_locks_sharedHolders :
    onlyGuards sharedHoldersEvents = true ∧
      keepsApart Prod.fst (GuardCall.bothRead Prod.fst) .zero sharedHoldersEvents = true ∧
      ((monitor Prod.fst).step (run Prod.fst .zero sharedHoldersEvents).1
        (.start (.drop (2, 1) 0))).2 = some ⟨7, .drop (2, 1) 0, .returned .ok⟩ ∧
      ((monitor Prod.fst).step (run Prod.fst .zero sharedHoldersEvents).1
        (.start (.drop (2, 2) 0))).2 = some ⟨7, .drop (2, 2) 0, .returned .ok⟩ := by
  have guarded : onlyGuards sharedHoldersEvents = true := by decide
  have apart :
      keepsApart Prod.fst (GuardCall.bothRead Prod.fst) .zero sharedHoldersEvents = true := by
    decide
  obtain ⟨writes, -, reads⟩ := drops_find_locks Prod.fst .zero guarded
  exact ⟨guarded, apart, (writes.drop ⟨(2, 1), 0, .write, 2⟩ (by decide) rfl (by decide)).1,
    ((reads apart).drop ⟨(2, 2), 0, .read, 2⟩ (by decide) rfl (by decide)).1⟩

end GuardedLock

end BlockingSync
