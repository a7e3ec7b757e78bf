import BlockingSync.Proofs.Deadline
import BlockingSync.Proofs.Lock.Pending

namespace BlockingSync

namespace Lock

variable {ι : Type} [DecidableEq ι] {lock before : Lock ι} {u : ι} {now : Instant}
  {timeout : Timeout} {stray : Nat} {reports : List (LockReport ι)} {room later : LockRoom ι}

/-- If `u` acquires the write lock, it claims an upgrade. -/
structure Upgradable (lock : Lock ι) (u : ι) : Prop where
  registered : (lock.heldBy u).isSome
  idle : (lock.held u).writes = 0
  free : lock.writers = 0

def claimed (lock : Lock ι) (u : ι) : Lock ι := lock.claimUpgrade u (lock.readers - 1)

theorem Upgradable.readers (h : lock.Upgradable u) (phase : lock.Phase stray) :
    lock.readers = lock.readers - 1 + 1 := by
  obtain ⟨held, registered⟩ := Option.isSome_iff_exists.mp h.registered
  have hpos := (phase.shared_of_writers h.free).readers_pos registered
  omega

theorem Upgradable.claimed (h : lock.Upgradable u) (phase : lock.Phase stray) :
    (lock.claimed u).Upgrading u stray := by
  obtain ⟨held, registered⟩ := Option.isSome_iff_exists.mp h.registered
  exact (phase.shared_of_writers h.free).claim registered (h.readers phase)

theorem Upgradable.acquireWrite_eq (h : lock.Upgradable u) (phase : lock.Phase stray)
    (now : Instant) (timeout : Timeout) :
    lock.acquireWrite now u timeout = (lock.claimed u).wait now .upgrader u timeout := by
  obtain ⟨held, registered⟩ := Option.isSome_iff_exists.mp h.registered
  have idle := h.idle
  have readers := h.readers phase
  rw [held_eq registered] at idle
  rw [acquireWrite, registered]
  dsimp only
  rw [if_neg (Nat.not_lt_of_le (Nat.le_of_eq idle)),
    if_neg (Nat.not_lt_of_le (Nat.le_of_eq h.free)), readers]
  rfl

theorem shut_claimed (h : ∀ r ∈ reports, r.outcome ≠ .returned .ok) :
    Shut lock (lock.claimed u) reports :=
  { Shut.of_idle h with readers := Nat.sub_le lock.readers 1 }

theorem upgrade_of_ok (h : (lock.wait now .upgrader u timeout).outcome = .returned .ok) :
    lock.readers = 0 ∧
      lock.wait now .upgrader u timeout =
        .returns ({ lock with upgrading := none }.grantWrite u) .ok := by
  obtain ⟨none_left, ht⟩ := wait_of_ok h
  exact ⟨beq_iff_eq.mp none_left, ht⟩

theorem upgrade_of_failed {error : LockError}
    (h : (lock.wait now .upgrader u timeout).outcome = .returned (.failed error)) :
    lock.readers ≠ 0 ∧ lock.wait now .upgrader u timeout = lock.abandonUpgrade u := by
  obtain ⟨left, ht⟩ := wait_of_failed h
  exact ⟨beq_eq_false_iff_ne.mp left, ht⟩

def upgrader (room : LockRoom ι) (u : ι) (timeout : Timeout) :
    Suspended (LockCall ι) LockStage :=
  ⟨room.next, .acquire .write u timeout, .upgrader⟩

theorem Upgradable.start_eq (h : room.state.Upgradable u) (phase : room.state.Phase stray)
    (timeout : Timeout) :
    (monitor ι).start room.now room.state (.acquire .write u timeout) =
      (room.state.claimed u).wait room.now .upgrader u timeout :=
  h.acquireWrite_eq phase room.now timeout

theorem Upgradable.step (h : room.state.Upgradable u) (phase : room.state.Phase stray)
    (unreturned : Monitor.Unreturned room.next
      ((monitor ι).step room (.start (.acquire .write u timeout))).2.toList) :
    ∃ after, (monitor ι).step room (.start (.acquire .write u timeout)) =
        (after, some ⟨room.next, .acquire .write u timeout, .waiting⟩) ∧
      after.state = room.state.claimed u ∧ upgrader room u timeout ∈ after.suspended := by
  let call : LockCall ι := .acquire .write u timeout
  have free := not_busy room call
  have report := (monitor ι).step_start free
  have hs := h.start_eq phase timeout
  rw [report] at unreturned
  have waiting : ((monitor ι).start room.now room.state call).outcome = .waiting :=
    unreturned.waiting rfl
  rw [hs] at waiting
  rw [wait_of_waiting waiting] at hs
  refine ⟨((monitor ι).step room (.start call)).1, Prod.ext rfl ?_, ?_⟩
  · rw [report, hs]
    rfl
  · rw [(monitor ι).step_start_room free, Monitor.conclude_state, hs]
    have mem := ((monitor ι).conclude_suspended { room with next := room.next + 1 } room.next call
      (.waits (room.state.claimed u) .upgrader)).mem_iff (a := upgrader room u timeout)
    exact ⟨rfl, mem.mpr (List.mem_append_left _ (Turn.mem_left.mpr ⟨rfl, rfl, rfl⟩))⟩

/-- From `room`, where the next call claims an upgrade of `u`, to `later`, a time of which the
reports tell, that call has not returned. -/
structure UnderClaim (u : ι) (timeout : Timeout) (room later : LockRoom ι)
    (reports : List (LockReport ι)) : Prop where
  waits : upgrader room u timeout ∈ later.suspended
  shut : Shut room.state later.state reports
  unmoved : (∀ r ∈ reports, r.outcome ≠ .returned .ok) → later.state = room.state.claimed u

theorem Upgradable.exec (h : room.state.Upgradable u)
    (sound : Sound room.state room.suspended stray) {more : List (Event (LockCall ι))}
    (unreturned : Monitor.Unreturned room.next
      ((monitor ι).exec room (.start (.acquire .write u timeout) :: more)).2) :
    UnderClaim u timeout room
      ((monitor ι).exec room (.start (.acquire .write u timeout) :: more)).1
      ((monitor ι).exec room (.start (.acquire .write u timeout) :: more)).2 := by
  simp only [Monitor.exec] at unreturned ⊢
  obtain ⟨first, rest⟩ := Monitor.unreturned_append.mp unreturned
  obtain ⟨after, he, hs, waits⟩ := h.step sound.phase first
  obtain ⟨_, sound'⟩ := sound.step (.start (.acquire .write u timeout))
  rw [he] at rest sound' ⊢
  have p := pending_exec sound' waits rfl rest
  have shut := p.shut
  rw [hs] at shut
  refine ⟨p.waits, (shut_claimed (by simp)).trans shut, ?_⟩
  intro quiet
  rw [p.unmoved fun r hr => quiet r (List.mem_append_right _ hr), hs]

/-- An upgrade of `u` that was claimed in `before` is granted in `lock`: nobody else is left, and
`u` has the read locks of then, but for what the reports tell. -/
structure GrantedAlone (u : ι) (before lock after : Lock ι) (reports : List (LockReport ι)) :
    Prop where
  alone : lock.holders.ids = [u]
  reads : (after.held u).reads + released reports .read u =
    (before.held u).reads + acquired reports .read u
  writes : (after.held u).writes = 1

theorem Upgrading.grantedAlone (h : lock.Upgrading u stray) (hr : lock.readers = 0)
    (shut : Shut before lock reports) :
    GrantedAlone u before lock ({ lock with upgrading := none }.grantWrite u) reports := by
  have held : ({ lock with upgrading := none }.grantWrite u).held u =
      { lock.held u with writes := (lock.held u).writes + 1 } := by
    rw [Lock.held, heldBy_grantWrite, if_pos rfl]
    rfl
  refine ⟨Registry.ids_eq_singleton (h.alone hr).2, ?_, ?_⟩
  · rw [held]
    exact shut.balance .read u
  · rw [held]
    exact congrArg (· + 1) (h.writes_eq_zero u)

theorem run_of_upgrader (numbered : Monitor.Numbered later.suspended later.next)
    {s : Suspended (LockCall ι) LockStage} (hs : s ∈ later.suspended) (hk : s.stage = .upgrader)
    {event : Event (LockCall ι)} {report : LockReport ι}
    (he : ((monitor ι).step later event).2 = some report) (hn : report.task = s.task) :
    ∃ rest, ((monitor ι).step later event).1 =
        ((monitor ι).conclude rest s.task s.call
          (later.state.wait later.now .upgrader s.call.id s.call.timeout)).1 ∧
      report = ⟨s.task, s.call,
        (later.state.wait later.now .upgrader s.call.id s.call.timeout).outcome⟩ := by
  have hc := (monitor ι).step_change later event
  rw [he] at hc
  obtain ⟨earlier, behind, -, hr, hreport⟩ := hc.own_run numbered hs hn
  rw [hk] at hr hreport
  exact ⟨_, hr, hreport⟩

/-- The lock while the call of number `n`, which claimed an upgrade of `u` in `before`, has not
returned. -/
structure KeptShut (u : ι) (n : Nat) (before : Lock ι) (room : LockRoom ι)
    (reports : List (LockReport ι)) : Prop where
  upgrading : room.state.upgrading = some u
  shut : Shut before room.state reports
  next : ∀ event, Monitor.Unreturned n ((monitor ι).step room event).2.toList →
    Shut room.state ((monitor ι).step room event).1.state ((monitor ι).step room event).2.toList
  woken : room.state.readers = 0 → (∀ s ∈ room.parked, s.task ≠ n) ∧
    ∃ call, ((monitor ι).step room (.run n)).2 = some ⟨n, call, .returned .ok⟩
  granted : ∀ event report, ((monitor ι).step room event).2 = some report → report.task = n →
    report.outcome = .returned .ok →
    GrantedAlone u before room.state ((monitor ι).step room event).1.state reports

theorem woken_of_no_readers {events : List (Event (LockCall ι))}
    {s : Suspended (LockCall ι) LockStage} (hs : s ∈ (run now events).1.suspended)
    (hk : s.stage = .upgrader) (hr : (run now events).1.state.readers = 0) :
    (∀ t ∈ (run now events).1.parked, t.task ≠ s.task) ∧
      ((monitor ι).step (run now events).1 (.run s.task)).2 =
        some ⟨s.task, s.call, .returned .ok⟩ := by
  have admits : (run now events).1.state.admits s.stage = true := by
    rw [hk]
    exact beq_iff_eq.mpr hr
  -- the last reader that left has woken the upgrader, or it would be lost
  have ready : s ∈ (run now events).1.ready := by
    obtain hp | hready := List.mem_append.mp hs
    · have hw := (watched_run now events s hp admits).1
      rw [hk] at hw
      cases hw
    · exact hready
  exact ⟨fun t ht => (numbered_run now events).task_ne ht ready, report_of_admits ready admits⟩

theorem keptShut_run {events : List (Event (LockCall ι))}
    (hs : upgrader room u timeout ∈ (run now events).1.suspended)
    (shut : Shut before (run now events).1.state reports) :
    KeptShut u room.next before (run now events).1 reports := by
  obtain ⟨stray, k⟩ := kept_run now events
  have upgrading := k.sound.upgrading_of_upgrader hs rfl
  refine ⟨upgrading.upgrading, shut, ?_, ?_, ?_⟩
  · intro event unreturned
    have p : Pending (upgrader room u timeout) (run now events).1 (run now events).1 [] :=
      ⟨hs, .of_idle (by simp), fun _ => rfl⟩
    exact (p.change rfl k.sound ((monitor ι).step_change _ event) unreturned).shut
  · intro hr
    obtain ⟨unparked, granted⟩ := woken_of_no_readers hs rfl hr
    exact ⟨unparked, _, granted⟩
  · intro event report he hn ok
    obtain ⟨rest, hroom, rfl⟩ := run_of_upgrader (numbered_run now events) hs rfl he hn
    obtain ⟨hr, ht⟩ := upgrade_of_ok ok
    rw [hroom, Monitor.conclude_state, ht]
    exact upgrading.grantedAlone hr shut

theorem Upgradable.grantedAlone (h : room.state.Upgradable u) (phase : room.state.Phase stray)
    {timeout : Timeout} (granted : ((monitor ι).step room (.start (.acquire .write u timeout))).2 =
      some ⟨room.next, .acquire .write u timeout, .returned .ok⟩) :
    GrantedAlone u room.state room.state
      ((monitor ι).step room (.start (.acquire .write u timeout))).1.state [] := by
  have hs := h.start_eq phase timeout
  have free := not_busy room (.acquire .write u timeout)
  rw [(monitor ι).step_start free, hs] at granted
  obtain ⟨hr, ht⟩ := upgrade_of_ok (congrArg Report.outcome (Option.some.inj granted))
  rw [(monitor ι).step_start_room free, Monitor.conclude_state, hs, ht]
  have shut : Shut room.state (room.state.claimed u) [] := shut_claimed (by simp)
  have g := (h.claimed phase).grantedAlone hr shut
  exact ⟨g.alone, g.reads, g.writes⟩

/-- An upgrade keeps the lock shut from its claim until its call returns, and is granted only when
its identity is alone. -/
theorem upgrade_ends_alone {events : List (Event (LockCall ι))}
    (h : (run now events).1.state.Upgradable u) (timeout : Timeout) :
    let room := (run now events).1
    let call := LockCall.acquire .write u timeout
    (((monitor ι).step room (.start call)).2 = some ⟨room.next, call, .returned .ok⟩ →
      GrantedAlone u room.state room.state ((monitor ι).step room (.start call)).1.state []) ∧
    ∀ more, Monitor.Unreturned room.next ((monitor ι).exec room (.start call :: more)).2 →
      KeptShut u room.next room.state ((monitor ι).exec room (.start call :: more)).1
        ((monitor ι).exec room (.start call :: more)).2 := by
  obtain ⟨stray, k⟩ := kept_run now events
  refine ⟨h.grantedAlone k.sound.phase, ?_⟩
  intro more unreturned
  have c := h.exec k.sound unreturned
  rw [run_append] at c ⊢
  exact keptShut_run c.waits c.shut

def twoReadersEvents : List (Event (LockCall Nat)) :=
  [.start (.acquire .read 1 .infinite), .start (.acquire .read 2 .infinite)]

/-- While the upgrade of 1 is pending, 1 reads once more and then gives all its read locks back, 3
waits to read, the upgrade of 2 is refused, and 2 leaves; then the time of the upgrade is over. -/
def lateGrantEvents : List (Event (LockCall Nat)) :=
  [.start (.acquire .read 1 .infinite), .start (.release .read 1), .start (.release .read 1),
    .start (.acquire .read 3 .infinite), .start (.acquire .write 2 .infinite),
    .start (.release .read 2), .advance { Duration.zero with secs := 9 }]

theorem upgrade_ends_alone_lateGrant :
    let room := (run .zero twoReadersEvents).1
    let timeout := Timeout.after .zero { Duration.zero with secs := 5 }
    let later := (monitor Nat).exec room (.start (.acquire .write 1 timeout) :: lateGrantEvents)
    room.state.Upgradable 1 ∧ Monitor.Unreturned room.next later.2 ∧ later.1.state.readers = 0 ∧
      timeout.isExpired later.1.now = true ∧ KeptShut 1 room.next room.state later.1 later.2 ∧
      ((monitor Nat).step later.1 (.run room.next)).1.state.heldBy 1 = some { writes := 1 } := by
  intro room timeout later
  have upgradable : room.state.Upgradable 1 := ⟨by decide, by decide, by decide⟩
  have unreturned : Monitor.Unreturned room.next later.2 := by decide
  exact ⟨upgradable, unreturned, by decide, by decide,
    (upgrade_ends_alone upgradable timeout).2 lateGrantEvents unreturned, by decide⟩

end Lock

end BlockingSync
