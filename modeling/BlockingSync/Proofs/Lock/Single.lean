import BlockingSync.Proofs.Lock.Lone

namespace BlockingSync

variable {ι : Type} [DecidableEq ι]

def LockCall.sameId (call other : LockCall ι) : Bool := call.id = other.id

namespace Lock

/-- Each identity has one call that waits at most, and waits for an upgrade only if it is
registered. -/
structure Single (lock : Lock ι) (waiting : List (Suspended (LockCall ι) LockStage)) : Prop where
  nodup : (waiting.map (·.call.id)).Nodup
  unregistered : ∀ s ∈ waiting, s.stage ≠ .upgrader → lock.heldBy s.call.id = none

variable {lock : Lock ι} {waiting others : List (Suspended (LockCall ι) LockStage)}
  {s : Suspended (LockCall ι) LockStage} {now : Instant} {place : Option LockStage} {id : ι}
  {call : LockCall ι} {turn : LockTurn ι} {stray : Nat}

theorem Move.unregistered (m : Move now lock place call turn) {stage : LockStage}
    (hw : turn.ending = .waits stage) (hs : stage ≠ .upgrader)
    (waiter : ∀ k, place = some k → k ≠ .upgrader → lock.heldBy call.id = none) :
    turn.state.heldBy call.id = none := by
  cases m with
  | @wait _ mode _ _ outside =>
    cases outside with
    | newcomer unregistered => exact unregistered
    | waiter => exact waiter mode.stage rfl mode.stage_ne_upgrader
  | upgradeWait =>
    cases hw
    exact absurd rfl hs
  | _ => cases hw

theorem Single.perm (h : Single lock waiting) (hp : waiting.Perm others) : Single lock others where
  nodup := (hp.map _).nodup_iff.mp h.nodup
  unregistered s hs := h.unregistered s (hp.mem_iff.mpr hs)

theorem Single.tail (h : Single lock (s :: waiting)) :
    Single lock waiting ∧ ∀ t ∈ waiting, t.call.id ≠ s.call.id := by
  obtain ⟨hn, hd⟩ := List.nodup_cons.mp h.nodup
  refine ⟨⟨hd, fun t ht => h.unregistered t (List.mem_cons_of_mem s ht)⟩, ?_⟩
  intro t ht he
  exact hn (List.mem_map.mpr ⟨t, ht, he⟩)

theorem Single.next (h : Single lock waiting) (m : Move now lock place call turn)
    (waiter : ∀ k, place = some k → k ≠ .upgrader → lock.heldBy call.id = none)
    (alone : ∀ t ∈ waiting, t.call.id ≠ call.id) (task : Nat) :
    Single turn.state (turn.left task call ++ waiting) where
  nodup := by
    refine turn.nodup_left (b := call.id) (fun _ => rfl) ?_ h.nodup
    intro hm
    obtain ⟨t, ht, he⟩ := List.mem_map.mp hm
    exact alone t ht he
  unregistered t ht hk := by
    obtain ht | ht := List.mem_append.mp ht
    · obtain ⟨-, hc, hw⟩ := Turn.mem_left.mp ht
      rw [hc]
      exact m.unregistered hw hk waiter
    · rw [m.heldBy_of_ne (alone t ht)]
      exact h.unregistered t ht hk

theorem single_new : Single (new : Lock ι) [] where
  nodup := List.nodup_nil
  unregistered s hs := by cases hs

/-- Who waits for the end of an upgrade has a read lock. -/
def Reading (lock : Lock ι) (waiting : List (Suspended (LockCall ι) LockStage)) : Prop :=
  ∀ s ∈ waiting, s.stage = .upgrader → 0 < (lock.held s.call.id).reads

theorem Move.reading (m : Move now lock place call turn) (h : lock.Phase stray)
    (hw : turn.ending = .waits .upgrader)
    (waiter : place = some .upgrader → 0 < (lock.held call.id).reads) :
    0 < (turn.state.held call.id).reads := by
  cases m with
  | @upgradeWait _ id _ claimed claim =>
    change 0 < (claimed.held id).reads
    rw [claim.holdings]
    cases claim with
    | fresh registered idle writers =>
      rw [held_eq registered]
      exact ((h.shared_of_writers writers).reading _ _ registered).1
    | pending => exact waiter rfl
  | @wait _ mode => cases mode <;> cases hw
  | _ => cases hw

theorem Reading.next (h : Reading lock waiting) (phase : lock.Phase stray)
    (m : Move now lock place call turn)
    (waiter : place = some .upgrader → 0 < (lock.held call.id).reads)
    (alone : ∀ t ∈ waiting, t.call.id ≠ call.id) (task : Nat) :
    Reading turn.state (turn.left task call ++ waiting) := by
  intro t ht hk
  obtain ht | ht := List.mem_append.mp ht
  · obtain ⟨-, hc, hw⟩ := Turn.mem_left.mp ht
    rw [hk] at hw
    rw [hc]
    exact m.reading phase hw waiter
  · rw [Lock.held, m.heldBy_of_ne (alone t ht)]
    exact h t ht hk

theorem preserved_single :
    Preserved (fun call waiting => ∀ s ∈ waiting, s.call.id ≠ call.id)
      fun (lock : Lock ι) waiting stray =>
        (Sound lock waiting stray ∧ stray = 0 ∧ Lone lock waiting) ∧ Single lock waiting ∧
          Reading lock waiting where
  sound h := h.1.1
  perm := by
    rintro lock waiting others stray hp ⟨lone, single, reading⟩
    exact ⟨preserved_lone.perm hp lone, single.perm hp, fun s hs => reading s (hp.mem_iff.mpr hs)⟩
  start := by
    rintro lock waiting stray now task call alone ⟨lone, single, reading⟩
    have m := start_move lone.1.phase now call
    have apart : call.ReadsAlone waiting := by
      intro id hc t ht
      apply Bool.eq_false_iff.mpr
      intro hd
      exact alone t ht ((LockCall.id_of_acquires hd).trans (LockCall.id_of_acquires hc).symm)
    obtain ⟨stray', lone', e⟩ := preserved_lone.start now task call apart lone
    exact ⟨stray', ⟨lone', single.next m nofun alone task,
      reading.next lone.1.phase m nofun alone task⟩, e⟩
  resume := by
    rintro lock waiting stray now s ⟨lone, single, reading⟩
    have m := resume_move (lone.1.waits s List.mem_cons_self) lock now
    obtain ⟨rest, alone⟩ := single.tail
    obtain ⟨stray', lone', e⟩ := preserved_lone.resume now s lone
    have unregistered : ∀ k, some s.stage = some k → k ≠ .upgrader →
        lock.heldBy s.call.id = none := by
      intro k hk hne
      rw [← Option.some.inj hk] at hne
      exact single.unregistered s List.mem_cons_self hne
    have reads : some s.stage = some .upgrader → 0 < (lock.held s.call.id).reads :=
      fun hk => reading s List.mem_cons_self (Option.some.inj hk)
    have reading' : Reading lock waiting := fun t ht => reading t (List.mem_cons_of_mem s ht)
    exact ⟨stray', ⟨lone', rest.next m unregistered alone s.task,
      reading'.next lone.1.phase m reads alone s.task⟩, e⟩
  release := by
    rintro lock waiting stray s mode ⟨-, single, -⟩
    exact single.tail.2

theorem readsApart_sameId : ReadsApart (LockCall.sameId (ι := ι)) := by
  intro call other id hc ho
  obtain ⟨_, rfl⟩ := LockCall.acquires_iff.mp hc
  obtain ⟨_, rfl⟩ := LockCall.acquires_iff.mp ho
  exact decide_eq_true rfl

theorem keeps_single : ((monitor ι).separated LockCall.sameId).Keeps fun lock waiting _ =>
    (∃ stray, Sound lock waiting stray) ∧ Single lock waiting where
  perm := by
    rintro lock waiting others reports hp ⟨⟨stray, sound⟩, single⟩
    exact ⟨⟨stray, sound.perm hp⟩, single.perm hp⟩
  start := by
    rintro lock waiting reports now task call free ⟨⟨stray, sound⟩, single⟩
    obtain ⟨stray', sound', -⟩ := sound.start now task call
    refine ⟨⟨stray', sound'⟩, single.next (start_move sound.phase now call) nofun ?_ task⟩
    intro t ht he
    exact of_decide_eq_false (Monitor.apart_eq_false (free t ht)) he.symm
  resume := by
    rintro lock waiting reports now s ⟨⟨stray, sound⟩, single⟩
    obtain ⟨stray', sound', -⟩ := sound.resume now
    obtain ⟨rest, alone⟩ := single.tail
    refine ⟨⟨stray', sound'⟩, rest.next (resume_move (sound.waits s List.mem_cons_self) lock now) ?_
      alone s.task⟩
    intro k hk hne
    rw [← Option.some.inj hk] at hne
    exact single.unregistered s List.mem_cons_self hne

end Lock

end BlockingSync
