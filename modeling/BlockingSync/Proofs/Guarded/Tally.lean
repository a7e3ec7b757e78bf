import BlockingSync.Guarded.Basic
import BlockingSync.Proofs.Lock.Bookkeeping

namespace BlockingSync

variable {τ ν ι : Type}

namespace GuardedLock

variable {who : τ → ι}

section names

variable {guard old : Guard τ ν ι} {guards : List (Guard τ ν ι)}

structure Orderly (who : τ → ι) (guards : List (Guard τ ν ι)) : Prop where
  nodup : (guards.map fun guard => (guard.thread, guard.name)).Nodup
  ids : ∀ guard ∈ guards, guard.id = who guard.thread

theorem Orderly.eq_of_key (o : Orderly who guards) (hg : guard ∈ guards) (ho : old ∈ guards)
    (ht : guard.thread = old.thread) (hn : guard.name = old.name) : guard = old :=
  List.inj_on_of_nodup_map o.nodup hg ho (by rw [ht, hn])

variable [DecidableEq τ] [DecidableEq ν] {g : GuardedLock τ ν ι} {thread : τ} {name : ν}

theorem mem_without : guard ∈ g.without thread name ↔
    guard ∈ g.guards ∧ ¬ (guard.thread = thread ∧ guard.name = name) := by
  rw [GuardedLock.without, List.mem_filter, decide_eq_true_eq]

theorem of_guard?_eq_some (h : g.guard? thread name = some old) :
    old ∈ g.guards ∧ old.thread = thread ∧ old.name = name :=
  ⟨List.mem_of_find?_eq_some h, by simpa using List.find?_some h⟩

theorem without_of_none (h : g.guard? thread name = none) : g.without thread name = g.guards := by
  apply List.filter_eq_self.mpr
  intro guard hg
  have hk := List.find?_eq_none.mp h guard hg
  rw [decide_eq_true_eq] at hk ⊢
  exact hk

theorem Orderly.guard?_eq (o : Orderly who g.guards) (hg : guard ∈ g.guards) :
    g.guard? guard.thread guard.name = some guard := by
  cases h : g.guard? guard.thread guard.name with
  | none => exact absurd (decide_eq_true ⟨rfl, rfl⟩) (List.find?_eq_none.mp h guard hg)
  | some old =>
    obtain ⟨ho, ht, hn⟩ := of_guard?_eq_some h
    rw [o.eq_of_key ho hg ht hn]

theorem Orderly.mem_without_iff (o : Orderly who g.guards) (ho : old ∈ g.guards) :
    guard ∈ g.without old.thread old.name ↔ guard ∈ g.guards ∧ guard ≠ old := by
  rw [mem_without]
  refine and_congr_right fun hg => not_congr ⟨?_, ?_⟩
  · rintro ⟨ht, hn⟩
    exact o.eq_of_key hg ho ht hn
  · rintro rfl
    exact ⟨rfl, rfl⟩

theorem Orderly.perm_without (o : Orderly who g.guards) (h : g.guard? thread name = some old) :
    g.guards.Perm (old :: g.without thread name) := by
  obtain ⟨ho, rfl, rfl⟩ := of_guard?_eq_some h
  have nodup := o.nodup.of_map
  apply (List.perm_ext_iff_of_nodup nodup ?_).mpr
  · intro guard
    rw [List.mem_cons, o.mem_without_iff ho]
    by_cases hg : guard = old
    · simp [hg, ho]
    · simp [hg]
  · refine List.nodup_cons.mpr ⟨?_, nodup.filter _⟩
    exact fun hw => ((o.mem_without_iff ho).mp hw).2 rfl

theorem Orderly.without (o : Orderly who g.guards) (thread : τ) (name : ν) :
    Orderly who (g.without thread name) where
  nodup := (List.filter_sublist.map _).nodup o.nodup
  ids guard hg := o.ids guard (mem_without.mp hg).1

theorem Orderly.keep (o : Orderly who g.guards) (hi : guard.id = who guard.thread) :
    Orderly who (g.without guard.thread guard.name ++ [guard]) where
  nodup := by
    rw [List.map_append, List.nodup_append]
    refine ⟨(o.without _ _).nodup, by simp, ?_⟩
    intro key hk other ho he
    obtain ⟨old, hw, rfl⟩ := List.mem_map.mp hk
    rw [List.map_singleton, List.mem_singleton] at ho
    rw [ho, Prod.mk.injEq] at he
    exact (mem_without.mp hw).2 he
  ids other ho := by
    obtain hw | ho := List.mem_append.mp ho
    · exact o.ids other (mem_without.mp hw).1
    · rwa [List.mem_singleton.mp ho]

end names

variable [DecidableEq ι]

def live (guards : List (Guard τ ν ι)) (mode : Mode) (id : ι) : Nat :=
  guards.countP fun guard => guard.mode = mode ∧ guard.id = id

theorem live_cons (guard : Guard τ ν ι) (guards : List (Guard τ ν ι)) (mode : Mode) (id : ι) :
    live (guard :: guards) mode id =
      live guards mode id + if guard.mode = mode ∧ guard.id = id then 1 else 0 := by
  simp [live, List.countP_cons]

/-- The registry holds for each identity as many locks of a mode as it has guards. While readers
stray this is said of the write locks only. -/
def Tally (lock : Lock ι) (guards : List (Guard τ ν ι)) (stray : Nat) : Prop :=
  ∀ mode id, mode = .write ∨ stray = 0 → (lock.held id).count mode = live guards mode id

variable {lock after : Lock ι} {guard old : Guard τ ν ι} {guards rest : List (Guard τ ν ι)}
  {stray stray' : Nat} {call : LockCall ι} {turn : LockTurn ι} {timeout : Timeout} {now : Instant}
  {place : Option LockStage}

theorem Tally.perm (h : Tally lock guards stray) (hp : guards.Perm rest) :
    Tally lock rest stray := by
  intro mode id hm
  rw [live, ← hp.countP_eq]
  exact h mode id hm

theorem Tally.same (h : Tally lock guards stray) (same : ∀ y, after.held y = lock.held y) :
    Tally after guards stray := by
  intro mode id hm
  rw [same]
  exact h mode id hm

theorem Tally.idle (h : Tally lock guards stray) (e : Lock.Effect lock stray call turn stray')
    (hn : turn.outcome ≠ .returned .ok) : Tally turn.state guards stray' := by
  cases e with
  | wait same | fail same => exact h.same same
  | acquire | overlap | release => exact absurd rfl hn

theorem Tally.granted (h : Tally lock guards stray)
    (e : Lock.Effect lock stray (.acquire guard.mode guard.id timeout) turn stray')
    (ok : turn.outcome = .returned .ok) : Tally turn.state (guard :: guards) stray' := by
  obtain ⟨thread, name, mode, id⟩ := guard
  cases e with
  | wait | fail => cases ok
  | acquire adds =>
    intro other y hm
    rw [Turn.returns, Lock.count_of_adds adds, live_cons, h other y hm]
  | overlap reads writes =>
    rintro other y (rfl | hs)
    · exact (Lock.writes_admitReader writes y).trans (h .write y (Or.inl rfl))
    · exact absurd hs (Nat.succ_ne_zero stray)

theorem Tally.count_pos (h : Tally lock guards stray) (hg : guard ∈ guards)
    (hm : guard.mode = .write ∨ stray = 0) : 0 < (lock.held guard.id).count guard.mode := by
  rw [h _ _ hm, live, List.countP_pos_iff]
  exact ⟨guard, hg, decide_eq_true ⟨rfl, rfl⟩⟩

theorem Tally.released (h : Tally lock (guard :: guards) stray)
    (e : Lock.Effect lock stray (.release guard.mode guard.id) turn stray')
    (m : Lock.Move now lock place (.release guard.mode guard.id) turn) :
    Tally turn.state guards stray' := by
  have ho := m.release_outcome
  have hpos := h.count_pos List.mem_cons_self
  obtain ⟨thread, name, mode, id⟩ := guard
  cases e with
  | wait => cases ho
  | fail same =>
    -- only a read guard fails to find its lock, while readers stray
    have hn : ¬ (mode = .write ∨ stray = 0) := by
      intro hm
      rw [if_neg (Nat.ne_of_gt (hpos hm))] at ho
      cases ho
    intro other y hm
    have ht := h other y hm
    obtain ⟨hw, hs⟩ := not_or.mp hn
    obtain rfl := hm.resolve_right hs
    rw [live_cons, if_neg fun he => hw he.1, Nat.add_zero] at ht
    rw [same]
    exact ht
  | release adds =>
    intro other y hm
    have ht := h other y hm
    rw [live_cons, Lock.count_of_adds adds] at ht
    exact Nat.add_right_cancel ht

end GuardedLock

end BlockingSync
