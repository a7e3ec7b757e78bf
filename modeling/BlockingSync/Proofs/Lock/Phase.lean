import BlockingSync.Proofs.Lock.Holdings

namespace BlockingSync

namespace Lock

variable {ι : Type} [DecidableEq ι]

/-- Every registered identity is a reader. The lock may count more readers than these: an identity
that waited twice for a read lock is let in twice and registered once. They are the strays; they
never leave, and while there is one nobody gets the lock to itself. -/
structure Shared (lock : Lock ι) (stray : Nat) : Prop where
  writers : lock.writers = 0
  canRead : lock.canRead = true
  upgrading : lock.upgrading = none
  readers : lock.readers = lock.holders.size + stray
  reading : ∀ id held, lock.heldBy id = some held → 0 < held.reads ∧ held.writes = 0

/-- Every registered identity but `u` is a reader, and the upgrade of `u` is pending. -/
structure Upgrading (lock : Lock ι) (u : ι) (stray : Nat) : Prop where
  writers : lock.writers = 1
  canRead : lock.canRead = false
  upgrading : lock.upgrading = some u
  readers : lock.readers + 1 = lock.holders.size + stray
  registered : (lock.heldBy u).isSome
  reading : ∀ id held, lock.heldBy id = some held → (id ≠ u → 0 < held.reads) ∧ held.writes = 0

/-- The only registered identity is the writer `x`. -/
structure Exclusive (lock : Lock ι) (x : ι) : Prop where
  writers : lock.writers = 1
  canRead : lock.canRead = false
  upgrading : lock.upgrading = none
  readers : lock.readers = 0
  alone : ∀ id, (lock.heldBy id).isSome ↔ id = x
  writing : 0 < (lock.held x).writes

inductive Phase (lock : Lock ι) : Nat → Prop
  | shared {stray : Nat} (h : lock.Shared stray) : Phase lock stray
  | upgrading {u : ι} {stray : Nat} (h : lock.Upgrading u stray) : Phase lock stray
  | exclusive {x : ι} (h : lock.Exclusive x) : Phase lock 0

theorem shared_new : (new : Lock ι).Shared 0 where
  writers := rfl
  canRead := rfl
  upgrading := rfl
  readers := rfl
  reading id held h := by simp [heldBy, new] at h

variable {lock : Lock ι} {id u x : ι} {held : HeldCounts} {stray others : Nat}

namespace Shared

theorem record (h : lock.Shared stray) (registered : lock.heldBy id = some held)
    {new : HeldCounts} (hr : 0 < new.reads) (hw : new.writes = 0) :
    (lock.record id new).Shared stray where
  writers := h.writers
  canRead := h.canRead
  upgrading := h.upgrading
  readers := h.readers.trans (by rw [size_record registered])
  reading other counts ho := by
    obtain ⟨-, rfl⟩ | ⟨-, ho⟩ := of_heldBy_record ho
    · exact ⟨hr, hw⟩
    · exact h.reading other counts ho

theorem enter (h : lock.Shared stray) (fresh : lock.heldBy id = none) :
    (lock.admitReader id).Shared stray where
  writers := h.writers
  canRead := h.canRead
  upgrading := h.upgrading
  readers := by
    have hs := size_record_new fresh { reads := 1 }
    have hr := h.readers
    change lock.readers + 1 = (lock.record id { reads := 1 }).holders.size + stray
    omega
  reading other counts ho := by
    obtain ⟨-, rfl⟩ | ⟨-, ho⟩ := of_heldBy_record ho
    · exact ⟨Nat.one_pos, rfl⟩
    · exact h.reading other counts ho

theorem enter_again (h : lock.Shared stray) (registered : lock.heldBy id = some held) :
    (lock.admitReader id).Shared (stray + 1) := by
  have hr : (lock.record id { reads := 1 }).Shared stray := h.record registered Nat.one_pos rfl
  exact { hr with readers := congrArg (· + 1) hr.readers }

theorem leave (h : lock.Shared stray) (registered : lock.heldBy id = some held)
    (hr : lock.readers = others + 1) :
    { lock.forget id with readers := others }.Shared stray where
  writers := h.writers
  canRead := h.canRead
  upgrading := h.upgrading
  readers := by
    have hs := size_forget registered
    have := h.readers
    change others = (lock.forget id).holders.size + stray
    omega
  reading other counts ho := h.reading other counts (of_heldBy_forget ho).2

theorem claim (h : lock.Shared stray) (registered : lock.heldBy id = some held)
    (hr : lock.readers = others + 1) : (lock.claimUpgrade id others).Upgrading id stray where
  writers := rfl
  canRead := rfl
  upgrading := rfl
  readers := hr.symm.trans h.readers
  registered := by
    change (lock.heldBy id).isSome
    rw [registered, Option.isSome_some]
  reading other counts ho := by
    obtain ⟨hr, hw⟩ := h.reading other counts ho
    exact ⟨fun _ => hr, hw⟩

theorem readers_pos (h : lock.Shared stray) (registered : lock.heldBy id = some held) :
    0 < lock.readers := by
  have hp := Registry.size_pos (show (lock.holders.get? id).isSome by
    rw [show lock.holders.get? id = some held from registered, Option.isSome_some])
  have hr := h.readers
  omega

theorem writes_eq_zero (h : lock.Shared stray) (id : ι) : (lock.held id).writes = 0 :=
  writes_held_eq_zero fun held hi => (h.reading id held hi).2

theorem free_of_readers_eq_zero (h : lock.Shared stray) (hr : lock.readers = 0) :
    stray = 0 ∧ ∀ id, lock.heldBy id = none := by
  have hs := h.readers
  refine ⟨by omega, ?_⟩
  exact Registry.get?_eq_none_of_size_eq_zero (by omega)

end Shared

theorem Exclusive.of_grant (hw : lock.writers = 1) (hc : lock.canRead = false)
    (hu : lock.upgrading = none) (hr : lock.readers = 0)
    (alone : ∀ other, other ≠ x → lock.heldBy other = none) :
    (lock.grantWrite x).Exclusive x where
  writers := hw
  canRead := hc
  upgrading := hu
  readers := hr
  alone other := by
    rw [heldBy_grantWrite]
    split
    · next he => simp [he]
    · next he => simp [alone other he, he]
  writing := by
    rw [Lock.held, heldBy_grantWrite, if_pos rfl]
    exact Nat.succ_pos _

theorem Exclusive.of_free (hr : lock.readers = 0) (hu : lock.upgrading = none)
    (free : ∀ id, lock.heldBy id = none) (x : ι) :
    ({ lock with writers := 1, canRead := false }.grantWrite x).Exclusive x :=
  .of_grant rfl rfl hu hr fun other _ => free other

namespace Upgrading

theorem record (h : lock.Upgrading u stray) (registered : lock.heldBy id = some held)
    {new : HeldCounts} (hr : id ≠ u → 0 < new.reads) (hw : new.writes = 0) :
    (lock.record id new).Upgrading u stray where
  writers := h.writers
  canRead := h.canRead
  upgrading := h.upgrading
  readers := h.readers.trans (by rw [size_record registered])
  registered := by
    rw [heldBy_record]
    split
    · rfl
    · exact h.registered
  reading other counts ho := by
    obtain ⟨rfl, rfl⟩ | ⟨-, ho⟩ := of_heldBy_record ho
    · exact ⟨hr, hw⟩
    · exact h.reading other counts ho

theorem leave (h : lock.Upgrading u stray) (registered : lock.heldBy id = some held)
    (hu : id ≠ u) (hr : lock.readers = others + 1) :
    { lock.forget id with readers := others }.Upgrading u stray where
  writers := h.writers
  canRead := h.canRead
  upgrading := h.upgrading
  readers := by
    have hs := size_forget registered
    have := h.readers
    change others + 1 = (lock.forget id).holders.size + stray
    omega
  registered := by
    change ((lock.forget id).heldBy u).isSome
    rw [heldBy_forget, if_neg (Ne.symm hu)]
    exact h.registered
  reading other counts ho := h.reading other counts (of_heldBy_forget ho).2

theorem alone (h : lock.Upgrading u stray) (hr : lock.readers = 0) :
    stray = 0 ∧ ∀ other, (lock.heldBy other).isSome ↔ other = u := by
  have hp := Registry.size_pos h.registered
  have hs := h.readers
  exact ⟨by omega, Registry.isSome_iff_of_size_eq_one (by omega) h.registered⟩

theorem unregistered_of_ne (h : lock.Upgrading u stray) (hr : lock.readers = 0) (hne : id ≠ u) :
    lock.heldBy id = none :=
  Option.not_isSome_iff_eq_none.mp fun hi => hne (((h.alone hr).2 id).mp hi)

theorem grant (h : lock.Upgrading u stray) (hr : lock.readers = 0) :
    stray = 0 ∧ ({ lock with upgrading := none }.grantWrite u).Exclusive u :=
  ⟨(h.alone hr).1, .of_grant h.writers h.canRead rfl hr fun _ => h.unregistered_of_ne hr⟩

theorem back (h : lock.Upgrading u stray) (hr : 0 < (lock.held u).reads) :
    { lock with
      upgrading := none, writers := 0, canRead := true, readers := lock.readers + 1 }.Shared
        stray where
  writers := rfl
  canRead := rfl
  upgrading := rfl
  readers := h.readers
  reading other counts ho := by
    change lock.heldBy other = some counts at ho
    obtain ⟨hpos, hw⟩ := h.reading other counts ho
    refine ⟨?_, hw⟩
    by_cases he : other = u
    · rw [he] at ho
      rwa [held_eq ho] at hr
    · exact hpos he

theorem withdraw (h : lock.Upgrading u stray) :
    ({ lock with upgrading := none, writers := 0, canRead := true }.forget u).Shared stray where
  writers := rfl
  canRead := rfl
  upgrading := rfl
  readers := by
    obtain ⟨held, hu⟩ := Option.isSome_iff_exists.mp h.registered
    have hs := size_forget hu
    have hr := h.readers
    change lock.readers = (lock.forget u).holders.size + stray
    omega
  reading other counts ho := by
    obtain ⟨hne, ho⟩ := of_heldBy_forget ho
    obtain ⟨hpos, hw⟩ := h.reading other counts ho
    exact ⟨hpos hne, hw⟩

theorem writes_eq_zero (h : lock.Upgrading u stray) (id : ι) : (lock.held id).writes = 0 :=
  writes_held_eq_zero fun held hi => (h.reading id held hi).2

end Upgrading

namespace Exclusive

theorem heldBy_eq (h : lock.Exclusive x) : lock.heldBy x = some (lock.held x) :=
  heldBy_of_pos (show 0 < (lock.held x).count .write from h.writing)

theorem eq_of_heldBy (h : lock.Exclusive x) (registered : lock.heldBy id = some held) :
    id = x ∧ held = lock.held x := by
  have hx := (h.alone id).mp (by rw [registered, Option.isSome_some])
  refine ⟨hx, ?_⟩
  rw [← hx, held_eq registered]

theorem record (h : lock.Exclusive x) {new : HeldCounts} (hw : 0 < new.writes) :
    (lock.record x new).Exclusive x where
  writers := h.writers
  canRead := h.canRead
  upgrading := h.upgrading
  readers := h.readers
  alone other := by
    rw [heldBy_record]
    split
    · next he => simp [he]
    · exact h.alone other
  writing := by rwa [held_record, if_pos rfl]

theorem downgrade (h : lock.Exclusive x) (hr : 0 < (lock.held x).reads) :
    { lock.record x { lock.held x with writes := 0 } with
      writers := 0, canRead := true, readers := lock.readers + 1 }.Shared 0 where
  writers := rfl
  canRead := rfl
  upgrading := h.upgrading
  readers := by
    have hs := Registry.size_eq_one h.alone
    have hz := h.readers
    have := size_record h.heldBy_eq { lock.held x with writes := 0 }
    change lock.readers + 1 = (lock.record x { lock.held x with writes := 0 }).holders.size + 0
    omega
  reading other counts ho := by
    obtain ⟨-, rfl⟩ | ⟨hne, ho⟩ := of_heldBy_record ho
    · exact ⟨hr, rfl⟩
    · exact absurd (h.eq_of_heldBy ho).1 hne

theorem leave (h : lock.Exclusive x) :
    { (lock.record x held).forget x with writers := 0, canRead := true }.Shared 0 where
  writers := rfl
  canRead := rfl
  upgrading := h.upgrading
  readers := by
    have hs := Registry.size_eq_one h.alone
    have hz := h.readers
    have := size_record h.heldBy_eq held
    have := size_forget (show (lock.record x held).heldBy x = some held by
      rw [heldBy_record, if_pos rfl])
    change lock.readers = ((lock.record x held).forget x).holders.size + 0
    omega
  reading other counts ho := by
    obtain ⟨hne, ho⟩ := of_heldBy_forget ho
    obtain ⟨he, -⟩ | ⟨-, ho⟩ := of_heldBy_record ho
    · exact absurd he hne
    · exact absurd (h.eq_of_heldBy ho).1 hne

end Exclusive

end Lock

end BlockingSync
