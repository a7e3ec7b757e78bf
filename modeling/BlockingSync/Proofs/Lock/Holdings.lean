import BlockingSync.Lock.Basic

namespace BlockingSync

def HeldCounts.count (held : HeldCounts) : Mode → Nat
  | .read => held.reads
  | .write => held.writes

theorem HeldCounts.eq_empty {held : HeldCounts} (hr : held.reads = 0) (hw : held.writes = 0) :
    held = {} := by
  cases held
  simp only at hr hw
  rw [hr, hw]

@[ext] theorem HeldCounts.ext {a b : HeldCounts} (h : ∀ mode, a.count mode = b.count mode) :
    a = b := by
  obtain ⟨reads, writes⟩ := a
  rw [show reads = b.reads from h .read, show writes = b.writes from h .write]

namespace Registry

variable {ι : Type} [DecidableEq ι] {r : Registry ι} {x : ι}

theorem ids_eq_singleton (h : ∀ id, (r.get? id).isSome ↔ id = x) : r.ids = [x] := by
  have hm : ∀ id, id ∈ r.ids ↔ id ∈ [x] := by
    intro id
    rw [mem_ids_iff, h, List.mem_singleton]
  exact List.perm_singleton.mp ((List.perm_ext_iff_of_nodup r.nodup (by simp)).mpr hm)

theorem size_eq_one (h : ∀ id, (r.get? id).isSome ↔ id = x) : r.size = 1 := by
  rw [← length_ids, ids_eq_singleton h, List.length_singleton]

theorem isSome_iff_of_size_eq_one (hs : r.size = 1) (hx : (r.get? x).isSome) (id : ι) :
    (r.get? id).isSome ↔ id = x := by
  rw [← length_ids] at hs
  obtain ⟨y, hy⟩ := List.length_eq_one_iff.mp hs
  rw [← mem_ids_iff, hy, List.mem_singleton] at hx
  rw [← mem_ids_iff, hy, List.mem_singleton, hx]

theorem size_pos (hx : (r.get? x).isSome) : 0 < r.size := by
  rw [← length_ids]
  exact List.length_pos_of_mem ((r.mem_ids_iff x).mpr hx)

theorem two_le_size {y : ι} (hx : (r.get? x).isSome) (hy : (r.get? y).isSome) (hne : y ≠ x) :
    2 ≤ r.size := by
  have hp := size_pos hx
  have h1 : r.size ≠ 1 := fun hs => hne ((isSome_iff_of_size_eq_one hs hx y).mp hy)
  omega

theorem get?_eq_none_of_size_eq_zero (h : r.size = 0) (id : ι) : r.get? id = none := by
  cases hg : r.get? id with
  | none => rfl
  | some held =>
    have hp := size_pos (r := r) (x := id) (by rw [hg]; rfl)
    omega

end Registry

namespace Lock

variable {ι : Type}

theorem readable_iff {lock : Lock ι} :
    lock.readable = true ↔ lock.canRead = true ∧ lock.writers = 0 := by
  simp [readable]

theorem writable_iff {lock : Lock ι} :
    lock.writable = true ↔ lock.readers = 0 ∧ lock.writers = 0 := by
  simp [writable]

variable [DecidableEq ι] (lock : Lock ι) (id other : ι)

/-- The counts of `id`, zero if it is not registered. -/
def held : HeldCounts := (lock.heldBy id).getD {}

theorem heldBy_record (held : HeldCounts) :
    (lock.record id held).heldBy other = if other = id then some held else lock.heldBy other := by
  split
  · next h => rw [h]; exact lock.holders.get?_insert_self id held
  · next h => exact lock.holders.get?_insert_of_ne h held

theorem heldBy_forget :
    (lock.forget id).heldBy other = if other = id then none else lock.heldBy other := by
  split
  · next h => rw [h]; exact lock.holders.get?_erase_self id
  · next h => exact lock.holders.get?_erase_of_ne h

theorem held_record (held : HeldCounts) :
    (lock.record id held).held other = if other = id then held else lock.held other := by
  rw [Lock.held, Lock.held, heldBy_record]
  split <;> rfl

theorem held_forget :
    (lock.forget id).held other = if other = id then {} else lock.held other := by
  rw [Lock.held, Lock.held, heldBy_forget]
  split <;> rfl

theorem held_record_self (held : HeldCounts) : (lock.record id held).held id = held :=
  (held_record lock id id held).trans (if_pos rfl)

theorem held_forget_self : (lock.forget id).held id = {} :=
  (held_forget lock id id).trans (if_pos rfl)

theorem heldBy_grantWrite :
    (lock.grantWrite id).heldBy other =
      if other = id then some { lock.held id with writes := (lock.held id).writes + 1 }
      else lock.heldBy other :=
  heldBy_record lock id other _

theorem held_admitReader :
    (lock.admitReader id).held other = if other = id then { reads := 1 } else lock.held other :=
  held_record lock id other { reads := 1 }

variable {lock id other} {held : HeldCounts}

theorem held_record_of_ne (h : other ≠ id) (held : HeldCounts) :
    (lock.record id held).held other = lock.held other :=
  (held_record lock id other held).trans (if_neg h)

theorem held_forget_of_ne (h : other ≠ id) : (lock.forget id).held other = lock.held other :=
  (held_forget lock id other).trans (if_neg h)

theorem of_heldBy_record {new : HeldCounts} (h : (lock.record id new).heldBy other = some held) :
    other = id ∧ held = new ∨ other ≠ id ∧ lock.heldBy other = some held := by
  rw [heldBy_record] at h
  split at h
  · next he => exact Or.inl ⟨he, (Option.some.inj h).symm⟩
  · next he => exact Or.inr ⟨he, h⟩

theorem of_heldBy_forget (h : (lock.forget id).heldBy other = some held) :
    other ≠ id ∧ lock.heldBy other = some held := by
  rw [heldBy_forget] at h
  split at h
  · cases h
  · next he => exact ⟨he, h⟩

theorem held_eq (h : lock.heldBy id = some held) : lock.held id = held := by
  rw [Lock.held, h, Option.getD_some]

theorem held_eq_of_none (h : lock.heldBy id = none) : lock.held id = {} := by
  rw [Lock.held, h, Option.getD_none]

theorem writes_held_eq_zero (h : ∀ held, lock.heldBy id = some held → held.writes = 0) :
    (lock.held id).writes = 0 := by
  cases hi : lock.heldBy id with
  | none => rw [held_eq_of_none hi]
  | some held =>
    rw [held_eq hi]
    exact h held hi

theorem heldBy_of_pos {mode : Mode} (h : 0 < (lock.held id).count mode) :
    lock.heldBy id = some (lock.held id) := by
  rw [Lock.held] at h ⊢
  cases hb : lock.heldBy id with
  | none => cases mode <;> simp [hb, HeldCounts.count] at h
  | some held => rfl

theorem size_record (h : lock.heldBy id = some held) (new : HeldCounts) :
    (lock.record id new).holders.size = lock.holders.size := by
  have hs := lock.holders.size_insert id new
  rwa [show lock.holders.get? id = some held from h, Option.isSome_some, if_pos rfl] at hs

theorem size_record_new (h : lock.heldBy id = none) (new : HeldCounts) :
    (lock.record id new).holders.size = lock.holders.size + 1 := by
  have hs := lock.holders.size_insert id new
  rwa [show lock.holders.get? id = none from h, Option.isSome_none, if_neg Bool.false_ne_true] at hs

theorem size_forget (h : lock.heldBy id = some held) :
    (lock.forget id).holders.size + 1 = lock.holders.size := by
  have hs := lock.holders.size_erase id
  rw [show lock.holders.get? id = some held from h, Option.isSome_some, if_pos rfl] at hs
  have hp := Registry.size_pos (show (lock.holders.get? id).isSome by
    rw [show lock.holders.get? id = some held from h]; rfl)
  change (lock.holders.erase id).size + 1 = lock.holders.size
  omega

end Lock

end BlockingSync
