namespace BlockingSync

structure HeldCounts where
  reads : Nat := 0
  writes : Nat := 0
deriving DecidableEq, Repr, Inhabited

/-- Maps each holder of a lock to the numbers of read and write locks that it holds. -/
structure Registry (ι : Type) where
  entries : List (ι × HeldCounts) := []
  nodup : (entries.map Prod.fst).Nodup := by simp
deriving DecidableEq, Repr

namespace Registry

variable {ι : Type}

def empty : Registry ι := {}

instance : Inhabited (Registry ι) := ⟨empty⟩

def ids (r : Registry ι) : List ι := r.entries.map Prod.fst

def size (r : Registry ι) : Nat := r.entries.length

def isEmpty (r : Registry ι) : Bool := r.entries.isEmpty

@[simp] theorem size_empty : (empty : Registry ι).size = 0 := rfl

theorem length_ids (r : Registry ι) : r.ids.length = r.size := by simp [ids, size]

variable [DecidableEq ι]

def get? (r : Registry ι) (id : ι) : Option HeldCounts :=
  (r.entries.find? (·.1 = id)).map Prod.snd

def put (id : ι) (held : HeldCounts) : List (ι × HeldCounts) → List (ι × HeldCounts)
  | [] => [(id, held)]
  | e :: rest => if e.1 = id then (id, held) :: rest else e :: put id held rest

theorem map_fst_put (id : ι) (held : HeldCounts) (l : List (ι × HeldCounts)) :
    (put id held l).map Prod.fst =
      if id ∈ l.map Prod.fst then l.map Prod.fst else l.map Prod.fst ++ [id] := by
  induction l with
  | nil => simp [put]
  | cons e rest ih =>
    by_cases h : e.1 = id
    · simp [put, h]
    · have h' : ¬ id = e.1 := fun he => h he.symm
      simp only [put, h, if_false, List.map_cons, ih, List.mem_cons, h', false_or]
      split <;> simp

def insert (r : Registry ι) (id : ι) (held : HeldCounts) : Registry ι where
  entries := put id held r.entries
  nodup := by
    rw [map_fst_put]
    split
    · exact r.nodup
    · rename_i h
      refine List.nodup_append.mpr ⟨r.nodup, by simp, ?_⟩
      intro a ha b hb he
      rw [List.mem_singleton] at hb
      exact h (hb ▸ he ▸ ha)

def erase (r : Registry ι) (id : ι) : Registry ι where
  entries := r.entries.filter (·.1 ≠ id)
  nodup := (List.Sublist.map Prod.fst List.filter_sublist).nodup r.nodup

@[simp] theorem get?_empty (id : ι) : (empty : Registry ι).get? id = none := rfl

theorem find?_put_self (id : ι) (held : HeldCounts) (l : List (ι × HeldCounts)) :
    (put id held l).find? (·.1 = id) = some (id, held) := by
  induction l with
  | nil => simp [put]
  | cons e rest ih => by_cases h : e.1 = id <;> simp [put, h, ih]

theorem find?_put_of_ne {id other : ι} (h : other ≠ id) (held : HeldCounts)
    (l : List (ι × HeldCounts)) :
    (put id held l).find? (·.1 = other) = l.find? (·.1 = other) := by
  induction l with
  | nil => simp [put, h.symm]
  | cons e rest ih =>
    by_cases he : e.1 = id
    · simp [put, he, h.symm]
    · by_cases ho : e.1 = other <;> simp [put, he, ho, ih, h]

@[simp] theorem get?_insert_self (r : Registry ι) (id : ι) (held : HeldCounts) :
    (r.insert id held).get? id = some held := by
  simp [get?, insert, find?_put_self]

theorem get?_insert_of_ne (r : Registry ι) {id other : ι} (h : other ≠ id) (held : HeldCounts) :
    (r.insert id held).get? other = r.get? other := by
  simp only [get?, insert, find?_put_of_ne h]

@[simp] theorem get?_erase_self (r : Registry ι) (id : ι) : (r.erase id).get? id = none := by
  simp [get?, erase, List.find?_eq_none]

theorem find?_filter_of_ne {id other : ι} (h : other ≠ id) (l : List (ι × HeldCounts)) :
    (l.filter (·.1 ≠ id)).find? (·.1 = other) = l.find? (·.1 = other) := by
  induction l with
  | nil => rfl
  | cons e rest ih =>
    by_cases he : e.1 = id
    · simpa [he, h.symm] using ih
    · by_cases ho : e.1 = other <;> simp_all

theorem get?_erase_of_ne (r : Registry ι) {id other : ι} (h : other ≠ id) :
    (r.erase id).get? other = r.get? other := by
  simp only [get?, erase, find?_filter_of_ne h]

theorem mem_ids_iff (r : Registry ι) (id : ι) : id ∈ r.ids ↔ (r.get? id).isSome := by
  simp [ids, get?, List.find?_isSome]

theorem size_insert (r : Registry ι) (id : ι) (held : HeldCounts) :
    (r.insert id held).size = if (r.get? id).isSome then r.size else r.size + 1 := by
  rw [← length_ids, ← length_ids, ids, insert, map_fst_put, ← ids]
  simp only [mem_ids_iff]
  split <;> simp

theorem ids_erase (r : Registry ι) (id : ι) : (r.erase id).ids = r.ids.erase id := by
  have h := r.nodup.erase_eq_filter id
  simp only [ids, erase, h, List.filter_map]
  congr 2
  funext e
  by_cases he : e.1 = id <;> simp [bne, he]

theorem size_erase (r : Registry ι) (id : ι) :
    (r.erase id).size = if (r.get? id).isSome then r.size - 1 else r.size := by
  rw [← length_ids, ← length_ids, ids_erase, List.length_erase]
  simp [← mem_ids_iff]

end Registry

end BlockingSync
