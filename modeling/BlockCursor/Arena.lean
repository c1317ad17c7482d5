/-!
# Arenas

Objects that are addressed by number live in an `Arena`.  Numbers are given out in order, a removed
object leaves its slot empty, and no slot is ever used twice; so a number that was given out once
means the same object for ever, or nothing any more.

Everything about an arena is said through `get?` and `size`: each operation below has one lemma for
each of the two, and two arenas that agree on both are equal (`Arena.ext_get?`).
-/

namespace BlockCursor

/-- Numbered slots, each holding an object or empty. -/
structure Arena (α : Type) where
  slots : Array (Option α) := #[]
deriving Repr

namespace Arena

variable {α : Type}

/-- The number of slots, which is the next number to be given out. -/
def size (a : Arena α) : Nat :=
  a.slots.size

/-- The object with number `i`, if there is one and it has not been removed. -/
def get? (a : Arena α) (i : Nat) : Option α :=
  a.slots[i]?.join

/-- The arena with one more object, whose number is the old `size`. -/
def push (a : Arena α) (x : α) : Arena α :=
  ⟨a.slots.push (some x)⟩

/-- The arena with the object `i`, if there is one, changed by `f`. -/
def modify (a : Arena α) (i : Nat) (f : α → α) : Arena α :=
  ⟨a.slots.modify i (Option.map f)⟩

/-- The arena with only those objects that pass the test. -/
def keep (a : Arena α) (p : Nat → α → Bool) : Arena α :=
  ⟨a.slots.mapIdx fun i x => x.filter (p i)⟩

/-- The arena with the slot `i` emptied. -/
def clear (a : Arena α) (i : Nat) : Arena α :=
  ⟨a.slots.setIfInBounds i none⟩

/-- What is in the slot `i`, and the arena without it.  There is no answer for a number that was
never given out. -/
def take? (a : Arena α) (i : Nat) : Option (Option α × Arena α) :=
  if i < a.size then some (a.get? i, a.clear i) else none

/-- How many objects there are. -/
def count (a : Arena α) : Nat :=
  a.slots.countP Option.isSome

/-! ## What each operation does -/

@[simp] theorem size_empty : ({} : Arena α).size = 0 := rfl

@[simp] theorem get?_empty (i : Nat) : ({} : Arena α).get? i = none := rfl

@[simp] theorem size_push (a : Arena α) (x : α) : (a.push x).size = a.size + 1 := by
  simp [size, push]

@[simp] theorem get?_push (a : Arena α) (x : α) (i : Nat) :
    (a.push x).get? i = if i = a.size then some x else a.get? i := by
  simp only [get?, push, size, Array.getElem?_push]
  split <;> simp_all

@[simp] theorem size_modify (a : Arena α) (i : Nat) (f : α → α) : (a.modify i f).size = a.size := by
  simp [size, modify]

@[simp] theorem get?_modify (a : Arena α) (i j : Nat) (f : α → α) :
    (a.modify i f).get? j = if i = j then (a.get? j).map f else a.get? j := by
  simp only [get?, modify, Array.getElem?_modify]
  split
  · cases a.slots[j]? with
    | none => rfl
    | some x => cases x <;> rfl
  · rfl

@[simp] theorem size_keep (a : Arena α) (p : Nat → α → Bool) : (a.keep p).size = a.size := by
  simp [size, keep]

@[simp] theorem get?_keep (a : Arena α) (p : Nat → α → Bool) (i : Nat) :
    (a.keep p).get? i = (a.get? i).filter (p i) := by
  simp only [get?, keep, Array.getElem?_mapIdx]
  cases a.slots[i]? with
  | none => rfl
  | some x => rfl

@[simp] theorem size_clear (a : Arena α) (i : Nat) : (a.clear i).size = a.size := by
  simp [size, clear]

@[simp] theorem get?_clear (a : Arena α) (i j : Nat) :
    (a.clear i).get? j = if i = j then none else a.get? j := by
  simp only [get?, clear, Array.getElem?_setIfInBounds]
  split
  · split <;> rfl
  · rfl

theorem take?_of_lt {a : Arena α} {i : Nat} (h : i < a.size) :
    a.take? i = some (a.get? i, a.clear i) :=
  if_pos h

theorem take?_eq_some_iff {a b : Arena α} {i : Nat} {x : Option α} :
    a.take? i = some (x, b) ↔ i < a.size ∧ x = a.get? i ∧ b = a.clear i := by
  simp [take?, eq_comm]

/-- Emptying a slot that holds an object leaves one object less. -/
theorem count_clear_lt {a : Arena α} {i : Nat} {x : α} (h : a.get? i = some x) :
    (a.clear i).count < a.count := by
  have hslot : a.slots[i]? = some (some x) := Option.join_eq_some_iff.1 h
  obtain ⟨hi, hx⟩ := Array.getElem?_eq_some_iff.1 hslot
  have hpos : 0 < a.slots.countP Option.isSome :=
    Array.countP_pos_iff.2 ⟨_, Array.mem_of_getElem? hslot, rfl⟩
  rw [count, clear, Array.setIfInBounds, dif_pos hi, Array.countP_set, hx, count]
  exact Nat.sub_lt hpos Nat.one_pos

/-- Numbers that were never given out have no object. -/
theorem get?_eq_none_of_size_le {a : Arena α} {i : Nat} (h : a.size ≤ i) : a.get? i = none := by
  have : a.slots[i]? = none := Array.getElem?_eq_none_iff.2 h
  simp [get?, this]

/-- An object's number has been given out. -/
theorem lt_size_of_get? {a : Arena α} {i : Nat} {x : α} (h : a.get? i = some x) : i < a.size := by
  refine Nat.lt_of_not_le fun hle => ?_
  rw [get?_eq_none_of_size_le hle] at h
  cases h

/-- An arena is its size and its objects. -/
theorem ext_get? {a b : Arena α} (hsize : a.size = b.size) (hget : ∀ i, a.get? i = b.get? i) :
    a = b := by
  obtain ⟨as⟩ := a
  obtain ⟨bs⟩ := b
  congr 1
  refine Array.ext_getElem? fun i => ?_
  have h := hget i
  simp only [get?, size] at h hsize
  by_cases hi : i < as.size
  · have hj : i < bs.size := hsize ▸ hi
    simp only [Array.getElem?_eq_getElem hi, Array.getElem?_eq_getElem hj, Option.join_some] at h ⊢
    rw [h]
  · rw [Array.getElem?_eq_none_iff.2 (Nat.le_of_not_lt hi),
      Array.getElem?_eq_none_iff.2 (hsize ▸ Nat.le_of_not_lt hi)]

end Arena

end BlockCursor
