import BlockCursor.Proofs.Navigation.Objects
import BlockCursor.Proofs.Navigation.Moves
import Mathlib.Data.List.Rotate
import Mathlib.Tactic.Ring

/-!
# The ring of stacks

The stacks of a workspace are in a row, and a step from its last leads to its first and the other
way round.  One step adds a fixed number to the place, 1 on the way forward and one less than the
number of stacks on the way back, and takes the remainder; so many steps add a multiple of it.

* `Node.InStack` — the block of a node is in the tree of the stack at a place.
* `stepsBeside?` — many steps, each from where the one before has led.
* **`stackBeside?_of_inStack`** — one step; **`stepsBeside?_of_inStack`** — many.
* `Workspace.RingFrom`, **`Reachable.stacks_form_ring`** — forward, back, all the way around, and
  there and back, from any live node but a point.
-/

namespace BlockCursor

open Workspace

/-- The block of the node is in the tree of the stack at the place `i`. -/
def Node.InStack (ws : Workspace) (n : Node) (i : ℕ) : Prop :=
  ∃ t, ws.tops[i]? = some t ∧ (n.block? ws).bind ws.root? = some t

/-- Where `m` steps around the ring lead, each of them from where the one before has led. -/
def stepsBeside? (ws : Workspace) (forward : Bool) :
    (m : ℕ) → Node → Except CursorError (Option Node)
  | 0, n => .ok (some n)
  | m + 1, n => do
    match ← stackBeside? ws ws.tops n forward with
    | none => return none
    | some n' => stepsBeside? ws forward m n'

variable {ws : Workspace} {ring : List BlockId} {n : Node} {b t : BlockId} {i k : ℕ}

/-! ## Places -/

/-- What one step adds to a place on a ring of `k` stacks. -/
def ringStride (k : ℕ) (forward : Bool) : ℕ := if forward then 1 else k - 1

lemma ringBeside_eq (hi : i < ring.length) (forward : Bool) : ringBeside ring i forward =
    ring[(i + ringStride ring.length forward) % ring.length]? := by
  cases forward with
  | true => rfl
  | false =>
      have hstride : i + ring.length - 1 = i + (ring.length - 1) := by omega
      simp [ringBeside, ringStride, hstride]

/-- Steps back count down, as integers do. -/
lemma back_mod (i m : ℕ) (hk : 0 < k) :
    (i + m * ringStride k false) % k = (((i : ℤ) - m) % k).toNat := by
  have hcount : ((i + m * (k - 1) : ℕ) : ℤ) = (i : ℤ) - m + m * k := by
    rw [Nat.cast_add, Nat.cast_mul, Nat.cast_sub hk, Nat.cast_one]
    ring
  have hmod : (((i + m * (k - 1)) % k : ℕ) : ℤ) = ((i : ℤ) - m) % k := by
    rw [Int.natCast_mod, hcount, Int.add_mul_emod_self_right]
  rw [← hmod, Int.toNat_natCast]
  rfl

/-! ## One step -/

/-- In a row without repeats a block is found at the one place where it stands. -/
lemma idxOf?_of_nodup (hnodup : ring.Nodup) (ht : ring[i]? = some t) : ring.idxOf? t = some i := by
  obtain ⟨hi, rfl⟩ := List.getElem?_eq_some_iff.mp ht
  refine List.idxOf?_eq_some_iff.mpr ⟨hi, rfl, fun j hj hsame => ?_⟩
  have := hnodup.getElem_inj_iff.mp hsame
  omega

lemma Node.InStack.lt_length (hn : n.InStack ws i) : i < ws.tops.length := by
  obtain ⟨t, ht, -⟩ := hn
  exact (List.getElem?_eq_some_iff.mp ht).1

namespace Workspace.Forest

variable (h : ws.Forest)
include h

/-- A live node other than a point is in one stack. -/
lemma existsUnique_inStack (hn : n.kind ≠ .workspace) (hlive : n.isLive ws = true) :
    ∃! i, n.InStack ws i := by
  obtain ⟨b, hb, hblive⟩ := h.exists_block hn hlive
  obtain ⟨t, ht⟩ := h.exists_root hblive
  have hroot : (n.block? ws).bind ws.root? = some t := by rw [hb, Option.bind_some, ht]
  obtain ⟨i, hi⟩ := List.mem_iff_getElem?.mp (h.root_mem_tops ht)
  refine ⟨i, ⟨t, hi, hroot⟩, ?_⟩
  rintro j ⟨u, hj, hu⟩
  obtain rfl : t = u := Option.some.inj (hroot.symm.trans hu)
  have hplace := (idxOf?_of_nodup h.tops_nodup hj).symm.trans (idxOf?_of_nodup h.tops_nodup hi)
  exact Option.some.inj hplace

lemma inStack_of_top (ht : ws.tops[i]? = some t) : (Node.stack t).InStack ws i := by
  have hmem := List.mem_of_getElem? ht
  have hblock : (Node.stack t).block? ws = some t := if_pos (h.hasBlock_of_mem_tops hmem)
  exact ⟨t, ht, by rw [hblock, Option.bind_some, h.root_of_mem_tops hmem]⟩

/-- **One step** leads to the stack at the next place, forward or back. -/
theorem stackBeside?_of_inStack (hn : n.InStack ws i) (forward : Bool) :
    ∃ u, ws.tops[(i + ringStride ws.tops.length forward) % ws.tops.length]? = some u ∧
      stackBeside? ws ws.tops n forward = .ok (some (.stack u)) := by
  have hi := hn.lt_length
  obtain ⟨t, ht, hroot⟩ := hn
  have hlt : (i + ringStride ws.tops.length forward) % ws.tops.length < ws.tops.length :=
    Nat.mod_lt _ (by omega)
  refine ⟨_, List.getElem?_eq_getElem hlt, ?_⟩
  simp only [stackBeside?, hroot, idxOf?_of_nodup h.tops_nodup ht, ringBeside_eq hi]
  rw [List.getElem?_eq_getElem hlt, Option.map_some]

/-- **Many steps** lead as many places on. -/
theorem stepsBeside?_of_inStack (forward : Bool) (m : ℕ) (hn : n.InStack ws i) :
    ∃ u, ws.tops[(i + (m + 1) * ringStride ws.tops.length forward) % ws.tops.length]? = some u ∧
      stepsBeside? ws forward (m + 1) n = .ok (some (.stack u)) := by
  induction m generalizing n i with
  | zero =>
      obtain ⟨u, hu, hstep⟩ := h.stackBeside?_of_inStack hn forward
      exact ⟨u, by simpa using hu, by rw [stepsBeside?, hstep]; rfl⟩
  | succ m ih =>
      obtain ⟨u, hu, hstep⟩ := h.stackBeside?_of_inStack hn forward
      obtain ⟨v, hv, hsteps⟩ := ih (h.inStack_of_top hu)
      refine ⟨v, ?_, by rw [stepsBeside?, hstep]; exact hsteps⟩
      rw [Nat.mod_add_mod] at hv
      rw [← hv]
      congr 2
      ring

end Workspace.Forest

/-! ## Around the ring -/

/-- **The ring as it is from a node** in the stack at the place `i`. -/
structure Workspace.RingFrom (ws : Workspace) (n : Node) (i : ℕ) : Prop where
  /-- `m` steps forward lead `m` places on. -/
  forward : ∀ m, 1 ≤ m → ∃ t, ws.tops[(i + m) % ws.tops.length]? = some t ∧
    stepsBeside? ws true m n = .ok (some (.stack t))
  /-- `m` steps back lead `m` places back. -/
  back : ∀ m : ℕ, 1 ≤ m → ∃ t, ws.tops[(((i : ℤ) - m) % ws.tops.length).toNat]? = some t ∧
    stepsBeside? ws false m n = .ok (some (.stack t))
  /-- As many steps forward as there are stacks visit each of them once, and the stack of the node
  last. -/
  around : ∃ visited : List BlockId, visited.Perm ws.tops ∧ visited.Nodup ∧
    visited.getLast? = ws.tops[i]? ∧
    (List.range ws.tops.length).map (fun m => stepsBeside? ws true (m + 1) n) =
      visited.map fun t => .ok (some (.stack t))
  /-- A step one way and a step the other way lead to the stack of the node. -/
  there_and_back : ∀ forward, ∃ t u, ws.tops[i]? = some t ∧
    stackBeside? ws ws.tops n forward = .ok (some (.stack u)) ∧
    stackBeside? ws ws.tops (.stack u) (!forward) = .ok (some (.stack t))

namespace Workspace

/-- All places but the last are those after a place, and then the place itself. -/
lemma getLast?_rotate (hi : i < ring.length) : (ring.rotate (i + 1)).getLast? = ring[i]? := by
  have hlast : ring.length - 1 + (i + 1) = i + ring.length := by omega
  rw [List.getLast?_eq_getElem?, List.length_rotate, List.getElem?_rotate (by omega), hlast,
    Nat.add_mod_right, Nat.mod_eq_of_lt hi]

lemma Forest.ringFrom (h : ws.Forest) (hn : n.InStack ws i) : ws.RingFrom n i := by
  have hi := hn.lt_length
  refine ⟨fun m hm => ?forward, fun m hm => ?back, ⟨ws.tops.rotate (i + 1), ?around⟩,
    fun forward => ?there_and_back⟩
  case forward =>
    obtain ⟨m, rfl⟩ := Nat.exists_eq_add_of_le' hm
    simpa [ringStride] using h.stepsBeside?_of_inStack true m hn
  case back =>
    obtain ⟨m, rfl⟩ := Nat.exists_eq_add_of_le' hm
    rw [← back_mod i (m + 1) (by omega)]
    exact h.stepsBeside?_of_inStack false m hn
  case around =>
    refine ⟨List.rotate_perm _ _, List.nodup_rotate.mpr h.tops_nodup, getLast?_rotate hi, ?_⟩
    refine List.ext_getElem (by simp) fun m hm hm' => ?_
    simp only [List.length_map, List.length_range] at hm
    obtain ⟨u, hu, hsteps⟩ := h.stepsBeside?_of_inStack true m hn
    have hplace : m + (i + 1) = i + (m + 1) * ringStride ws.tops.length true := by
      simp [ringStride]
      omega
    obtain ⟨hlt, hu⟩ := List.getElem?_eq_some_iff.mp hu
    simp only [List.getElem_map, List.getElem_range, List.getElem_rotate, hplace, hu, hsteps]
  case there_and_back =>
    obtain ⟨u, hu, hstep⟩ := h.stackBeside?_of_inStack hn forward
    obtain ⟨v, hv, hback⟩ := h.stackBeside?_of_inStack (h.inStack_of_top hu) (!forward)
    have hround : ((i + ringStride ws.tops.length forward) % ws.tops.length +
        ringStride ws.tops.length (!forward)) % ws.tops.length = i := by
      have hturn : i + ringStride ws.tops.length forward + ringStride ws.tops.length (!forward) =
          i + ws.tops.length := by
        cases forward <;> simp [ringStride] <;> omega
      rw [Nat.mod_add_mod, hturn, Nat.add_mod_right, Nat.mod_eq_of_lt hi]
    rw [hround] at hv
    exact ⟨v, u, hv, hstep, hback⟩

/-- **Stacks form a ring.**  A live node other than a point is in one stack, and from there the
stacks follow each other around the ring, one step for each of them, both ways. -/
theorem Reachable.stacks_form_ring (h : ws.Reachable) (hn : n.kind ≠ .workspace)
    (hlive : n.isLive ws = true) :
    (∃! i, n.InStack ws i) ∧ ∀ i, n.InStack ws i → ws.RingFrom n i :=
  ⟨h.forest.existsUnique_inStack hn hlive, fun _ hi => h.forest.ringFrom hi⟩

/-- Three stacks, the second of which holds a block with a field. -/
def threeStacksEdits : List Edit :=
  [.insert ⟨"first", false, true, false, []⟩,
    .insert ⟨"second", false, true, false, [⟨"value", .value, []⟩]⟩,
    .insert ⟨"third", false, true, false, []⟩,
    .insert ⟨"plugged", false, false, true, [⟨"row", .dummy, [⟨"name", true⟩]⟩]⟩,
    .connect ⟨2⟩ ⟨4⟩]

/-- From the field of the plugged block, five steps back lead to the third stack, and three steps
forward to its own. -/
theorem ring_of_plugged_field :
    stepsBeside? (applyAll empty threeStacksEdits) false 5 (.field ⟨0⟩) =
      .ok (some (.stack ⟨2⟩)) ∧
    stepsBeside? (applyAll empty threeStacksEdits) true 3 (.field ⟨0⟩) =
      .ok (some (.stack ⟨1⟩)) := by
  have hreach : (applyAll empty threeStacksEdits).Reachable := ⟨threeStacksEdits, rfl⟩
  obtain ⟨-, hring⟩ := hreach.stacks_form_ring (n := .field ⟨0⟩) (by decide) (by decide)
  have hfrom := hring 1 ⟨⟨1⟩, by decide, by decide⟩
  obtain ⟨t, ht, hback⟩ := hfrom.back 5 (by decide)
  obtain ⟨u, hu, hforward⟩ := hfrom.forward 3 (by decide)
  cases (show some (⟨2⟩ : BlockId) = some t from ht)
  cases (show some (⟨1⟩ : BlockId) = some u from hu)
  exact ⟨hback, hforward⟩

end Workspace

end BlockCursor
