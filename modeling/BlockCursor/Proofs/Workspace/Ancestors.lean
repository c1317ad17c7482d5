import BlockCursor.Proofs.Workspace.Forest

/-!
# Ancestors

The blocks above a block, nearest first, and how many there are.  In a forest each step up leaves
one ancestor less, which is what counts the steps of whatever goes up.

* `Workspace.ancestors` — the blocks passed on the way up, with a bound on their number.
* **`Forest.mem_ancestors_iff`** — they are all the blocks above, each listed once
  (`Forest.nodup_ancestors`); the bound is always enough.
* `Workspace.depth` — how many there are; it goes down by one with each step up, and there are
  fewer than slots for blocks (`Forest.depth_lt_of_hasBlock`).
-/

namespace BlockCursor

namespace Workspace

/-- The blocks passed on the way up from a block, at most `bound` of them. -/
def wayUp (up : BlockId → Option BlockId) : (bound : ℕ) → BlockId → List BlockId
  | 0, _ => []
  | bound + 1, b =>
    match up b with
    | none => []
    | some above => above :: wayUp up bound above

/-- The ancestors of a block, nearest first.  There are fewer of them than slots for blocks. -/
def ancestors (ws : Workspace) (b : BlockId) : List BlockId :=
  wayUp ws.parent? ws.blocks.size b

/-- How many ancestors a block has. -/
def depth (ws : Workspace) (b : BlockId) : ℕ := (ws.ancestors b).length

variable {ws : Workspace} {up : BlockId → Option BlockId} {a b : BlockId} {n : ℕ}

lemma wayUp_of_none (hb : up b = none) : wayUp up n b = [] := by
  cases n with
  | zero => rfl
  | succ n => simp only [wayUp, hb]

lemma wayUp_of_some (hb : up b = some a) : wayUp up (n + 1) b = a :: wayUp up n a := by
  simp only [wayUp, hb]

/-- One more block may be passed from where a climb stops. -/
lemma wayUp_succ (up : BlockId → Option BlockId) : ∀ (n : ℕ) (b : BlockId),
    wayUp up (n + 1) b = wayUp up n b ++ (up (climb up n b)).toList
  | 0, b => by cases hb : up b <;> simp [wayUp, climb, hb]
  | n + 1, b => by
      cases hb : up b with
      | none => simp [wayUp_of_none hb, climb, hb]
      | some a =>
          rw [wayUp_of_some hb, wayUp_succ up n a, wayUp_of_some hb, climb]
          simp only [hb, List.cons_append]

/-- If the bound is enough, the way up goes through the next block up and on from there. -/
lemma wayUp_of_step (hgrounded : Grounded up) (hbound : ∀ x, up x ≠ none → x.index < n)
    (hb : up b = some a) : wayUp up n b = a :: wayUp up n a := by
  have hend := up_climb hgrounded hbound b
  have hmore := wayUp_succ up n b
  rw [hend, Option.toList_none, List.append_nil, wayUp_of_some hb] at hmore
  exact hmore.symm

lemma ancestors_of_top (hb : ws.parent? b = none) : ws.ancestors b = [] :=
  wayUp_of_none hb

namespace Forest

variable (h : ws.Forest)
include h

/-- **Above a block** are its parent and what is above that. -/
theorem ancestors_of_parent (hb : ws.parent? b = some a) :
    ws.ancestors b = a :: ws.ancestors a :=
  wayUp_of_step h.grounded (fun _ => h.index_lt_of_parent) hb

/-- **The ancestors of a block** are the blocks above it. -/
theorem mem_ancestors_iff :
    a ∈ ws.ancestors b ↔ Relation.TransGen (fun x y => ws.parent? x = some y) b a := by
  induction b using h.grounded.induction with
  | _ b ih =>
      rw [Relation.TransGen.head'_iff]
      cases hb : ws.parent? b with
      | none => simp [ancestors_of_top hb]
      | some p =>
          rw [h.ancestors_of_parent hb, List.mem_cons, ih p hb,
            ← Relation.reflTransGen_iff_eq_or_transGen]
          simp

/-- No ancestor is listed twice. -/
lemma nodup_ancestors (b : BlockId) : (ws.ancestors b).Nodup := by
  induction b using h.grounded.induction with
  | _ b ih =>
      cases hb : ws.parent? b with
      | none =>
          rw [ancestors_of_top hb]
          exact List.nodup_nil
      | some p =>
          rw [h.ancestors_of_parent hb, List.nodup_cons, h.mem_ancestors_iff]
          exact ⟨h.grounded.irrefl p, ih p hb⟩

/-- What is at or above a block is the block or one of its ancestors. -/
lemma rises_iff_mem_ancestors : Rises ws.parent? b a ↔ a = b ∨ a ∈ ws.ancestors b := by
  rw [h.mem_ancestors_iff]
  exact Relation.reflTransGen_iff_eq_or_transGen

lemma depth_of_parent (hb : ws.parent? b = some a) : ws.depth b = ws.depth a + 1 := by
  rw [depth, h.ancestors_of_parent hb, List.length_cons, depth]

/-- A live block and its ancestors have slots of their own. -/
lemma depth_lt_of_hasBlock (hb : ws.hasBlock b = true) : ws.depth b < ws.blocks.size := by
  have hself : b ∉ ws.ancestors b := fun hmem => h.grounded.irrefl b (h.mem_ancestors_iff.mp hmem)
  have hlive : ∀ x ∈ b :: ws.ancestors b, x.index < ws.blocks.size := by
    intro x hx
    have hrises := h.rises_iff_mem_ancestors.mpr (List.mem_cons.mp hx)
    exact index_lt_of_hasBlock (h.hasBlock_of_rises hb hrises)
  have hnodup := List.nodup_cons.mpr ⟨hself, h.nodup_ancestors b⟩
  have hle := length_le_of_index_lt hnodup hlive
  rw [List.length_cons] at hle
  rw [depth]
  omega

/-- Going up makes the way up no longer. -/
lemma depth_le_of_rises (hba : Rises ws.parent? b a) : ws.depth a ≤ ws.depth b := by
  induction hba with
  | refl => exact le_rfl
  | tail _ hstep ih =>
      rw [h.depth_of_parent hstep] at ih
      omega

end Forest

end Workspace

end BlockCursor
