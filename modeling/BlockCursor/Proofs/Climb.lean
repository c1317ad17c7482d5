import BlockCursor.Workspace.Basic
import Mathlib.Data.List.Nodup
import Mathlib.Data.List.Perm.Subperm
import Mathlib.Logic.Relation
import Mathlib.Order.WellFounded

/-!
# Going up

A map `up` that leads from a block to at most one other block is followed until it leads no
further.  `climb` does so with a bound on the number of steps; this file says when the bound does
no harm, so that nothing after it has to look at the bound again.

* `Rises up b a` — going up from `b` leads to `a`, in any number of steps.
* `Grounded up` — going up ends, wherever it starts.
* **`climb_eq_iff`** — if going up ends and stays among the first `n` numbers, then `climb up n b`
  is the one place above `b` from which `up` leads no further.
* `Grounded.attach` — one more step keeps going up finite, if it does not close a circle.
-/

namespace BlockCursor

open Workspace (climb)

/-- Going up from one block leads to another, in any number of steps. -/
abbrev Rises (up : BlockId → Option BlockId) : BlockId → BlockId → Prop :=
  Relation.ReflTransGen fun x y => up x = some y

/-- Going up ends, wherever it starts. -/
def Grounded (up : BlockId → Option BlockId) : Prop :=
  WellFounded fun a b => up b = some a

section Rises

variable {up : BlockId → Option BlockId} {a b t : BlockId}

/-- Where `up` leads no further nothing else is above. -/
lemma Rises.eq_of_top (h : Rises up b a) (hb : up b = none) : a = b := by
  rcases h.cases_head with rfl | ⟨c, hc, -⟩
  · rfl
  · rw [hb] at hc
    cases hc

/-- All that is above a block, itself apart, is above the next block up. -/
lemma Rises.of_step (h : Rises up b t) (hb : up b = some a) (hne : t ≠ b) : Rises up a t := by
  rcases h.cases_head with rfl | ⟨c, hc, hct⟩
  · exact absurd rfl hne
  · rw [hb] at hc
    cases hc
    exact hct

/-- There is only one way up, so of two places above a block one is above the other. -/
lemma Rises.total {x y : BlockId} (hx : Rises up b x) (hy : Rises up b y) :
    Rises up x y ∨ Rises up y x := by
  refine Relation.ReflTransGen.total_of_right_unique ?_ hx hy
  intro u v w huv huw
  exact Option.some.inj (huv.symm.trans huw)

/-- There is at most one place above a block where going up ends. -/
lemma Rises.top_unique {s : BlockId} (ht : Rises up b t) (htop : up t = none)
    (hs : Rises up b s) (hstop : up s = none) : s = t := by
  rcases ht.total hs with h | h
  · exact h.eq_of_top htop
  · exact (h.eq_of_top hstop).symm

end Rises

section Grounded

variable {up : BlockId → Option BlockId} {a b t : BlockId}

/-- Nothing is above itself. -/
lemma Grounded.irrefl (h : Grounded up) (b : BlockId) :
    ¬ Relation.TransGen (fun x y => up x = some y) b b := by
  intro hbb
  have hwf : WellFounded (Relation.TransGen fun x y => up y = some x) := h.transGen
  exact hwf.irrefl.irrefl b (Relation.transGen_swap.mp hbb)

/-- No block is above the next block up from it. -/
lemma Grounded.not_rises (h : Grounded up) (hb : up b = some a) : ¬ Rises up a b :=
  fun hab => h.irrefl b (Relation.TransGen.head' hb hab)

/-- From every block there is a place above it where going up ends. -/
lemma Grounded.exists_top (h : Grounded up) (b : BlockId) : ∃ t, Rises up b t ∧ up t = none := by
  induction b using h.induction with
  | _ b ih =>
      cases hb : up b with
      | none => exact ⟨b, .refl, hb⟩
      | some a =>
          obtain ⟨t, hat, ht⟩ := ih a hb
          exact ⟨t, hat.head hb, ht⟩

/-- Fewer steps keep going up finite. -/
lemma Grounded.mono {up' : BlockId → Option BlockId} (h : Grounded up)
    (hsub : ∀ b a, up' b = some a → up b = some a) : Grounded up' :=
  Subrelation.wf (fun {a b} hba => hsub b a hba) h

/-- **One more step keeps going up finite**, if it starts where going up used to end and does not
lead to a place below its own start. -/
theorem Grounded.attach {up' : BlockId → Option BlockId} (h : Grounded up)
    (hba : up' b = some a) (hother : ∀ x, x ≠ b → up' x = up x) (hab : ¬ Rises up a b) :
    Grounded up' := by
  -- what does not lead to `b` goes up as it did
  have haway : ∀ x, ¬ Rises up x b → Acc (fun y x => up' x = some y) x := by
    intro x
    induction x using h.induction with
    | _ x ih =>
        intro hx
        have hne : x ≠ b := fun e => hx (e ▸ .refl)
        refine ⟨x, fun y hy => ?_⟩
        rw [hother x hne] at hy
        exact ih y hy fun hyb => hx (hyb.head hy)
  have hb : Acc (fun y x => up' x = some y) b := by
    refine ⟨b, fun y hy => ?_⟩
    rw [hba] at hy
    cases hy
    exact haway a hab
  refine ⟨fun x => ?_⟩
  induction x using h.induction with
  | _ x ih =>
      by_cases hne : x = b
      · exact hne ▸ hb
      · refine ⟨x, fun y hy => ih y ?_⟩
        rwa [hother x hne] at hy

end Grounded

/-! ## Bounded climbing -/

/-- There are only `n` blocks with numbers below `n`. -/
lemma length_le_of_index_lt {l : List BlockId} {n : ℕ} (hnodup : l.Nodup)
    (hlt : ∀ x ∈ l, x.index < n) : l.length ≤ n := by
  have hinj : (l.map BlockId.index).Nodup :=
    hnodup.map fun x y hxy => by cases x; cases y; cases hxy; rfl
  have hsub : l.map BlockId.index ⊆ List.range n := by
    intro i hi
    obtain ⟨x, hx, rfl⟩ := List.mem_map.mp hi
    exact List.mem_range.mpr (hlt x hx)
  have hle := (List.subperm_of_subset hinj hsub).length_le
  simpa only [List.length_map, List.length_range] using hle

section Climb

variable {up : BlockId → Option BlockId}

/-- Wherever a climb stops, it stops above its start. -/
lemma rises_climb (up : BlockId → Option BlockId) : ∀ (n : ℕ) (b : BlockId),
    Rises up b (climb up n b)
  | 0, _ => .refl
  | n + 1, b => by
      rw [climb]
      cases hb : up b with
      | none => exact .refl
      | some a => exact (rises_climb up n a).head hb

/-- A climb of `n` steps that could go on has passed `n + 1` different blocks that `up` leads
away from. -/
lemma exists_path_of_climb (h : Grounded up) : ∀ (n : ℕ) (b : BlockId),
    up (climb up n b) ≠ none →
      ∃ l : List BlockId, l.length = n + 1 ∧ l.Nodup ∧ ∀ x ∈ l, Rises up b x ∧ up x ≠ none
  | 0, b, hb => ⟨[b], rfl, List.nodup_singleton b, by
      simpa using ⟨Relation.ReflTransGen.refl, hb⟩⟩
  | n + 1, b, hb => by
      rw [climb] at hb
      cases hup : up b with
      | none =>
          rw [hup] at hb
          exact absurd hup hb
      | some a =>
          rw [hup] at hb
          obtain ⟨l, hlen, hnodup, hl⟩ := exists_path_of_climb h n a hb
          have hbl : b ∉ l := fun hmem => h.not_rises hup (hl b hmem).1
          refine ⟨b :: l, by simp [hlen], List.nodup_cons.mpr ⟨hbl, hnodup⟩, ?_⟩
          intro x hx
          rcases List.mem_cons.mp hx with rfl | hx
          · exact ⟨.refl, by simp [hup]⟩
          · exact ⟨(hl x hx).1.head hup, (hl x hx).2⟩

/-- **A climb with enough steps ends**: `n` steps are enough if only the first `n` numbers have
anything above them. -/
theorem up_climb (h : Grounded up) {n : ℕ} (hbound : ∀ x, up x ≠ none → x.index < n)
    (b : BlockId) : up (climb up n b) = none := by
  by_contra hne
  obtain ⟨l, hlen, hnodup, hl⟩ := exists_path_of_climb h n b hne
  have hle := length_le_of_index_lt hnodup fun x hx => hbound x (hl x hx).2
  omega

/-- **What a climb arrives at**: the one place above its start from which `up` leads no
further. -/
theorem climb_eq_iff (h : Grounded up) {n : ℕ} (hbound : ∀ x, up x ≠ none → x.index < n)
    {b t : BlockId} : climb up n b = t ↔ Rises up b t ∧ up t = none := by
  have hb : up (climb up n b) = none := up_climb h hbound b
  constructor
  · rintro rfl
    exact ⟨rises_climb up n b, hb⟩
  · rintro ⟨hbt, ht⟩
    exact hbt.top_unique ht (rises_climb up n b) hb

end Climb

end BlockCursor
