import BlockCursor.Proofs.Climb
import BlockCursor.Proofs.Workspace.Linked

/-!
# Forests

A workspace is a forest if its links are in order, no block hangs from itself however far up one
looks, and the list of tops holds just the blocks that hang from nothing.

* `Workspace.Forest` — the invariant that every edit keeps.
* **`Forest.root_iff`** — the root of a live block is the one place above it that hangs from
  nothing; the bound in `Workspace.root?` is always enough.
* `Forest.root_mem_tops` — roots are tops.
* `Forest.congr` — labels play no part.
-/

namespace BlockCursor.Workspace

variable {ws ws' : Workspace} {a b t : BlockId}

/-- Every block hangs from at most one other, never from itself in the end, and the tops are the
blocks that hang from nothing. -/
structure Forest (ws : Workspace) : Prop extends Linked ws where
  grounded : Grounded ws.parent?
  tops_nodup : ws.tops.Nodup
  mem_tops_iff : ∀ b, b ∈ ws.tops ↔ ws.hasBlock b = true ∧ ws.parent? b = none

lemma index_lt_of_hasBlock (h : ws.hasBlock b = true) : b.index < ws.blocks.size := by
  obtain ⟨x, hx⟩ := Option.isSome_iff_exists.mp h
  exact Arena.lt_size_of_get? hx

namespace Forest

variable (h : ws.Forest)
include h

/-- Only live blocks have a parent, so there are fewer steps up than slots for blocks. -/
lemma index_lt_of_parent (hb : ws.parent? b ≠ none) : b.index < ws.blocks.size := by
  obtain ⟨a, ha⟩ := Option.ne_none_iff_exists'.mp hb
  exact index_lt_of_hasBlock (h.hasBlock_of_parent ha).1

lemma hasBlock_of_mem_tops (hb : b ∈ ws.tops) : ws.hasBlock b = true :=
  ((h.mem_tops_iff b).mp hb).1

/-- What is above a live block is live. -/
lemma hasBlock_of_rises (hb : ws.hasBlock b = true) (hba : Rises ws.parent? b a) :
    ws.hasBlock a = true := by
  induction hba with
  | refl => exact hb
  | tail _ hstep _ => exact (h.hasBlock_of_parent hstep).2

/-- What is below a live block is live. -/
lemma hasBlock_of_below (ha : ws.hasBlock a = true) (hba : Rises ws.parent? b a) :
    ws.hasBlock b = true := by
  rcases hba.cases_head with rfl | ⟨p, hp, -⟩
  · exact ha
  · exact (h.hasBlock_of_parent hp).1

/-- **The root of a live block** is the one place above it that hangs from nothing. -/
theorem root_iff :
    ws.root? b = some t ↔ ws.hasBlock b = true ∧ Rises ws.parent? b t ∧ ws.parent? t = none := by
  rw [root?]
  split
  case isTrue hb =>
    rw [Option.some.injEq, climb_eq_iff h.grounded fun x => h.index_lt_of_parent]
    exact ⟨fun ht => ⟨hb, ht⟩, fun ht => ht.2⟩
  case isFalse hb => simp [hb]

lemma exists_root (hb : ws.hasBlock b = true) : ∃ t, ws.root? b = some t := by
  obtain ⟨t, hbt, ht⟩ := h.grounded.exists_top b
  exact ⟨t, h.root_iff.mpr ⟨hb, hbt, ht⟩⟩

lemma root_mem_tops (hb : ws.root? b = some t) : t ∈ ws.tops := by
  obtain ⟨hlive, hbt, ht⟩ := h.root_iff.mp hb
  exact (h.mem_tops_iff t).mpr ⟨h.hasBlock_of_rises hlive hbt, ht⟩

/-- A top is its own root. -/
lemma root_of_mem_tops (hb : b ∈ ws.tops) : ws.root? b = some b := by
  obtain ⟨hlive, hnone⟩ := (h.mem_tops_iff b).mp hb
  exact h.root_iff.mpr ⟨hlive, .refl, hnone⟩

/-- A block has the root of every block above it. -/
lemma root_of_rises (hb : ws.hasBlock b = true) (hba : Rises ws.parent? b a) :
    ws.root? b = ws.root? a := by
  obtain ⟨t, ht⟩ := h.exists_root (h.hasBlock_of_rises hb hba)
  obtain ⟨-, hat, htop⟩ := h.root_iff.mp ht
  rw [ht, h.root_iff]
  exact ⟨hb, hba.trans hat, htop⟩

end Forest

/-! ## What being a forest depends on -/

lemma SameObjects.roleFits (hsame : ws.SameObjects ws') : ws'.roleFits = ws.roleFits := by
  funext r s
  cases r <;> cases s <;> simp only [Workspace.roleFits, hsame.inputKind]

/-- Workspaces with the same objects and links have the same parents. -/
lemma SameObjects.parent (hsame : ws.SameObjects ws')
    (htarget : ∀ c, ws'.target? c = ws.target? c) (b : BlockId) :
    ws'.parent? b = ws.parent? b := by
  have howner : ws'.owner? = ws.owner? := funext hsame.owner
  have hblock : ws'.targetBlock? = ws.targetBlock? :=
    funext fun c => by rw [targetBlock?, targetBlock?, htarget, howner]
  rw [parent?, parent?, hsame.previous, hsame.output, hblock]

/-- Whether a workspace is a forest depends on its objects, links and tops alone. -/
lemma Forest.congr (h : ws.Forest) (hsame : ws.SameObjects ws')
    (htarget : ∀ c, ws'.target? c = ws.target? c) (htops : ws'.tops = ws.tops) : ws'.Forest where
  toOwned := h.toOwned.congr hsame
  symm c d := by simpa only [htarget] using h.symm c d
  fit c d a b r s hcd hc hd := by
    rw [hsame.place] at hc hd
    rw [htarget] at hcd
    rw [hsame.roleFits]
    exact h.fit c d a b r s hcd hc hd
  one_up b c d r s := by simpa only [hsame.place, htarget] using h.one_up b c d r s
  grounded := by
    have hp : ws'.parent? = ws.parent? := funext (hsame.parent htarget)
    rw [hp]
    exact h.grounded
  tops_nodup := htops ▸ h.tops_nodup
  mem_tops_iff b := by
    rw [htops, hsame.hasBlock, hsame.parent htarget]
    exact h.mem_tops_iff b

/-- The workspace without any block is a forest. -/
theorem forest_empty : Forest empty where
  listed_iff b r c := by
    cases r <;>
      simp [listed?, previous?, next?, output?, inputsOf, block?, place?, connection?, empty]
  input_iff b i := by simp [inputsOf, inputBlock?, block?, input?, empty]
  field_iff i f := by simp [fieldsOf, fieldInput?, input?, field?, empty]
  inputs_nodup b := by simp [inputsOf, block?, empty]
  fields_nodup i := by simp [fieldsOf, input?, empty]
  socket_isSome i := by simp [socket?, inputKind?, input?, empty]
  symm c d hcd := by simp [target?, connection?, empty] at hcd
  fit c d a b r s hcd := by simp [target?, connection?, empty] at hcd
  one_up b c d r s hc := by simp [place?, connection?, empty] at hc
  grounded := ⟨fun b => ⟨b, fun a ha => by simp [parent?, previous?, output?, block?, empty] at ha⟩⟩
  tops_nodup := List.nodup_nil
  mem_tops_iff b := by simp [hasBlock, block?, empty]

end BlockCursor.Workspace
