import BlockCursor.Navigation.Stack
import BlockCursor.Proofs.Workspace.Forest

/-!
# Chains

`chainTop` climbs from block to block by links from a next connection alone.  That way up is part
of the way to the root, so it ends, and at its end the chain hangs from a statement socket or its
top block is not plugged in by its previous connection at all.

* `Forest.above_iff` — one step within a chain.
* **`Forest.chainTop_iff`** — what the climb arrives at.
* **`Forest.outOfChain_cases`** — the two ends of a chain.
* **`Forest.mem_tops_iff_of_free`** — a block that is not plugged in by its previous connection is a
  top just when it is not plugged in by its output either.
-/

namespace BlockCursor.Workspace

variable {ws : Workspace} {a b t : BlockId} {c p : ConnectionId} {i : InputId} {n : Node}

/-- A block that hangs by its previous connection has the other end of that link as its holder. -/
lemma holder_of_hangsFrom (hp : ws.hangsFrom? b = some p) : ws.holder? b = some p := by
  rw [holder?, show (ws.previous? b).bind ws.target? = some p from hp, Option.some_or]

/-- What a previous connection hangs from is a next connection or a statement socket. -/
lemma Linked.place_of_hangsFrom (h : ws.Linked) (hp : ws.hangsFrom? b = some p) :
    ∃ a, ws.parent? b = some a ∧ (ws.place? p = some (a, .next) ∨
      ∃ i, ws.place? p = some (a, .socket i) ∧ ws.inputKind? i = some .statement) := by
  have hholder := holder_of_hangsFrom hp
  obtain ⟨c, hc, hcp⟩ := Option.bind_eq_some_iff.mp hp
  obtain ⟨a, r, hplace, hfit, -⟩ := h.upper_of_lower (h.place_of_previous hc) rfl hcp
  refine ⟨a, h.parent_iff.mpr ⟨p, hholder, owner?_of_place hplace⟩, ?_⟩
  rcases roleFits_iff.mp hfit with ⟨rfl, -⟩ | ⟨i, rfl, -, hi⟩ | ⟨i, -, hs, -⟩
  · exact Or.inl hplace
  · exact Or.inr ⟨i, hplace, hi⟩
  · cases hs

/-- The block at the top of a block, if any, is at its previous connection or else its output. -/
lemma topNode?_eq_some_iff : ws.topNode? b = some n ↔
    (∃ c, ws.previous? b = some c ∧ n = .previous c) ∨
      ∃ c, ws.previous? b = none ∧ ws.output? b = some c ∧ n = .output c := by
  rw [topNode?, Option.or_eq_some_iff, Option.map_eq_some_iff, Option.map_eq_some_iff,
    Option.map_eq_none_iff]
  simp only [eq_comm (a := n), exists_and_left]

namespace Forest

variable (h : ws.Forest)
include h

/-- **One step within a chain** goes to the block whose next connection holds the block. -/
theorem above_iff : ws.above? b = some a ↔
    ∃ p, ws.hangsFrom? b = some p ∧ ws.place? p = some (a, .next) := by
  rw [above?, Option.bind_eq_some_iff]
  constructor
  · rintro ⟨p, hp, ha⟩
    obtain ⟨hp, hnone⟩ := Option.filter_eq_some_iff.mp hp
    obtain ⟨a', -, hplace | ⟨i, hplace, -⟩⟩ := h.place_of_hangsFrom hp
    · obtain rfl : a' = a := Option.some.inj ((owner?_of_place hplace).symm.trans ha)
      exact ⟨p, hp, hplace⟩
    · rw [parentInput?_eq_some_iff.mpr ⟨a', hplace⟩] at hnone
      cases hnone
  · rintro ⟨p, hp, hplace⟩
    refine ⟨p, Option.filter_eq_some_iff.mpr ⟨hp, ?_⟩, owner?_of_place hplace⟩
    rw [parentInput?_eq, hplace]
    rfl

lemma parent_of_above (hba : ws.above? b = some a) : ws.parent? b = some a := by
  obtain ⟨p, hp, hplace⟩ := h.above_iff.mp hba
  exact h.parent_iff.mpr ⟨p, holder_of_hangsFrom hp, owner?_of_place hplace⟩

/-- The way up within a chain is part of the way to the root. -/
lemma rises_of_above (hba : Rises ws.above? b a) : Rises ws.parent? b a :=
  Relation.ReflTransGen.mono (fun _ _ => h.parent_of_above) b a hba

/-- **The top of a chain** is the one block above in the chain with no block above it there. -/
theorem chainTop_iff : ws.chainTop b = t ↔ Rises ws.above? b t ∧ ws.above? t = none := by
  refine climb_eq_iff (h.grounded.mono fun _ _ => h.parent_of_above) fun x hx => ?_
  obtain ⟨a, ha⟩ := Option.ne_none_iff_exists'.mp hx
  exact index_lt_of_hasBlock (h.hasBlock_of_parent (h.parent_of_above ha)).1

/-- **The two ends of a chain.**  Its top block hangs from a statement socket, and the chain leads
out to that, or it is not plugged in by its previous connection, and the chain leads out to it as a
stack. -/
theorem outOfChain_cases (hb : ws.hasBlock b = true) : ∃ t, ws.chainTop b = t ∧
    Rises ws.above? b t ∧ ws.hasBlock t = true ∧
      ((∃ p a i, ws.hangsFrom? t = some p ∧ ws.place? p = some (a, .socket i) ∧
        ws.inputKind? i = some .statement ∧ ws.parent? t = some a ∧ ws.outOfChain b = .next p) ∨
      (ws.hangsFrom? t = none ∧ ws.outOfChain b = .stack t)) := by
  obtain ⟨hrises, htop⟩ := h.chainTop_iff.mp (rfl : ws.chainTop b = ws.chainTop b)
  refine ⟨_, rfl, hrises, h.hasBlock_of_rises hb (h.rises_of_above hrises), ?_⟩
  cases hp : ws.hangsFrom? (ws.chainTop b) with
  | none => exact Or.inr ⟨rfl, by simp only [outOfChain, hp]⟩
  | some p =>
      obtain ⟨a, ha, hplace | ⟨i, hplace, hi⟩⟩ := h.place_of_hangsFrom hp
      · rw [h.above_iff.mpr ⟨p, hp, hplace⟩] at htop
        cases htop
      · exact Or.inl ⟨p, a, i, rfl, hplace, hi, ha, by simp only [outOfChain, hp]⟩

/-- A block that is not plugged in by its previous connection is the top of its chain, and the chain
leads out to it as a stack. -/
lemma outOfChain_of_free (hfree : ws.hangsFrom? b = none) : ws.outOfChain b = .stack b := by
  have habove : ws.above? b = none := by rw [above?, hfree, Option.filter_none, Option.bind_none]
  have htop : ws.chainTop b = b := h.chainTop_iff.mpr ⟨.refl, habove⟩
  simp only [outOfChain, htop, hfree]

/-- A block that hangs from a socket is the top of its chain. -/
lemma chainTop_of_socket (hp : ws.hangsFrom? b = some p)
    (hplace : ws.place? p = some (a, .socket i)) : ws.chainTop b = b := by
  refine h.chainTop_iff.mpr ⟨.refl, ?_⟩
  rw [Option.eq_none_iff_forall_ne_some]
  intro u hu
  obtain ⟨q, hq, hplace'⟩ := h.above_iff.mp hu
  obtain rfl : p = q := Option.some.inj (hp.symm.trans hq)
  rw [hplace] at hplace'
  cases hplace'

/-- The chain below a socket leads out to the socket. -/
lemma outOfChain_of_socket (hp : ws.hangsFrom? b = some p)
    (hplace : ws.place? p = some (a, .socket i)) : ws.outOfChain b = .next p := by
  simp only [outOfChain, h.chainTop_of_socket hp hplace, hp]

/-- **Which ends are stacks**: a block that is not plugged in by its previous connection is a top
just when it is not plugged in by its output. -/
theorem mem_tops_iff_of_free (ht : ws.hasBlock t = true) (hfree : ws.hangsFrom? t = none) :
    t ∈ ws.tops ↔ (ws.output? t).bind ws.target? = none := by
  rw [h.mem_tops_iff, and_iff_right ht, h.parent_eq_none_iff, holder?,
    show (ws.previous? t).bind ws.target? = none from hfree, Option.none_or]

end Forest

end BlockCursor.Workspace
