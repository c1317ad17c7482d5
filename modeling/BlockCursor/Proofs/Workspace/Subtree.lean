import BlockCursor.Proofs.Workspace.Forest

/-!
# Subtrees

The children of a block are found by going down its own links, its parent by going up a link of its
own.  In a forest the two directions agree, so that what is listed below a block is just what going
up leads to it from.

* `Linked.mem_children_iff` — children are the blocks that have the block as their parent.
* **`Forest.mem_subtree_iff`** — the subtree of a live block is everything below it; the bound on
  its depth is always enough.
-/

namespace BlockCursor.Workspace

variable {ws : Workspace} {a b x y : BlockId} {c : ConnectionId}

/-- The downward connections of a block are those in its upper roles. -/
lemma Owned.mem_downward_iff (h : ws.Owned) :
    c ∈ ws.downward b ↔ ∃ r, ws.place? c = some (b, r) ∧ r.isUpper = true := by
  rw [downward, List.mem_append, List.mem_filterMap, Option.mem_toList]
  constructor
  · rintro (⟨i, hi, hc⟩ | hc)
    · exact ⟨.socket i, (h.listed_iff b (.socket i) c).mp (listed?_socket.mpr ⟨hi, hc⟩), rfl⟩
    · exact ⟨.next, h.place_of_next hc, rfl⟩
  · rintro ⟨r, hc, hr⟩
    cases r with
    | socket i => exact Or.inl ⟨i, h.socket_of_place hc⟩
    | next => exact Or.inr (h.next_of_place hc)
    | previous => cases hr
    | output => cases hr

/-- The children of a block are what its inputs hold, in order, and what follows it. -/
lemma children_eq (ws : Workspace) (b : BlockId) :
    ws.children b = (ws.inputsOf b).filterMap ws.held? ++ (ws.follower? b).toList := by
  rw [children, downward, List.filterMap_append, List.filterMap_filterMap, follower?]
  congr 1
  cases ws.next? b with
  | none => rfl
  | some c => cases h : ws.targetBlock? c <;> simp [h]

/-- **Down and up agree**: the children of a block are the blocks that it is the parent of. -/
theorem Linked.mem_children_iff (h : ws.Linked) : y ∈ ws.children x ↔ ws.parent? y = some x := by
  rw [children, List.mem_filterMap, h.parent_iff]
  constructor
  · rintro ⟨p, hp, hpy⟩
    obtain ⟨r, hplace, hr⟩ := h.mem_downward_iff.mp hp
    exact ⟨p, h.holder_iff.mpr ⟨hpy, x, r, hplace, hr⟩, owner?_of_place hplace⟩
  · rintro ⟨p, hp, hx⟩
    obtain ⟨hpy, a, r, hplace, hr⟩ := h.holder_iff.mp hp
    obtain rfl : a = x := Option.some.inj ((owner?_of_place hplace).symm.trans hx)
    exact ⟨p, h.mem_downward_iff.mpr ⟨r, hplace, hr⟩, hpy⟩

namespace Forest

variable (h : ws.Forest)
include h

/-- What is listed below a block is below it, however deep the listing goes. -/
lemma rises_of_mem_subtreeWithin : ∀ (n : ℕ) (b x : BlockId),
    x ∈ ws.subtreeWithin n b → Rises ws.parent? x b
  | 0, _, _, hx => by cases hx
  | n + 1, b, x, hx => by
      rw [subtreeWithin, List.mem_cons, List.mem_flatMap] at hx
      rcases hx with rfl | ⟨y, hy, hxy⟩
      · exact .refl
      · exact (rises_of_mem_subtreeWithin n y x hxy).tail (h.mem_children_iff.mp hy)

/-- What is below a block is listed below it once the listing goes as deep as the way up is long.
The way up passes each block at most once. -/
lemma exists_path_to (hxb : Rises ws.parent? x b) : ∃ l : List BlockId,
    l.Nodup ∧ (∀ z ∈ l, Rises ws.parent? x z ∧ Rises ws.parent? z b) ∧
      ∀ n, l.length ≤ n → x ∈ ws.subtreeWithin n b := by
  induction hxb with
  | refl =>
      refine ⟨[x], List.nodup_singleton x, fun z hz => ?_, fun n hn => ?_⟩
      · rw [List.mem_singleton.mp hz]
        exact ⟨.refl, .refl⟩
      · obtain ⟨m, rfl⟩ := Nat.exists_eq_add_of_le' hn
        exact List.mem_cons_self
  | @tail y b hxy hyb ih =>
      obtain ⟨l, hnodup, hl, hdeep⟩ := ih
      have hbl : b ∉ l := fun hmem => h.grounded.not_rises hyb (hl b hmem).2
      refine ⟨b :: l, List.nodup_cons.mpr ⟨hbl, hnodup⟩, fun z hz => ?_, fun n hn => ?_⟩
      · rcases List.mem_cons.mp hz with rfl | hz
        · exact ⟨hxy.tail hyb, .refl⟩
        · exact ⟨(hl z hz).1, (hl z hz).2.tail hyb⟩
      · obtain ⟨m, rfl⟩ := Nat.exists_eq_add_of_le' hn
        have hm : l.length ≤ m + l.length := Nat.le_add_left _ _
        rw [List.length_cons, ← Nat.add_assoc, subtreeWithin, List.mem_cons, List.mem_flatMap]
        exact Or.inr ⟨y, h.mem_children_iff.mpr hyb, hdeep _ hm⟩

/-- **The subtree of a live block is everything below it**, the block itself included. -/
theorem mem_subtree_iff (hb : ws.hasBlock b = true) :
    x ∈ ws.subtree b ↔ Rises ws.parent? x b := by
  refine ⟨h.rises_of_mem_subtreeWithin _ b x, fun hxb => ?_⟩
  have hx : ws.hasBlock x = true := h.hasBlock_of_below hb hxb
  obtain ⟨l, hnodup, hl, hdeep⟩ := h.exists_path_to hxb
  refine hdeep _ (length_le_of_index_lt hnodup fun z hz => ?_)
  exact index_lt_of_hasBlock (h.hasBlock_of_rises hx (hl z hz).1)

/-- The subtree of a block that hangs from nothing is closed upward and downward. -/
lemma mem_subtree_congr (hb : ws.hasBlock b = true) (htop : ws.parent? b = none)
    (hxy : ws.parent? x = some y) : x ∈ ws.subtree b ↔ y ∈ ws.subtree b := by
  rw [h.mem_subtree_iff hb, h.mem_subtree_iff hb]
  constructor
  · intro hxb
    refine hxb.of_step hxy ?_
    rintro rfl
    rw [htop] at hxy
    cases hxy
  · exact fun hyb => hyb.head hxy

end Forest

end BlockCursor.Workspace
