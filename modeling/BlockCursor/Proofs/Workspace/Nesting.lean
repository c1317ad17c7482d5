import BlockCursor.Proofs.Workspace.Ancestors
import BlockCursor.Proofs.Workspace.Subtree

/-!
# Nesting

A block hangs in a socket of another block or follows it.  Only the first nests it deeper, so how
deep a block is nested is the number of sockets on the way up from it.

* `Linked.held?_eq_some_iff`, `Linked.follower?_eq_some_iff` — the two ways to hang, seen from the
  block that hangs.
* `Workspace.Siblings` — different blocks that hang from the same one, or all from nothing.
* **`Siblings.eq_of_rises`** — nothing is below two siblings.
* `Workspace.socketLinks` — how many sockets are on the way up from a block.
-/

namespace BlockCursor.Workspace

variable {ws : Workspace} {a b t x y z : BlockId} {i : InputId} {l l' xs ys : List BlockId}

/-! ## Two ways to hang -/

namespace Linked

variable (h : ws.Linked)
include h

/-- An input holds the block that hangs from its socket. -/
theorem held?_eq_some_iff : ws.held? i = some y ↔
    ∃ s a, ws.holder? y = some s ∧ ws.place? s = some (a, .socket i) := by
  rw [held?, Option.bind_eq_some_iff]
  constructor
  · rintro ⟨s, hs, hy⟩
    obtain ⟨a, -, hplace⟩ := h.place_of_socket hs
    exact ⟨s, a, h.holder_iff.mpr ⟨hy, a, _, hplace, rfl⟩, hplace⟩
  · rintro ⟨s, a, hholder, hplace⟩
    exact ⟨s, (h.socket_of_place hplace).2, (h.holder_iff.mp hholder).1⟩

/-- A block is followed by the block that hangs from its next connection. -/
theorem follower?_eq_some_iff : ws.follower? b = some y ↔
    ∃ p, ws.holder? y = some p ∧ ws.place? p = some (b, .next) := by
  rw [follower?, Option.bind_eq_some_iff]
  constructor
  · rintro ⟨p, hp, hy⟩
    have hplace := h.place_of_next hp
    exact ⟨p, h.holder_iff.mpr ⟨hy, b, _, hplace, rfl⟩, hplace⟩
  · rintro ⟨p, hholder, hplace⟩
    exact ⟨p, h.next_of_place hplace, (h.holder_iff.mp hholder).1⟩

/-- What an input holds hangs from the input's block. -/
lemma parent_of_held (hi : i ∈ ws.inputsOf b) (hy : ws.held? i = some y) :
    ws.parent? y = some b := by
  rw [← h.mem_children_iff, children_eq]
  exact List.mem_append_left _ (List.mem_filterMap.mpr ⟨i, hi, hy⟩)

lemma parent_of_follower (hy : ws.follower? b = some y) : ws.parent? y = some b := by
  rw [← h.mem_children_iff, children_eq]
  exact List.mem_append_right _ (Option.mem_toList.mpr hy)

/-- No block hangs from another one in two ways. -/
lemma nodup_children (b : BlockId) : (ws.children b).Nodup := by
  have hfollower : (ws.follower? b).toList.Nodup := by
    cases ws.follower? b <;> simp
  rw [children_eq, List.nodup_append]
  refine ⟨(h.inputs_nodup b).filterMap fun i j y hi hj => ?_, hfollower, ?_⟩
  · obtain ⟨s, a, hs, hplace⟩ := h.held?_eq_some_iff.mp hi
    obtain ⟨s', a', hs', hplace'⟩ := h.held?_eq_some_iff.mp hj
    obtain rfl : s = s' := Option.some.inj (hs.symm.trans hs')
    rw [hplace] at hplace'
    cases hplace'
    rfl
  · rintro x hx y hy rfl
    obtain ⟨i, -, hi⟩ := List.mem_filterMap.mp hx
    obtain ⟨s, a, hs, hplace⟩ := h.held?_eq_some_iff.mp hi
    obtain ⟨p, hp, hplace'⟩ := h.follower?_eq_some_iff.mp (Option.mem_toList.mp hy)
    obtain rfl : s = p := Option.some.inj (hs.symm.trans hp)
    rw [hplace] at hplace'
    cases hplace'

/-- Below a block are the block itself and what is below its children. -/
lemma rises_iff_children :
    Rises ws.parent? x b ↔ x = b ∨ ∃ y ∈ ws.children b, Rises ws.parent? x y := by
  constructor
  · intro hxb
    rcases hxb.cases_tail with rfl | ⟨y, hxy, hy⟩
    · exact Or.inl rfl
    · exact Or.inr ⟨y, h.mem_children_iff.mpr hy, hxy⟩
  · rintro (rfl | ⟨y, hy, hxy⟩)
    · exact .refl
    · exact hxy.tail (h.mem_children_iff.mp hy)

end Linked

/-! ## Siblings -/

/-- Different blocks that hang from the same block, or all from nothing. -/
structure Siblings (ws : Workspace) (l : List BlockId) : Prop where
  nodup : l.Nodup
  same_parent : ∀ x ∈ l, ∀ y ∈ l, ws.parent? x = ws.parent? y

lemma Linked.siblings_children (h : ws.Linked) (b : BlockId) : ws.Siblings (ws.children b) where
  nodup := h.nodup_children b
  same_parent x hx y hy := by rw [h.mem_children_iff.mp hx, h.mem_children_iff.mp hy]

lemma Forest.siblings_tops (h : ws.Forest) : ws.Siblings ws.tops where
  nodup := h.tops_nodup
  same_parent x hx y hy := by rw [((h.mem_tops_iff x).mp hx).2, ((h.mem_tops_iff y).mp hy).2]

namespace Siblings

lemma sublist (h : ws.Siblings l) (hsub : l'.Sublist l) : ws.Siblings l' where
  nodup := h.nodup.sublist hsub
  same_parent x hx y hy := h.same_parent x (hsub.subset hx) y (hsub.subset hy)

/-- **Nothing is below two siblings.**  One of them would be below the other, and then their parent
below itself. -/
theorem eq_of_rises (h : ws.Siblings l) (hws : ws.Forest) (hx : x ∈ l) (hy : y ∈ l)
    (hzx : Rises ws.parent? z x) (hzy : Rises ws.parent? z y) : x = y := by
  have key : ∀ {x y}, x ∈ l → y ∈ l → Rises ws.parent? x y → x = y := by
    intro x y hx hy hxy
    have hsame := h.same_parent x hx y hy
    rcases hxy.cases_head with rfl | ⟨p, hp, hpy⟩
    · rfl
    · exact absurd hpy (hws.grounded.not_rises (hsame.symm.trans hp))
  rcases hzx.total hzy with hxy | hyx
  · exact key hx hy hxy
  · exact (key hy hx hyx).symm

/-- What is below some of the siblings and what is below the others have nothing in common. -/
lemma nodup_append (h : ws.Siblings (l ++ l')) (hws : ws.Forest) (hxs : xs.Nodup) (hys : ys.Nodup)
    (hbelow : ∀ z ∈ xs, ∃ x ∈ l, Rises ws.parent? z x)
    (hbelow' : ∀ z ∈ ys, ∃ y ∈ l', Rises ws.parent? z y) : (xs ++ ys).Nodup := by
  rw [List.nodup_append]
  refine ⟨hxs, hys, ?_⟩
  rintro z hz _ hz' rfl
  obtain ⟨x, hx, hzx⟩ := hbelow z hz
  obtain ⟨y, hy, hzy⟩ := hbelow' z hz'
  have hxy := h.eq_of_rises hws (List.mem_append_left _ hx) (List.mem_append_right _ hy) hzx hzy
  exact (List.nodup_append.mp h.nodup).2.2 x hx y hy hxy

end Siblings

/-! ## How deep a block is nested -/

/-- The block hangs from a socket. -/
def isHeld (ws : Workspace) (b : BlockId) : Bool :=
  ((ws.holder? b).bind ws.parentInput?).isSome

/-- The number of socket links between a block and its root: of the blocks on the way up, as many
hang from a socket. -/
def socketLinks (ws : Workspace) (b : BlockId) : ℕ :=
  (b :: ws.ancestors b).countP ws.isHeld

namespace Forest

variable (h : ws.Forest)
include h

lemma socketLinks_of_top (hb : ws.parent? b = none) : ws.socketLinks b = 0 := by
  have hholder := h.parent_eq_none_iff.mp hb
  simp [socketLinks, ancestors_of_top hb, isHeld, hholder]

lemma socketLinks_of_parent (hy : ws.parent? y = some b) :
    ws.socketLinks y = ws.socketLinks b + if ws.isHeld y then 1 else 0 := by
  rw [socketLinks, h.ancestors_of_parent hy, List.countP_cons]
  rfl

/-- What an input holds is nested one socket deeper than the input's block. -/
lemma socketLinks_of_held (hi : i ∈ ws.inputsOf b) (hy : ws.held? i = some y) :
    ws.socketLinks y = ws.socketLinks b + 1 := by
  obtain ⟨s, a, hs, hplace⟩ := h.held?_eq_some_iff.mp hy
  have hheld : ws.isHeld y = true := by
    rw [isHeld, hs, Option.bind_some, parentInput?_eq_some_iff.mpr ⟨a, hplace⟩]
    rfl
  rw [h.socketLinks_of_parent (h.parent_of_held hi hy), if_pos hheld]

/-- A block that follows another one is nested as deep as that. -/
lemma socketLinks_of_follower (hy : ws.follower? b = some y) :
    ws.socketLinks y = ws.socketLinks b := by
  obtain ⟨p, hp, hplace⟩ := h.follower?_eq_some_iff.mp hy
  have hheld : ws.isHeld y = false := by
    simp [isHeld, hp, parentInput?_eq, hplace, Role.input?]
  rw [h.socketLinks_of_parent (h.parent_of_follower hy), hheld]
  rfl

end Forest

end BlockCursor.Workspace
