import BlockCursor.Proofs.Navigation.Agreement
import BlockCursor.Proofs.Workspace.Consistency
import BlockCursor.Proofs.Workspace.Nesting

/-!
# The top of a chain names the chain

Links from a next connection lead only to a previous connection, so the way up within a chain is the
way down read backwards, and blocks are in one chain just when the way up leads from them to the
same top.  Where a chain hangs is then a matter of its top alone.

* `Workspace.SameChain` — one of two blocks is reached from the other by following next links.
* **`Forest.sameChain_iff`** — the blocks of a chain are the blocks with its top.
* `Workspace.ChainInStatement` — a chain hangs from a statement socket, by one of its blocks.
* **`Forest.outOfChain_eq_next_iff`** — just then it leads out to a connection, that socket.
* **`Reachable.chainTop_names_chain`** — both, for every live block, with what the climb ends at and
  whose sockets a chain can hang from.
-/

namespace BlockCursor.Workspace

variable {ws : Workspace} {a b t : BlockId} {p s : ConnectionId} {r : Role}

/-! ## Chains -/

/-- Following next links leads from one block to another, in any number of steps. -/
def GoesOnTo (ws : Workspace) : BlockId → BlockId → Prop :=
  Relation.ReflTransGen fun x y => ws.follower? x = some y

/-- Of two blocks, one is reached from the other by following next links. -/
def SameChain (ws : Workspace) (a b : BlockId) : Prop :=
  ws.GoesOnTo a b ∨ ws.GoesOnTo b a

/-- The block hangs from the statement socket. -/
def InStatement (ws : Workspace) (b : BlockId) (s : ConnectionId) : Prop :=
  ws.holder? b = some s ∧ ∃ i, ws.parentInput? s = some i ∧ ws.inputKind? i = some .statement

/-- The chain that a block is in hangs from a statement socket: one of its blocks does. -/
def ChainInStatement (ws : Workspace) (b : BlockId) (s : ConnectionId) : Prop :=
  ∃ x, ws.SameChain b x ∧ ws.InStatement x s

/-- What hangs from anything but a value socket hangs by its previous connection. -/
lemma Linked.hangsFrom_of_holder (h : ws.Linked) (hb : ws.holder? b = some p)
    (hp : ws.place? p = some (a, r)) (hvalue : ∀ i, r = .socket i → ws.inputKind? i ≠ some .value) :
    ws.hangsFrom? b = some p := by
  obtain ⟨a', r', c, s, hp', hc, hfit, -, hcp⟩ := h.of_holder hb
  rw [hp] at hp'
  cases hp'
  have hprevious : s = .previous := by
    rcases roleFits_iff.mp hfit with ⟨-, rfl⟩ | ⟨i, -, rfl, -⟩ | ⟨i, hr, -, hi⟩
    · rfl
    · rfl
    · exact absurd hi (hvalue i hr)
  rw [hprevious] at hc
  rw [hangsFrom?, h.previous_of_place hc, Option.bind_some, hcp]

/-- A block in a statement socket hangs from it by its previous connection. -/
lemma InStatement.hangsFrom (h : ws.Linked) (hb : ws.InStatement b s) :
    ∃ a i, ws.hangsFrom? b = some s ∧ ws.place? s = some (a, .socket i) := by
  obtain ⟨hs, i, hsocket, hi⟩ := hb
  obtain ⟨a, hplace⟩ := parentInput?_eq_some_iff.mp hsocket
  refine ⟨a, i, h.hangsFrom_of_holder hs hplace fun j hj => ?_, hplace⟩
  cases hj
  simp [hi]

namespace Forest

variable (h : ws.Forest)
include h

/-! ## Up and down -/

/-- **Down a chain is up it, read backwards.** -/
theorem follower_iff : ws.follower? a = some b ↔ ws.above? b = some a := by
  rw [h.above_iff, h.follower?_eq_some_iff]
  constructor
  · rintro ⟨p, hholder, hplace⟩
    exact ⟨p, h.hangsFrom_of_holder hholder hplace (by simp), hplace⟩
  · rintro ⟨p, hp, hplace⟩
    exact ⟨p, holder_of_hangsFrom hp, hplace⟩

lemma goesOnTo_iff : ws.GoesOnTo a b ↔ Rises ws.above? b a := by
  have hswap : (fun x y => ws.follower? x = some y) =
      Function.swap fun x y => ws.above? x = some y := by
    funext x y
    exact propext h.follower_iff
  rw [GoesOnTo, hswap]
  exact Relation.reflTransGen_swap

/-- The climb within a chain ends at a block that does not hang from a next connection. -/
lemma above_eq_none_iff :
    ws.above? t = none ↔ ∀ p, ws.holder? t = some p → ws.kind? p ≠ some .next := by
  rw [Option.eq_none_iff_forall_ne_some]
  constructor
  · intro htop p hp hkind
    obtain ⟨a, hplace⟩ := exists_place_of_own (r := .next) rfl hkind
    exact htop a (h.above_iff.mpr ⟨p, h.hangsFrom_of_holder hp hplace (by simp), hplace⟩)
  · intro hfree a ha
    obtain ⟨p, hp, hplace⟩ := h.above_iff.mp ha
    exact hfree p (holder_of_hangsFrom hp) (kind?_of_place hplace)

/-! ## One top for each chain -/

lemma chainTop_goesOnTo (b : BlockId) : ws.GoesOnTo (ws.chainTop b) b :=
  h.goesOnTo_iff.mpr (h.chainTop_iff.mp rfl).1

/-- Going down a chain does not change its top. -/
lemma chainTop_of_goesOnTo (hab : ws.GoesOnTo a b) : ws.chainTop b = ws.chainTop a := by
  obtain ⟨hrises, htop⟩ := h.chainTop_iff.mp (rfl : ws.chainTop a = ws.chainTop a)
  exact h.chainTop_iff.mpr ⟨(h.goesOnTo_iff.mp hab).trans hrises, htop⟩

/-- **Blocks are in one chain just when they have the same top**: below one block there is only one
way down. -/
theorem sameChain_iff : ws.SameChain a b ↔ ws.chainTop a = ws.chainTop b := by
  constructor
  · rintro (hab | hba)
    · exact (h.chainTop_of_goesOnTo hab).symm
    · exact h.chainTop_of_goesOnTo hba
  · intro htop
    have ha := h.chainTop_goesOnTo a
    have hb := h.chainTop_goesOnTo b
    rw [← htop] at hb
    exact Rises.total ha hb

lemma sameChain_chainTop (b : BlockId) : ws.SameChain b (ws.chainTop b) :=
  Or.inr (h.chainTop_goesOnTo b)

/-! ## Out of a chain -/

/-- **A chain leads out to a connection** just when it hangs from a statement socket, and then to
that. -/
theorem outOfChain_eq_next_iff (hb : ws.hasBlock b = true) :
    ws.outOfChain b = .next s ↔ ws.ChainInStatement b s := by
  constructor
  · intro hout
    obtain ⟨t, rfl, -, -, ⟨p, a, i, hp, hplace, hi, -, hnext⟩ | ⟨-, hstack⟩⟩ :=
      h.outOfChain_cases hb
    · rw [hnext] at hout
      cases hout
      exact ⟨_, h.sameChain_chainTop b, holder_of_hangsFrom hp, i,
        parentInput?_eq_some_iff.mpr ⟨a, hplace⟩, hi⟩
    · rw [hstack] at hout
      cases hout
  · rintro ⟨x, hbx, hx⟩
    obtain ⟨a, i, hp, hplace⟩ := hx.hangsFrom h.toLinked
    have hout : ws.outOfChain b = ws.outOfChain x := by
      simp only [outOfChain, h.sameChain_iff.mp hbx]
    rw [hout, h.outOfChain_of_socket hp hplace]

/-- **The socket is further up**: all blocks of a chain in a statement socket hang, in the end, from
the block that the socket belongs to. -/
theorem owner_above_chain (hb : ws.ChainInStatement b s) : ∃ a, ws.owner? s = some a ∧
    ∀ x, ws.SameChain b x → Relation.TransGen (fun y z => ws.parent? y = some z) x a := by
  obtain ⟨t, hbt, ht⟩ := hb
  obtain ⟨a, i, hp, hplace⟩ := ht.hangsFrom h.toLinked
  have ha := owner?_of_place hplace
  refine ⟨a, ha, fun x hbx => ?_⟩
  have htop : ws.chainTop x = t := by
    rw [← h.sameChain_iff.mp hbx, h.sameChain_iff.mp hbt, h.chainTop_of_socket hp hplace]
  have hrises : Rises ws.parent? x t := h.rises_of_above (h.chainTop_iff.mp htop).1
  exact Relation.TransGen.tail' hrises (h.parent_iff.mpr ⟨s, ht.1, ha⟩)

end Forest

/-! ## What the top says -/

/-- **What the top of a chain says** about the chain that a block is in. -/
structure TopNamesChain (ws : Workspace) (b : BlockId) : Prop where
  /-- The climb passes from block to block up to the top, and there it ends. -/
  climbs : Rises ws.above? b (ws.chainTop b) ∧ ws.above? (ws.chainTop b) = none
  /-- The blocks with the same top are the blocks of the chain. -/
  same_iff : ∀ a, ws.chainTop a = ws.chainTop b ↔ ws.SameChain a b
  /-- The top does not hang from a next connection. -/
  free : ∀ p, ws.holder? (ws.chainTop b) = some p → ws.kind? p ≠ some .next
  /-- The top is in the same tree. -/
  root : ∃ u ∈ ws.tops, ws.root? b = some u ∧ ws.root? (ws.chainTop b) = some u
  /-- Out of the block, the chain leads to a statement socket just when it hangs from it. -/
  out_block : ∀ s, ws.outOfChain? (.block b) = some (.next s) ↔ ws.ChainInStatement b s
  /-- Out of each connection of the block it leads to the same. -/
  out_connection : ∀ c, ws.owner? c = some b →
    ∀ s, ws.outOfChain? (.connection c) = some (.next s) ↔ ws.ChainInStatement b s
  /-- The socket belongs to a block that is not in the chain and is above each block that is. -/
  around : ∀ s, ws.ChainInStatement b s → ∃ a, ws.owner? s = some a ∧ ¬ ws.SameChain b a ∧
    ∀ x, ws.SameChain b x → Relation.TransGen (fun y z => ws.parent? y = some z) x a

/-- **The top of a chain names the chain**, for every live block of a reachable workspace. -/
theorem Reachable.chainTop_names_chain (h : ws.Reachable) (hb : ws.hasBlock b = true) :
    ws.TopNamesChain b := by
  have hforest := h.forest
  obtain ⟨hrises, htop⟩ := hforest.chainTop_iff.mp (rfl : ws.chainTop b = ws.chainTop b)
  refine ⟨⟨hrises, htop⟩, fun a => hforest.sameChain_iff.symm, hforest.above_eq_none_iff.mp htop,
    ?root, fun s => ?block, fun c hc s => ?connection, fun s hs => ?around⟩
  case root =>
    obtain ⟨u, hu⟩ := hforest.exists_root hb
    have hsame := hforest.root_of_rises hb (hforest.rises_of_above hrises)
    exact ⟨u, hforest.root_mem_tops hu, hu, hsame.symm.trans hu⟩
  case block =>
    rw [outOfChain?, Reference.block?, if_pos hb, Option.map_some, Option.some.injEq,
      hforest.outOfChain_eq_next_iff hb]
  case connection =>
    rw [outOfChain?, hc, Option.map_some, Option.some.injEq, hforest.outOfChain_eq_next_iff hb]
  case around =>
    obtain ⟨a, ha, habove⟩ := hforest.owner_above_chain hs
    exact ⟨a, ha, fun hba => hforest.grounded.irrefl a (habove a hba), habove⟩

/-- A loop with a chain of two blocks in it. -/
def loopEdits : List Edit :=
  [.insert ⟨"loop", true, true, false, [⟨"body", .statement, []⟩]⟩,
    .insert ⟨"first", true, true, false, []⟩, .insert ⟨"second", true, true, false, []⟩,
    .connect ⟨2⟩ ⟨3⟩, .connect ⟨4⟩ ⟨5⟩]

/-- The second block has the first as its top, and its next connection leads out to the loop's
socket. -/
theorem second_in_loop : (applyAll empty loopEdits).chainTop ⟨1⟩ =
      (applyAll empty loopEdits).chainTop ⟨2⟩ ∧
    (applyAll empty loopEdits).outOfChain? (.connection ⟨6⟩) = some (.next ⟨2⟩) ∧
    ¬ (applyAll empty loopEdits).SameChain ⟨2⟩ ⟨0⟩ := by
  have hnames : (applyAll empty loopEdits).TopNamesChain ⟨2⟩ :=
    Reachable.chainTop_names_chain ⟨loopEdits, rfl⟩ rfl
  have hchain : (applyAll empty loopEdits).SameChain ⟨1⟩ ⟨2⟩ := Or.inl (.single rfl)
  have hsocket : (applyAll empty loopEdits).ChainInStatement ⟨2⟩ ⟨2⟩ :=
    ⟨⟨1⟩, hchain.symm, rfl, ⟨0⟩, rfl, rfl⟩
  obtain ⟨a, ha, hother, -⟩ := hnames.around ⟨2⟩ hsocket
  cases ha
  exact ⟨(hnames.same_iff ⟨1⟩).mpr hchain, (hnames.out_connection ⟨6⟩ rfl ⟨2⟩).mpr hsocket, hother⟩

end BlockCursor.Workspace
