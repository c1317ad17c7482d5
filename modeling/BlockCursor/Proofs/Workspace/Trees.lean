import BlockCursor.Proofs.Workspace.Consistency

/-!
# Trees

The blocks that have one root make a tree.  Links lead from a block to blocks of the same tree
alone, so whatever is read of a tree by following links stays inside it; and an edit that names
nothing of a tree writes nothing of it.

* `Workspace.KeepsTree` — everything that belongs to a tree is what it was, links included.
* `KeepsTree.children_eq`, `KeepsTree.parent_eq` — the ways down and up inside the tree stay.
* **`KeepsTree.root_iff`** — no block joins the tree and none leaves it.
* `Edit.Elsewhere` — an edit that names nothing of a tree.
* **`Forest.keepsTree_applyD`** — such an edit keeps the tree.
-/

namespace BlockCursor

namespace Workspace

variable {ws ws' ws'' : Workspace} {a b t : BlockId} {c d p x : ConnectionId} {i : InputId}
  {f : FieldId} {r s : Role} {gone : List BlockId}

/-! ## Inside a tree -/

/-- Both ends of a link are in the same tree. -/
lemma Forest.root_of_targetBlock (h : ws.Forest) (hc : ws.owner? c = some b)
    (ha : ws.targetBlock? c = some a) : ws.root? a = ws.root? b := by
  obtain ⟨r, hplace⟩ := exists_place_of_owner hc
  obtain ⟨d, hcd, hda⟩ := Option.bind_eq_some_iff.mp ha
  obtain ⟨s, hplace'⟩ := exists_place_of_owner hda
  rcases h.parent_of_target hcd hplace hplace' with hab | hba
  · exact h.root_of_rises (h.hasBlock_of_parent hab).1 (.single hab)
  · exact (h.root_of_rises (h.hasBlock_of_parent hba).1 (.single hba)).symm

/-- A block and its parent are in the same tree. -/
lemma Forest.root_of_parent (h : ws.Forest) (hba : ws.parent? b = some a) :
    ws.root? b = ws.root? a :=
  h.root_of_rises (h.hasBlock_of_parent hba).1 (.single hba)

/-- Everything that belongs to the tree with the root `t` is what it was, links included. -/
structure KeepsTree (ws : Workspace) (t : BlockId) (ws' : Workspace) : Prop where
  block : ∀ b, ws.root? b = some t → ws'.block? b = ws.block? b
  input : ∀ i b, ws.inputBlock? i = some b → ws.root? b = some t → ws'.input? i = ws.input? i
  connection : ∀ c b, ws.owner? c = some b → ws.root? b = some t →
    ws'.connection? c = ws.connection? c
  field : ∀ f i b, ws.fieldInput? f = some i → ws.inputBlock? i = some b → ws.root? b = some t →
    ws'.field? f = ws.field? f

namespace KeepsTree

lemma refl (ws : Workspace) (t : BlockId) : ws.KeepsTree t ws :=
  ⟨fun _ _ => rfl, fun _ _ _ _ => rfl, fun _ _ _ _ => rfl, fun _ _ _ _ _ _ => rfl⟩

section Queries

variable (h : ws.KeepsTree t ws') (hb : ws.root? b = some t)
include h hb

lemma hasBlock_eq : ws'.hasBlock b = ws.hasBlock b := by
  rw [hasBlock, hasBlock, h.block b hb]

lemma previous_eq : ws'.previous? b = ws.previous? b := by
  rw [previous?, previous?, h.block b hb]

lemma next_eq : ws'.next? b = ws.next? b := by
  rw [next?, next?, h.block b hb]

lemma output_eq : ws'.output? b = ws.output? b := by
  rw [output?, output?, h.block b hb]

lemma inputsOf_eq : ws'.inputsOf b = ws.inputsOf b := by
  rw [inputsOf, inputsOf, h.block b hb]

lemma inputBlock_eq (hi : ws.inputBlock? i = some b) : ws'.inputBlock? i = ws.inputBlock? i := by
  rw [inputBlock?, inputBlock?, h.input i b hi hb]

lemma socket_eq (hi : ws.inputBlock? i = some b) : ws'.socket? i = ws.socket? i := by
  rw [socket?, socket?, h.input i b hi hb]

lemma fieldsOf_eq (hi : ws.inputBlock? i = some b) : ws'.fieldsOf i = ws.fieldsOf i := by
  rw [fieldsOf, fieldsOf, h.input i b hi hb]

lemma owner_eq (hc : ws.owner? c = some b) : ws'.owner? c = ws.owner? c := by
  rw [owner?, owner?, h.connection c b hc hb]

lemma target_eq (hc : ws.owner? c = some b) : ws'.target? c = ws.target? c := by
  rw [target?, target?, h.connection c b hc hb]

lemma parentInput_eq (hc : ws.owner? c = some b) : ws'.parentInput? c = ws.parentInput? c := by
  rw [parentInput?, parentInput?, h.connection c b hc hb]

/-- The block on the other side of a link is in the tree too, so it is found again. -/
lemma targetBlock_eq (hws : ws.Forest) (hc : ws.owner? c = some b) :
    ws'.targetBlock? c = ws.targetBlock? c := by
  rw [targetBlock?, targetBlock?, h.target_eq hb hc]
  cases hd : ws.target? c with
  | none => rfl
  | some d =>
      obtain ⟨a, q, hplace⟩ := exists_place_of_target (hws.symm c d hd)
      have hda := owner?_of_place hplace
      have ha : ws.root? a = some t := by
        rw [hws.root_of_targetBlock hc (by rw [targetBlock?, hd]; exact hda), hb]
      exact h.owner_eq ha hda

end Queries

section Links

variable (h : ws.KeepsTree t ws') (hws : ws.Forest)
include h hws

/-- **The ways down inside a tree stay.** -/
lemma children_eq (hb : ws.root? b = some t) : ws'.children b = ws.children b := by
  have hsockets :
      (ws'.inputsOf b).filterMap ws'.socket? = (ws.inputsOf b).filterMap ws.socket? := by
    rw [h.inputsOf_eq hb]
    exact List.filterMap_congr fun i hi => h.socket_eq hb ((hws.input_iff b i).mp hi)
  have hdown : ws'.downward b = ws.downward b := by
    rw [downward, downward, hsockets, h.next_eq hb]
  rw [children, children, hdown]
  refine List.filterMap_congr fun c hc => ?_
  obtain ⟨r, hplace, -⟩ := hws.mem_downward_iff.mp hc
  exact h.targetBlock_eq hb hws (owner?_of_place hplace)

/-- **The way up inside a tree stays.** -/
lemma parent_eq (hb : ws.root? b = some t) : ws'.parent? b = ws.parent? b := by
  have htarget : ∀ o : Option ConnectionId, (∀ c, o = some c → ws.owner? c = some b) →
      o.bind ws'.targetBlock? = o.bind ws.targetBlock? := by
    intro o ho
    cases o with
    | none => rfl
    | some c => exact h.targetBlock_eq hb hws (ho c rfl)
  rw [parent?, parent?, h.previous_eq hb, h.output_eq hb,
    htarget _ fun c hc => owner?_of_place (hws.place_of_previous hc),
    htarget _ fun c hc => owner?_of_place (hws.place_of_output hc)]

lemma root_eq (hws' : ws'.Forest) (hb : ws.root? b = some t) : ws'.root? b = some t := by
  obtain ⟨hlive, hrises, htop⟩ := hws.root_iff.mp hb
  have hrises' : Rises ws'.parent? b t := by
    clear hb hlive
    induction hrises using Relation.ReflTransGen.head_induction_on with
    | refl => exact .refl
    | @head b a hba hat ih =>
        have ha : ws.root? a = some t := hws.root_iff.mpr
          ⟨(hws.hasBlock_of_parent hba).2, hat, htop⟩
        have hb : ws.root? b = some t := (hws.root_of_parent hba).trans ha
        exact ih.head ((h.parent_eq hws hb).trans hba)
  have ht : ws.root? t = some t :=
    hws.root_iff.mpr ⟨hws.hasBlock_of_rises hlive hrises, .refl, htop⟩
  refine hws'.root_iff.mpr ⟨?_, hrises', ?_⟩
  · rw [h.hasBlock_eq hb, hlive]
  · rw [h.parent_eq hws ht, htop]

/-- **No block joins the tree and none leaves it.**  A block that joined would hang from one that
was in the tree, and so be among its children, which are the same as before. -/
theorem root_iff (hws' : ws'.Forest) (ht : ws.root? t = some t) :
    ws'.root? b = some t ↔ ws.root? b = some t := by
  refine ⟨fun hb => ?_, h.root_eq hws hws'⟩
  obtain ⟨-, hrises, -⟩ := hws'.root_iff.mp hb
  clear hb
  induction hrises using Relation.ReflTransGen.head_induction_on with
  | refl => exact ht
  | @head b a hba _ ih =>
      have hmem : b ∈ ws.children a := by
        rw [← h.children_eq hws ih]
        exact hws'.mem_children_iff.mpr hba
      exact (hws.root_of_parent (hws.mem_children_iff.mp hmem)).trans ih

/-- What keeps a tree twice over keeps it. -/
lemma trans (hws' : ws'.Forest) (h' : ws'.KeepsTree t ws'') : ws.KeepsTree t ws'' where
  block b hb := (h'.block b (h.root_eq hws hws' hb)).trans (h.block b hb)
  input i b hi hb := by
    have hi' : ws'.inputBlock? i = some b := (h.inputBlock_eq hb hi).trans hi
    exact (h'.input i b hi' (h.root_eq hws hws' hb)).trans (h.input i b hi hb)
  connection c b hc hb := by
    have hc' : ws'.owner? c = some b := (h.owner_eq hb hc).trans hc
    exact (h'.connection c b hc' (h.root_eq hws hws' hb)).trans (h.connection c b hc hb)
  field f i b hf hi hb := by
    have hi' : ws'.inputBlock? i = some b := (h.inputBlock_eq hb hi).trans hi
    have hf' : ws'.fieldInput? f = some i := by
      rw [fieldInput?, h.field f i b hf hi hb]
      exact hf
    exact (h'.field f i b hf' hi' (h.root_eq hws hws' hb)).trans (h.field f i b hf hi hb)

end Links

end KeepsTree

/-! ## Edits elsewhere -/

/-- The root of the block that a connection belongs to. -/
def rootOf? (ws : Workspace) (c : ConnectionId) : Option BlockId :=
  (ws.owner? c).bind ws.root?

/-- Giving out more numbers keeps every tree. -/
lemma Grows.keepsTree (h : ws.Grows ws') (t : BlockId) : ws.KeepsTree t ws' where
  block b hb := by
    rw [root?] at hb
    split at hb
    case isTrue hlive => exact h.block b (index_lt_of_hasBlock hlive)
    case isFalse => cases hb
  input i b hi _ := by
    obtain ⟨y, hy, -⟩ := Option.map_eq_some_iff.mp hi
    exact h.input i (Arena.lt_size_of_get? hy)
  connection c b hc _ := by
    obtain ⟨y, hy, -⟩ := Option.map_eq_some_iff.mp hc
    exact h.connection c (Arena.lt_size_of_get? hy)
  field f i b hf _ _ := by
    obtain ⟨y, hy, -⟩ := Option.map_eq_some_iff.mp hf
    exact h.field f (Arena.lt_size_of_get? hy)

/-- An edit of links, tops and labels keeps a tree none of whose connections it writes. -/
lemma SameObjects.keepsTree (h : ws.SameObjects ws')
    (hconnection : ∀ c, ws.rootOf? c = some t → ws'.connection? c = ws.connection? c) :
    ws.KeepsTree t ws' where
  block b _ := h.block b
  input i _ _ _ := h.input i
  connection c b hc hb := hconnection c (by rw [rootOf?, hc]; exact hb)
  field f _ _ _ _ _ := h.field f

/-- A connection of the tree is none of another tree. -/
lemma ne_of_rootOf (hc : ws.rootOf? c ≠ some t) (hx : ws.rootOf? x = some t) : x ≠ c :=
  fun hxc => hc (hxc ▸ hx)

lemma keepsTree_connect (hok : ws.connect p c = .ok ws') (hp : ws.rootOf? p ≠ some t)
    (hc : ws.rootOf? c ≠ some t) : ws.KeepsTree t ws' := by
  obtain ⟨a, r, b, s, -, -, -, -, -, -, rfl⟩ := connect_eq_ok_iff.mp hok
  exact (sameObjects_link ws p c b).keepsTree fun x hx =>
    connection?_link (ne_of_rootOf hp hx) (ne_of_rootOf hc hx) b

/-- Both ends of a link that is broken are in one tree, so naming one of them is enough. -/
lemma Forest.keepsTree_disconnect (h : ws.Forest) (hok : ws.disconnect c = .ok ws')
    (hc : ws.rootOf? c ≠ some t) : ws.KeepsTree t ws' := by
  obtain ⟨p, d, a, r, b, s, hp, hd, -, hpd, hends, rfl⟩ :=
    (disconnect_eq_ok_iff h.toLinked).mp hok
  have hroots : ws.rootOf? p = ws.rootOf? d := by
    have htarget : ws.targetBlock? p = some b := by
      rw [targetBlock?, hpd, Option.bind_some, owner?_of_place hd]
    rw [rootOf?, rootOf?, owner?_of_place hp, owner?_of_place hd]
    exact (h.root_of_targetBlock (owner?_of_place hp) htarget).symm
  have hboth : ws.rootOf? p ≠ some t ∧ ws.rootOf? d ≠ some t := by
    rcases hends with rfl | rfl
    · exact ⟨hc, hroots ▸ hc⟩
    · exact ⟨hroots ▸ hc, hc⟩
  exact (sameObjects_unlink ws p d b).keepsTree fun x hx =>
    connection?_unlink (ne_of_rootOf hboth.1 hx) (ne_of_rootOf hboth.2 hx) b

/-- Taking blocks off what they hang from keeps every tree that they are not in, neither before nor
after they are taken off. -/
lemma Forest.keepsTree_release (h : ws.Forest) (ht : ws.root? t = some t)
    (cs : List ConnectionId) (hcs : ∀ c ∈ cs, ws.rootOf? c ≠ some t)
    (hok : cs.foldlM release ws = .ok ws') : ws.KeepsTree t ws' := by
  induction cs generalizing ws with
  | nil =>
      cases hok
      exact .refl _ t
  | cons c cs ih =>
      obtain ⟨one, hone, hok⟩ := exists_of_bind_eq_ok hok
      have hc := hcs c List.mem_cons_self
      rw [release] at hone
      split at hone
      case isFalse =>
        cases hone
        exact ih h ht (fun d hd => hcs d (List.mem_cons_of_mem _ hd)) hok
      case isTrue =>
        have hkeep := h.keepsTree_disconnect hone hc
        have hforest := h.disconnect hone
        have hsame := sameObjects_disconnect h.toLinked hone
        refine hkeep.trans h hforest (ih hforest (hkeep.root_eq h hforest ht) ?_ hok)
        intro d hd hroot
        obtain ⟨u, hu, hut⟩ := Option.bind_eq_some_iff.mp hroot
        rw [hsame.owner] at hu
        refine hcs d (List.mem_cons_of_mem _ hd) ?_
        rw [rootOf?, hu]
        exact (hkeep.root_iff h hforest ht).mp hut

/-- Removing blocks keeps every tree that they are not of. -/
lemma keepsTree_without (hgone : ∀ b ∈ gone, ws.root? b ≠ some t) :
    ws.KeepsTree t (ws.without gone) where
  block b hb := block?_without_eq fun hmem => hgone b hmem hb
  input i b hi hb := input?_without_eq hi fun hmem => hgone b hmem hb
  connection c b hc hb := connection?_without_eq hc fun hmem => hgone b hmem hb
  field f i b hf hi hb := by
    obtain ⟨y, hy, rfl⟩ := Option.map_eq_some_iff.mp hf
    rw [hy, field?_without]
    refine ⟨hy, fun b' hb' hmem => hgone b' hmem ?_⟩
    obtain rfl : b = b' := Option.some.inj (hi.symm.trans hb')
    exact hb

/-- Disposing a block keeps every other tree. -/
lemma Forest.keepsTree_dispose (h : ws.Forest) (ht : ws.root? t = some t)
    (hok : ws.dispose b = .ok ws') (hb : ws.root? b ≠ some t) : ws.KeepsTree t ws' := by
  by_cases hlive : ws.hasBlock b = true
  · obtain ⟨mid, hmid, hrel, htop⟩ := h.exists_released b
    rw [dispose_of_released hlive hmid] at hok
    cases hok
    have hforest := h.releases hrel
    have hkeep : ws.KeepsTree t mid := by
      refine h.keepsTree_release ht _ (fun c hc => ?_) hmid
      have howner : ws.owner? c = some b := by
        rcases List.mem_append.mp hc with hc | hc
        · exact owner?_of_place (h.place_of_previous (Option.mem_toList.mp hc))
        · exact owner?_of_place (h.place_of_output (Option.mem_toList.mp hc))
      rw [rootOf?, howner]
      exact hb
    refine hkeep.trans h hforest (keepsTree_without fun x hx hxt => ?_)
    -- what goes has the root `b`, which is the root of no other tree
    have hblive : mid.hasBlock b = true := by rwa [(h.sameObjects_releases hrel).hasBlock]
    have hxb := (hforest.mem_subtree_iff hblive).mp hx
    obtain ⟨-, hrises, htopt⟩ := hforest.root_iff.mp hxt
    obtain rfl : b = t := hrises.top_unique htopt hxb htop
    exact hb ht
  · rw [dispose_eq_error hlive] at hok
    cases hok

/-- Labelling keeps every tree. -/
lemma keepsTree_setLabel {label : String} (hok : ws.setLabel b label = .ok ws') (t : BlockId) :
    ws.KeepsTree t ws' := by
  obtain ⟨-, rfl⟩ := setLabel_eq_ok hok
  exact (sameObjects_setLabel ws label b).keepsTree fun _ _ => rfl

end Workspace

open Workspace

/-- An edit that names nothing of the tree with a given root: it makes a new block, gives a label,
links two connections of other trees, breaks a link of another tree or disposes a block of one. -/
def Edit.Elsewhere (ws : Workspace) (root : Option BlockId) : Edit → Prop
  | .insert _ | .setLabel _ _ => True
  | .connect p c => ws.rootOf? p ≠ root ∧ ws.rootOf? c ≠ root
  | .disconnect c => ws.rootOf? c ≠ root
  | .dispose b => ws.root? b ≠ root

namespace Workspace

variable {ws : Workspace} {b t : BlockId}

/-- **An edit elsewhere keeps a tree**, refused or not. -/
theorem Forest.keepsTree_applyD (h : ws.Forest) (hb : ws.root? b = some t) {e : Edit}
    (he : e.Elsewhere ws (some t)) : ws.KeepsTree t (ws.applyD e) := by
  have ht : ws.root? t = some t := h.root_of_mem_tops (h.root_mem_tops hb)
  rcases applyD_eq ws e with hsame | hok
  · rw [hsame]
    exact .refl ws t
  · cases e with
    | insert spec => exact (insert_draft h.toOwned spec).grows.keepsTree t
    | setLabel b label => exact keepsTree_setLabel hok t
    | connect p c => exact keepsTree_connect hok he.1 he.2
    | disconnect c => exact h.keepsTree_disconnect hok he
    | dispose b => exact h.keepsTree_dispose ht hok he

end Workspace

end BlockCursor
