import BlockCursor.Layout.Build
import BlockCursor.Workspace.History
import Mathlib.Tactic.Common

/-!
# Built workspaces are reachable

Building makes edits and nothing else, so a workspace that has been built from a layout is one that
edits lead to.  All that is known of reachable workspaces is known of it.

* `Build.Edits` — a step of building leads from reachable workspaces to reachable ones.
* **`WorkspaceLayout.reachable_of_build`** — what a whole layout comes to is reachable.
-/

namespace BlockCursor

open Workspace

/-- An edit that is not refused leads to a reachable workspace. -/
lemma Workspace.Reachable.of_apply_eq_ok {ws ws' : Workspace} {e : Edit} (h : ws.Reachable)
    (hok : ws.apply e = .ok ws') : ws'.Reachable := by
  have hafter := h.applyD e
  rwa [Workspace.applyD, hok] at hafter

namespace Build

variable {α β : Type} {x : Build α} {f : α → Build β}

/-- A step of building makes edits: if it succeeds on a reachable workspace, it leaves a reachable
one. -/
def Edits (x : Build α) : Prop :=
  ∀ d a d', d.workspace.Reachable → x d = .ok a d' → d'.workspace.Reachable

/-! ## Steps -/

lemma edits_pure (a : α) : Edits (pure a : Build α) := by
  rintro d _ _ hd ⟨⟩
  exact hd

lemma edits_throw (e : LayoutError) : Edits (throw e : Build α) := by
  rintro d a d' - ⟨⟩

lemma Edits.bind (hx : Edits x) (hf : ∀ a, Edits (f a)) : Edits (x >>= f) := by
  intro d b d'' hd hrun
  have hrun : EStateM.bind x f d = .ok b d'' := hrun
  rw [EStateM.bind] at hrun
  cases hone : x d with
  | error e d' =>
      rw [hone] at hrun
      cases hrun
  | ok a d' =>
      rw [hone] at hrun
      exact hf a d' b d'' (hx d a d' hd hone) hrun

lemma edits_ask (query : Workspace → α) : Edits (ask query) := by
  rintro d _ _ hd ⟨⟩
  exact hd

lemma edits_require (o : Option α) (e : LayoutError) : Edits (require o e) := by
  cases o with
  | none => exact edits_throw e
  | some a => exact edits_pure a

lemma edits_insert (spec : BlockSpec) : Edits (insert spec) := by
  rintro d _ _ hd ⟨⟩
  exact hd.applyD (.insert spec)

/-- An edit that is tried is made, or building stops. -/
lemma edits_try (e : Edit) {put : Draft → Workspace → Draft}
    (hput : ∀ d ws, (put d ws).workspace = ws) : Edits (do
      let d ← get
      match d.workspace.apply e with
      | .ok ws => set (put d ws)
      | .error cause => throw (.edit cause) : Build Unit) := by
  intro d a d' hd hrun
  change (match d.workspace.apply e with
    | .ok ws => set (put d ws)
    | .error cause => throw (.edit cause) : Build Unit) d = .ok a d' at hrun
  cases hok : d.workspace.apply e with
  | error cause =>
      rw [hok] at hrun
      cases hrun
  | ok ws =>
      rw [hok] at hrun
      cases hrun
      rw [hput]
      exact hd.of_apply_eq_ok hok

lemma edits_label (b : BlockId) (l : Option String) : Edits (label b l) := by
  cases l with
  | none => exact edits_pure ()
  | some name => exact edits_try (.setLabel b name) fun _ _ => rfl

lemma edits_link (parent child : ConnectionId) : Edits (link parent child) :=
  edits_try (.connect parent child) fun _ _ => rfl

lemma edits_hang (above below : BlockId) (belowKind : String) :
    Edits (hang above below belowKind) := by
  refine (edits_ask _).bind fun _ => (edits_ask _).bind fun _ => ?_
  refine (edits_require _ _).bind fun next => (edits_ask _).bind fun _ => ?_
  exact (edits_require _ _).bind fun previous => edits_link next previous

lemma edits_plug (socket : ConnectionId) (i : InputLayout) (first : BlockId) :
    Edits (plug socket i first) := by
  rw [plug]
  refine (edits_ask _).bind fun kind => ?_
  cases i.kind with
  | value =>
      refine (edits_ask _).bind fun c => (edits_require c _).bind fun c => ?_
      exact edits_link socket c
  | statement | dummy =>
      refine (edits_ask _).bind fun c => (edits_require c _).bind fun c => ?_
      exact edits_link socket c

/-! ## The builder -/

mutual

/-- Building a block makes edits. -/
theorem edits_block : ∀ l : BlockLayout, Edits (block l)
  | ⟨l, kind, previous, next, output, inputs⟩ => by
      rw [block]
      refine (edits_insert _).bind fun b => (edits_label b l).bind fun _ => ?_
      refine (edits_ask _).bind fun ids => (edits_fill kind inputs ids).bind fun _ => ?_
      exact edits_pure b

/-- Filling the inputs of a block makes edits. -/
theorem edits_fill (owner : String) : ∀ (inputs : List InputLayout) (ids : List InputId),
    Edits (fill owner ids inputs)
  | [], _ => by
      rw [fill]
      exact edits_pure ()
  | ⟨name, kind, fields, blocks⟩ :: rest, ids => by
      rw [fill]
      have hrest := edits_fill owner rest ids.tail
      have hplug : ∀ (s : ConnectionId) (first : Option BlockId), Edits (do
          match first with
          | some first =>
            plug s ⟨name, kind, fields, blocks⟩ first
            fill owner ids.tail rest
          | _ => fill owner ids.tail rest) := by
        intro s first
        cases first with
        | none => exact hrest
        | some first => exact (edits_plug _ _ _).bind fun _ => hrest
      split
      · exact hrest
      · refine (edits_ask _).bind fun o => (edits_require o _).bind fun s => ?_
        have hheld := (edits_chain blocks).bind (hplug s)
        dsimp only
        split
        · exact (edits_throw _).bind fun _ => hheld
        · exact hheld

/-- Building a chain makes edits. -/
theorem edits_chain : ∀ blocks : List BlockLayout, Edits (chain blocks)
  | [] => by
      rw [chain]
      exact edits_pure none
  | l :: rest => by
      rw [chain]
      exact (edits_block l).bind fun b => (edits_below b rest).bind fun _ => edits_pure _

/-- Building what follows a block makes edits. -/
theorem edits_below (above : BlockId) : ∀ rest : List BlockLayout, Edits (below above rest)
  | [] => by
      rw [below]
      exact edits_pure ()
  | l :: rest => by
      rw [below]
      refine (edits_block l).bind fun b => (edits_hang above b l.kind).bind fun _ => ?_
      exact edits_below b rest

end

/-- Building stacks makes edits. -/
theorem edits_everyStack : ∀ layouts : List StackLayout, Edits (everyStack layouts)
  | [] => edits_pure ()
  | s :: rest => (edits_chain s.blocks).bind fun _ => edits_everyStack rest

end Build

/-- **A workspace that a layout describes is reachable.** -/
theorem WorkspaceLayout.reachable_of_build {layout : WorkspaceLayout} {ws : Workspace}
    (h : layout.build = .ok ws) : ws.Reachable := by
  rw [build] at h
  cases hrun : Build.everyStack layout.stackLayouts {} with
  | error e d =>
      rw [hrun] at h
      cases h
  | ok u d =>
      rw [hrun] at h
      cases h
      exact Build.edits_everyStack _ _ _ _ reachable_empty hrun

end BlockCursor
