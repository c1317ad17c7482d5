import BlockCursor.Proofs.Layout.Shown

/-!
# Trying to build

Building a part of a layout ends in one of two ways: the part is built, or there is a failure that
the layout is to blame for.  `Tries` says which of the two happens, and what has been built; it is
put together step by step, like the building itself.

* `Build.Tries` — a step succeeds just if its part of the layout is valid and its labels are new.
* `Workspace.Built` — what every part adds; `Workspace.Lasts` — what stays true from then on.
* `Build.tries_insert`, `Build.tries_label`, `Build.tries_hang`, `Build.tries_plug` — the single
  steps.
-/

namespace BlockCursor

open Workspace

namespace Build

variable {α β : Type} {d : Draft} {x : Build α} {f : α → Build β} {e : LayoutError}
  {valid valid₁ valid₂ : Prop} {labels labels₁ labels₂ : List String} {Q : α → Workspace → Prop}
  {R : β → Workspace → Prop}

/-! ## Steps -/

/-- A part of a layout is tried.  If it is `valid` and its labels are new it is built, as `Q` says;
otherwise there is a failure that the layout is to blame for. -/
def Tries (x : Build α) (d : Draft) (valid : Prop) (labels : List String)
    (Q : α → Workspace → Prop) : Prop :=
  match x d with
  | .ok a d' => valid ∧ Q a d'.workspace
  | .error e _ => e.BlamesLayout ∧ ¬ (valid ∧ (d.workspace.names ++ labels).Nodup)

lemma tries_pure {a : α} (hvalid : valid) (h : Q a d.workspace) : Tries (pure a) d valid labels Q :=
  ⟨hvalid, h⟩

lemma tries_throw (h : e.BlamesLayout) (hnot : ¬ (valid ∧ (d.workspace.names ++ labels).Nodup)) :
    Tries (throw e) d valid labels Q :=
  ⟨h, hnot⟩

/-- **One step after another**: the second brings its labels after those of the first. -/
lemma Tries.bind (hx : Tries x d valid₁ labels₁ Q)
    (hnames : ∀ a ws', Q a ws' → ws'.names = d.workspace.names ++ labels₁)
    (hf : ∀ a d', valid₁ → Q a d'.workspace → Tries (f a) d' valid₂ labels₂ R)
    (hvalid : valid ↔ valid₁ ∧ valid₂) (hlabels : labels = labels₁ ++ labels₂) :
    Tries (x >>= f) d valid labels R := by
  subst hlabels
  show match EStateM.bind x f d with
    | .ok b d' => valid ∧ R b d'.workspace
    | .error e _ => e.BlamesLayout ∧ ¬ (valid ∧ (d.workspace.names ++ (labels₁ ++ labels₂)).Nodup)
  rw [Tries] at hx
  rw [EStateM.bind]
  cases hrun : x d with
  | error e d' =>
      rw [hrun] at hx
      refine ⟨hx.1, fun ⟨h, hnodup⟩ => hx.2 ⟨(hvalid.mp h).1, ?_⟩⟩
      rw [← List.append_assoc] at hnodup
      exact (List.nodup_append.mp hnodup).1
  | ok a d' =>
      rw [hrun] at hx
      have hrest := hf a d' hx.1 hx.2
      rw [Tries, hnames a _ hx.2, List.append_assoc] at hrest
      show match f a d' with
        | .ok b d' => valid ∧ R b d'.workspace
        | .error e _ => e.BlamesLayout ∧
          ¬ (valid ∧ (d.workspace.names ++ (labels₁ ++ labels₂)).Nodup)
      cases hrun' : f a d' with
      | error e d'' =>
          rw [hrun'] at hrest
          exact ⟨hrest.1, fun ⟨h, hnodup⟩ => hrest.2 ⟨(hvalid.mp h).2, hnodup⟩⟩
      | ok b d'' =>
          rw [hrun'] at hrest
          exact ⟨hvalid.mpr ⟨hx.1, hrest.1⟩, hrest.2⟩

lemma tries_get {f : Draft → Build β} (h : Tries (f d) d valid labels R) :
    Tries (get >>= f) d valid labels R := h

/-- A query, and then something that may use its answer. -/
lemma tries_ask {query : Workspace → α} (h : Tries (f (query d.workspace)) d valid labels R) :
    Tries (ask query >>= f) d valid labels R := h

/-- An answer that is there, and then something that uses it, or else a failure. -/
lemma tries_require {o : Option α} (hsome : ∀ a, o = some a → Tries (f a) d valid labels R)
    (hblame : e.BlamesLayout) (hnone : o = none → ¬ valid) :
    Tries (require o e >>= f) d valid labels R := by
  cases o with
  | none => exact ⟨hblame, fun h => hnone rfl h.1⟩
  | some a => exact hsome a rfl

lemma Tries.imp {Q' : α → Workspace → Prop} (h : Tries x d valid labels Q)
    (hq : ∀ a ws', Q a ws' → Q' a ws') : Tries x d valid labels Q' := by
  rw [Tries] at h ⊢
  cases hrun : x d with
  | error e d' =>
      rw [hrun] at h
      exact h
  | ok a d' =>
      rw [hrun] at h
      exact ⟨h.1, hq a _ h.2⟩

lemma Tries.congr (h : Tries x d valid₁ labels Q) (hvalid : valid₁ ↔ valid₂) :
    Tries x d valid₂ labels Q := by
  rwa [propext hvalid] at h

/-- A link that can be made is made. -/
lemma tries_link {p c : ConnectionId} {ws' : Workspace} {Q : Unit → Workspace → Prop}
    (hok : d.workspace.connect p c = .ok ws') (hvalid : valid) (hq : Q () ws') :
    Tries (link p c) d valid labels Q := by
  refine tries_get ?_
  rw [hok]
  exact ⟨hvalid, hq⟩

end Build

/-! ## What a part of a layout adds -/

namespace Workspace

variable {ws ws' ws'' ws₁ ws₂ : Workspace} {K K' K'' : BlockId → Role → Prop}
  {labels labels' : List String} {size size' : Nat} {tops tops' : List BlockId} {a b : BlockId}
  {p : ConnectionId} {r : Role} {P : Workspace → Prop}

/-- A part of a layout has been built: so many blocks have been added with their labels, the tops
among them, and the places in `K` have been left as they were. -/
structure Built (ws : Workspace) (K : BlockId → Role → Prop) (labels : List String) (size : Nat)
    (tops : List BlockId) (ws' : Workspace) : Prop where
  orderly : ws'.Orderly
  keeps : ws.Keeps K ws'
  names : ws'.names = ws.names ++ labels
  size : ws'.blocks.size = ws.blocks.size + size
  tops : ws'.tops = ws.tops ++ tops

/-- What is true from now on, as long as the places in `K` are left as they are. -/
def Lasts (ws : Workspace) (K : BlockId → Role → Prop) (P : Workspace → Prop) : Prop :=
  ∀ ws', ws.Keeps K ws' → P ws'

lemma Lasts.now (h : ws.Lasts K P) : P ws :=
  h ws (.refl ws)

/-- What lasts outlasts whatever leaves its places as they are. -/
lemma Lasts.after (h : ws.Lasts K P) (hws : ws.Owned) (hws' : ws'.Owned) (hkeep : ws.Keeps K' ws')
    (hk : ∀ b r, ws.hasBlock b = true → K b r → K' b r) (hk' : ∀ b r, K b r → K'' b r) :
    ws'.Lasts K'' P := by
  intro ws'' hkeep'
  have hall : ws.Keeps K ws'' :=
    (hkeep.mono hws hk).trans (hkeep'.mono hws' fun b r _ => hk' b r) hws fun _ _ _ hkb => hkb
  exact h ws'' hall

lemma Built.trans (h : ws.Built K labels size tops ws') (hws : ws.Owned)
    (h' : ws'.Built K' labels' size' tops' ws'')
    (hk : ∀ b r, ws.hasBlock b = true → K b r → K' b r) :
    ws.Built K (labels ++ labels') (size + size') (tops ++ tops') ws'' where
  orderly := h'.orderly
  keeps := h.keeps.trans h'.keeps hws hk
  names := by rw [h'.names, h.names, List.append_assoc]
  size := by rw [h'.size, h.size, Nat.add_assoc]
  tops := by rw [h'.tops, h.tops, List.append_assoc]

lemma Built.mono (h : ws.Built K labels size tops ws') (hws : ws.Owned)
    (hk : ∀ b r, ws.hasBlock b = true → K' b r → K b r) : ws.Built K' labels size tops ws' :=
  { h with keeps := h.keeps.mono hws hk }

lemma built_refl (hws : ws.Orderly) : ws.Built K [] 0 [] ws :=
  ⟨hws, .refl ws, by simp, by simp, by simp⟩

/-- A new block has the next number, so it was not there. -/
lemma index_ne_of_hasBlock (hb : ws.hasBlock b = true) : b ≠ ⟨ws.blocks.size⟩ := by
  rintro rfl
  exact lt_irrefl _ (index_lt_of_hasBlock hb)

/-- A new top that is hung at a place leaves the tops as they were. -/
lemma Built.hung (h : ws.Built K labels size [b] ws') (hws : ws.Orderly) (hnew : b ∉ ws.tops)
    (hhung : ws'.Hung p b ws'') (hp : ws'.place? p = some (a, r))
    (hk : ∀ x q, ws.hasBlock x = true → K x q → (x, q) ≠ (a, r)) :
    ws.Built K labels size [] ws'' where
  orderly := hhung.orderly
  keeps := by
    refine h.keeps.trans hhung.keeps hws.toOwned fun x q hx hkx heq => ?_
    rw [hp] at heq
    exact hk x q hx hkx (Option.some.inj heq).symm
  names := by
    have hnames : ws''.names = ws'.names := by rw [Workspace.names, hhung.labels, Workspace.names]
    rw [hnames, h.names]
  size := by rw [hhung.blocks, h.size]
  tops := by
    have hold : ws.tops.filter (· != b) = ws.tops :=
      List.filter_eq_self.mpr fun x hx => bne_iff_ne.mpr (ne_of_mem_of_not_mem hx hnew)
    rw [hhung.tops, h.tops, List.filter_append, hold]
    simp

/-! ## Blocks by themselves -/

/-- A block has been put on the workspace and has its label, and its inputs are still empty. -/
structure Begun (ws : Workspace) (l : BlockLayout) (ws' : Workspace) : Prop where
  built : ws.Built (fun _ _ => True) l.label.toList 1 [⟨ws.blocks.size⟩] ws'
  looks : ws'.LooksLike ⟨ws.blocks.size⟩ l
  inputs : List.Forall₂ ws'.MadeAs (ws'.inputsOf ⟨ws.blocks.size⟩) (l.inputs.map InputLayout.spec)
  free : ∀ c r, ws'.place? c = some (⟨ws.blocks.size⟩, r) → ws'.target? c = none

/-- One label more is found with its block, and no other block gets one. -/
lemma labelOf?_append (hws : ws.Orderly) (hb : ws.hasBlock b = false) (label : Option String)
    (hlabels : ws'.labels = ws.labels ++ label.toList.map fun name => (name, b)) (x : BlockId) :
    ws'.labelOf? x = if x = b then label else ws.labelOf? x := by
  have hnone := hws.labelOf_eq_none hb
  simp only [labelOf?, Option.map_eq_none_iff] at hnone
  rw [labelOf?, hlabels, List.find?_append, labelOf?]
  split
  case isTrue hx =>
    subst hx
    rw [hnone]
    cases label <;> simp
  case isFalse hx =>
    have hnot : ((label.toList.map fun name => (name, b)).find? fun entry => entry.2 == x) =
        none := by
      cases label <;> simp [Ne.symm hx]
    rw [hnot, Option.or_none]

/-- What putting a block on the workspace and giving it its label comes to. -/
lemma begun_of_insert (hws : ws.Orderly) {l : BlockLayout} (hws' : ws'.Orderly)
    (heq : ws' = { (ws.insert l.spec).2 with
      labels := ws.labels ++ l.label.toList.map fun name => (name, ⟨ws.blocks.size⟩) }) :
    ws.Begun l ws' := by
  have hins := insert_draft hws.toOwned l.spec
  have halone := insert_contents hws.toOwned l.spec
  set b : BlockId := ⟨ws.blocks.size⟩ with hb
  set one := (ws.insert l.spec).2
  have hsame : one.SameObjects ws' := by
    subst heq
    exact ⟨fun _ => rfl, fun _ => rfl, fun _ => rfl, fun _ => rfl⟩
  have htarget : ∀ c, ws'.target? c = one.target? c := fun c => by rw [heq]; rfl
  have hlabels : ws'.labels = ws.labels ++ l.label.toList.map fun name => (name, b) := by rw [heq]
  have hnew : ws.hasBlock b = false := by rw [hasBlock, hb, block?_size]; rfl
  have hlabel := labelOf?_append hws hnew l.label hlabels
  refine ⟨⟨hws', ⟨hins.grows.retains.trans hsame.retains, ?_, ?_⟩, ?_, ?_, ?_⟩, ?_, ?_, ?_⟩
  · intro c x r hc hr _
    rw [htarget, hins.target]
  · intro x hx
    rw [hlabel, if_neg (index_ne_of_hasBlock hx)]
  · rw [names, hlabels, names]
    simp [Function.comp_def]
  · rw [heq]
    exact hins.size
  · rw [heq]
    exact hins.tops
  · refine ⟨?_, (hlabel b).trans (if_pos rfl), ?_, ?_, ?_⟩
    · rw [blockKind?, hsame.block]
      exact halone.kind
    · rw [hsame.previous]
      exact halone.previous
    · rw [next?, hsame.block]
      exact halone.next
    · rw [hsame.output]
      exact halone.output
  · rw [inputsOf, hsame.block]
    exact halone.inputs.imp fun i spec hi => hi.of_retains hsame.retains
  · intro c r hc
    rw [hsame.place] at hc
    rw [htarget]
    exact halone.free c r hc

end Workspace

namespace Build

variable {d : Draft} {l : BlockLayout} {ws : Workspace}

lemma names_insert (hws : ws.Owned) (spec : BlockSpec) : (ws.insert spec).2.names = ws.names := by
  rw [names, (insert_draft hws spec).labels, names]

/-- A new block, and then something that uses it. -/
lemma tries_insert {β : Type} {f : BlockId → Build β} {valid : Prop} {labels : List String}
    {R : β → Workspace → Prop} (hws : d.workspace.Owned) (spec : BlockSpec)
    (h : ∀ d' : Draft, d'.workspace = (d.workspace.insert spec).2 →
      Tries (f ⟨d.workspace.blocks.size⟩) d' valid labels R) :
    Tries (insert spec >>= f) d valid labels R := by
  have hrest := h { d with workspace := (d.workspace.insert spec).2 } rfl
  rw [Tries, names_insert hws] at hrest
  exact hrest

/-- **A block gets its label**, unless it is in use. -/
lemma tries_label (hws : ws.Orderly) (l : BlockLayout) (hd : d.workspace = (ws.insert l.spec).2) :
    Tries (label ⟨ws.blocks.size⟩ l.label) d True l.label.toList fun _ => ws.Begun l := by
  have hins := insert_draft hws.toOwned l.spec
  have hone : (ws.insert l.spec).2.Orderly := hws.insert l.spec
  cases hl : l.label with
  | none =>
      refine ⟨trivial, begun_of_insert hws (hd ▸ hone) ?_⟩
      rw [hd, hl, ← hins.labels]
      simp
  | some name =>
      have hlabel : (ws.insert l.spec).2.labelOf? ⟨ws.blocks.size⟩ = none := by
        rw [labelOf?, hins.labels]
        exact hws.labelOf_eq_none (by rw [hasBlock, block?_size]; rfl)
      refine tries_get ?_
      rw [hd]
      rcases hone.setLabel hins.new hlabel with ⟨hmem, herror⟩ | ⟨-, ws', hok, hws', heq⟩
      · rw [herror]
        refine tries_throw trivial fun hlabels => ?_
        obtain ⟨-, hnodup⟩ := hlabels
        rw [hd] at hnodup
        exact (List.nodup_append.mp hnodup).2.2 name hmem name (by simp) rfl
      · rw [hok]
        refine ⟨trivial, begun_of_insert hws hws' ?_⟩
        rw [heq, hins.labels, hl]
        rfl

/-- **One block is hung from another**, if they have the connections for it. -/
lemma tries_hang {above below : BlockId} (hws : d.workspace.Orderly)
    (hfree : ∀ c, d.workspace.next? above = some c → d.workspace.target? c = none)
    (htop : below ∈ d.workspace.tops) (hlt : above.index < below.index) (belowKind : String) :
    Tries (hang above below belowKind) d
      ((d.workspace.next? above).isSome = true ∧ (d.workspace.previous? below).isSome = true) []
      fun _ ws' => ∃ p, d.workspace.place? p = some (above, .next) ∧
        d.workspace.Hung p below ws' := by
  refine tries_ask (tries_ask (tries_require (fun next hnext => ?_) trivial ?_))
  · refine tries_ask (tries_require (fun previous hprevious => ?_) trivial ?_)
    · have hp := hws.place_of_next hnext
      have hc := hws.place_of_previous hprevious
      obtain ⟨ws', hok, hhung⟩ := hws.connect hp hc rfl (hfree next hnext) htop hlt
      exact tries_link hok ⟨Option.isSome_of_eq_some hnext, Option.isSome_of_eq_some hprevious⟩
        ⟨next, hp, hhung⟩
    · simp +contextual
  · simp +contextual

/-- The connection by which a block can be plugged into an input of a kind. -/
def plugOf? (ws : Workspace) (kind : InputKind) (b : BlockId) : Option ConnectionId :=
  match kind with
  | .value => ws.output? b
  | _ => ws.previous? b

/-- **A block is plugged into a socket**, if it has the connection for it. -/
lemma tries_plug {b first : BlockId} {socket : ConnectionId} {i : InputId}
    (hws : d.workspace.Orderly) (hsocket : d.workspace.place? socket = some (b, .socket i))
    (input : InputLayout) (hkind : d.workspace.inputKind? i = some input.kind)
    (hhas : input.kind ≠ .dummy) (hfree : d.workspace.target? socket = none)
    (htop : first ∈ d.workspace.tops) (hlt : b.index < first.index) :
    Tries (plug socket input first) d ((plugOf? d.workspace input.kind first).isSome = true) []
      fun _ => d.workspace.Hung socket first := by
  have hconnect {valid : Prop} (hvalid : valid) : ∀ c s, d.workspace.place? c = some (first, s) →
      d.workspace.roleFits (.socket i) s = true →
      Tries (link socket c) d valid [] fun _ => d.workspace.Hung socket first := by
    intro c s hc hfit
    obtain ⟨ws', hok, hhung⟩ := hws.connect hsocket hc hfit hfree htop hlt
    exact tries_link hok hvalid hhung
  obtain ⟨name, kind, fields, blocks⟩ := input
  cases kind with
  | dummy => exact absurd rfl hhas
  | value =>
      refine tries_ask (tries_ask (tries_require (fun c hc => ?_) trivial ?_))
      · exact hconnect (Option.isSome_of_eq_some hc) c .output (hws.place_of_output hc)
          (by simp [roleFits, hkind])
      · simp +contextual [plugOf?]
  | statement =>
      refine tries_ask (tries_ask (tries_require (fun c hc => ?_) trivial ?_))
      · exact hconnect (Option.isSome_of_eq_some hc) c .previous (hws.place_of_previous hc)
          (by simp [roleFits, hkind])
      · simp +contextual [plugOf?]

end Build

end BlockCursor
