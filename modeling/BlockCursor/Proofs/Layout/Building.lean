import BlockCursor.Proofs.Layout.Parts

/-!
# Building a layout

Building follows the layout, and so do the proofs: one lemma for each equation of the builder, and
one induction that puts them together.  It says at once when building succeeds, what it comes to,
and what a failure can be.

* `Build.BlockRuns`, `Build.FillRuns`, `Build.ChainRuns`, `Build.RestRuns` — what the parts of the
  builder do.
* **`Build.chain_runs`** — the induction.
* **`WorkspaceLayout.build_succeeds_iff`** — a layout can be built just if it is valid.
-/

namespace BlockCursor

open Workspace

namespace Build

variable {l : BlockLayout} {input : InputLayout} {inputs : List InputLayout}
  {blocks rest : List BlockLayout}

/-! ## What the parts of the builder do -/

/-- In any orderly workspace a block can be built with all that it holds, just if it is valid and
its labels are new. -/
def BlockRuns (l : BlockLayout) : Prop :=
  ∀ d : Draft, d.workspace.Orderly →
    Tries (block l) d l.Valid l.labels (d.workspace.BlockBuilt l)

/-- Inputs that are ready for it can be filled with what they are to hold, just if it is valid and
its labels are new. -/
def FillRuns (inputs : List InputLayout) : Prop :=
  ∀ (owner : String) (b : BlockId) (ids : List InputId) (d : Draft),
    d.workspace.Ready b ids inputs →
    Tries (fill owner ids inputs) d (∀ i ∈ inputs, i.Valid) (heldLabels inputs)
      fun _ => d.workspace.InputsBuilt b ids inputs

/-- In any orderly workspace a chain can be built, just if its blocks can be chained, are valid and
have new labels. -/
def ChainRuns (blocks : List BlockLayout) : Prop :=
  ∀ d : Draft, d.workspace.Orderly →
    Tries (chain blocks) d (Chained blocks ∧ ∀ l ∈ blocks, l.Valid) (chainLabels blocks)
      (d.workspace.ChainBuilt blocks)

/-- The rest of a chain follows a block that is described by `a` and that nothing follows yet. -/
def RestRuns (rest : List BlockLayout) : Prop :=
  ∀ (a : BlockLayout) (above : BlockId) (d : Draft), d.workspace.Orderly →
    d.workspace.hasBlock above = true → (d.workspace.next? above).isSome = a.next →
    (∀ c, d.workspace.next? above = some c → d.workspace.target? c = none) →
    Tries (below above rest) d (Chained (a :: rest) ∧ ∀ l ∈ rest, l.Valid) (chainLabels rest)
      fun _ => d.workspace.RestBuilt above rest

/-! ## Links to what has just been built -/

/-- A block that has just been built is hung from an older one, if they have the connections for
it: the new block has left the older one alone. -/
lemma tries_hang_built {ws : Workspace} {d : Draft} {a : BlockLayout} {above b : BlockId}
    (hws : ws.Orderly) (habove : ws.hasBlock above = true)
    (hnext : (ws.next? above).isSome = a.next)
    (hfree : ∀ c, ws.next? above = some c → ws.target? c = none)
    (hbuilt : ws.BlockBuilt l b d.workspace) :
    Tries (hang above b l.kind) d (a.next = true ∧ l.previous = true) [] fun _ ws' =>
      ∃ p, d.workspace.place? p = some (above, .next) ∧ d.workspace.Hung p b ws' := by
  have hkeeps := hbuilt.built.keeps
  have hlt : above.index < b.index := by
    rw [hbuilt.number]
    exact index_lt_of_hasBlock habove
  have hnext' : d.workspace.next? above = ws.next? above := by
    rw [next?, hkeeps.block above habove, next?]
  have hfree' : ∀ c, d.workspace.next? above = some c → d.workspace.target? c = none := by
    intro c hc
    rw [hnext'] at hc
    rw [hkeeps.target c _ _ (hws.place_of_next hc) rfl trivial]
    exact hfree c hc
  have htop : b ∈ d.workspace.tops := by
    rw [hbuilt.built.tops]
    simp
  refine (tries_hang hbuilt.built.orderly hfree' htop hlt l.kind).congr ?_
  rw [hnext', hnext, hbuilt.looks.previous]

/-- Whether an input can hold a chain, seen from the chain that has been built. -/
lemma canHold_iff {ws : Workspace} {first : BlockLayout} {kind : InputKind} {b : BlockId}
    (hlooks : ws.LooksLike b first) (hdummy : kind ≠ .dummy)
    (hsingle : ¬ (kind = .value ∧ 1 < (first :: rest).length)) :
    (plugOf? ws kind b).isSome = true ↔ kind.CanHold (first :: rest) := by
  cases kind with
  | dummy => exact absurd rfl hdummy
  | statement => simp [plugOf?, hlooks.previous, InputKind.CanHold]
  | value =>
      have hrest : rest = [] := by simpa using hsingle
      simp [plugOf?, hlooks.output, InputKind.CanHold, hrest]

/-- A chain that has just been built is plugged into a socket, if the input can hold it. -/
lemma tries_plug_built {ws : Workspace} {d : Draft} {b : BlockId} {i : InputId}
    {ids : List InputId} {socket : ConnectionId} {first : BlockLayout}
    (h : ws.Ready b (i :: ids) (input :: inputs)) (hsocket : ws.socket? i = some socket)
    (hdummy : input.kind ≠ .dummy)
    (hsingle : ¬ (input.kind = .value ∧ 1 < (first :: rest).length))
    (hbuilt : ws.ChainBuilt (first :: rest) (some ⟨ws.blocks.size⟩) d.workspace) :
    d.workspace.place? socket = some (b, .socket i) ∧
      Tries (plug socket input ⟨ws.blocks.size⟩) d (input.kind.CanHold (first :: rest)) [] fun _ =>
        d.workspace.Hung socket ⟨ws.blocks.size⟩ := by
  have hkeeps := hbuilt.built.keeps
  have hi := h.owner i List.mem_cons_self
  have hmade : ws.MadeAs i input.spec := (List.forall₂_cons.mp h.made).1
  have hplace : ws.place? socket = some (b, .socket i) := by
    obtain ⟨b', hb', hplace⟩ := h.orderly.place_of_socket hsocket
    rw [hi] at hb'
    cases hb'
    exact hplace
  have hfree : d.workspace.target? socket = none := by
    rw [hkeeps.target socket _ _ hplace rfl trivial]
    exact h.free i List.mem_cons_self socket hsocket
  have htop : (⟨ws.blocks.size⟩ : BlockId) ∈ d.workspace.tops := by
    rw [hbuilt.built.tops]
    simp
  have hlooks : d.workspace.LooksLike ⟨ws.blocks.size⟩ first :=
    (shows_iff.mp hbuilt.shows.now.1).1
  refine ⟨hkeeps.place socket _ hplace, ?_⟩
  refine (tries_plug hbuilt.built.orderly (hkeeps.place socket _ hplace) input
    (hmade.of_retains hkeeps.toRetains).kind hdummy hfree htop ?_).congr
    (canHold_iff hlooks hdummy hsingle)
  exact index_lt_of_hasBlock (h.orderly.hasBlock_of_inputBlock hi)

/-! ## One equation of the builder at a time -/

lemma runs_block (hfill : FillRuns l.inputs) : BlockRuns l := by
  intro d hws
  obtain ⟨name, kind, previous, next, output, inputs⟩ := l
  have hvalid : BlockLayout.Valid ⟨name, kind, previous, next, output, inputs⟩ ↔
      ∀ i ∈ inputs, i.Valid := BlockLayout.valid_mk
  rw [block]
  refine tries_insert hws.toOwned
    (BlockLayout.spec ⟨name, kind, previous, next, output, inputs⟩) fun d₁ hd₁ => ?_
  refine (tries_label hws _ hd₁).bind (fun _ ws' hbegun => ?_) (fun _ d₂ _ hbegun => ?_)
    (show _ ↔ True ∧ ∀ i ∈ inputs, i.Valid by rw [true_and, hvalid])
    (show _ = name.toList ++ heldLabels inputs from rfl)
  · rw [hbegun.built.names, hd₁, names_insert hws.toOwned]
  · refine tries_ask ((hfill kind _ _ d₂ hbegun.ready).bind (fun _ ws' hbuilt => hbuilt.built.names)
      (fun _ d₃ _ hbuilt => ?_) (show _ ↔ _ ∧ True by rw [and_true])
      (show _ = _ ++ [] from (List.append_nil _).symm))
    exact tries_pure trivial (.of_begun hws hbegun hbuilt)

lemma runs_rest_nil : RestRuns [] := by
  intro a above d hws habove _ hfree
  exact tries_pure ⟨chained_singleton a, by simp⟩ (restBuilt_nil hws habove hfree)

lemma runs_rest_cons (hblock : BlockRuns l) (hrest : RestRuns rest) : RestRuns (l :: rest) := by
  intro a above d hws habove hnext hfree
  have hvalid : (Chained (a :: l :: rest) ∧ ∀ l' ∈ l :: rest, l'.Valid) ↔
      l.Valid ∧ (a.next = true ∧ l.previous = true) ∧
        (Chained (l :: rest) ∧ ∀ l' ∈ rest, l'.Valid) := by
    rw [chained_cons_cons, List.forall_mem_cons]
    tauto
  rw [below]
  refine (hblock d hws).bind (fun _ _ hbuilt => hbuilt.built.names) (fun b d₁ _ hbuilt => ?_) hvalid
    (show _ = l.labels ++ chainLabels rest from rfl)
  have hws₁ := hbuilt.built.orderly
  have hlooks := hbuilt.looks
  have hhang := tries_hang_built hws habove hnext hfree hbuilt
  refine hhang.bind (fun _ ws' hhung => ?_) (fun _ d₂ _ hhung => ?_) Iff.rfl
    (List.nil_append _).symm
  · obtain ⟨p, -, hhung⟩ := hhung
    rw [names, hhung.labels, names, List.append_nil]
  · obtain ⟨p, hp, hhung⟩ := hhung
    have hlooks₂ := hhung.keeps.looksLike hlooks
    have hfree₂ : ∀ c, d₂.workspace.next? b = some c → d₂.workspace.target? c = none := by
      intro c hc
      rw [next?, hhung.keeps.block b hlooks.hasBlock, ← next?] at hc
      rw [hhung.keeps.target c _ _ (hws₁.place_of_next hc) rfl ?_]
      · exact hbuilt.free c hc
      · intro heq
        rw [hp] at heq
        cases heq
        exact index_ne_of_hasBlock habove hbuilt.number
    exact (hrest l b d₂ hhung.orderly hlooks₂.hasBlock hlooks₂.next hfree₂).imp
      fun _ ws' => .cons hws habove hbuilt hp hhung

lemma runs_chain_nil : ChainRuns [] := by
  intro d hws
  exact tries_pure ⟨by simp [Chained], by simp⟩ ⟨rfl, built_refl hws, fun _ _ => trivial⟩

lemma runs_chain_cons (hblock : BlockRuns l) (hrest : RestRuns rest) : ChainRuns (l :: rest) := by
  intro d hws
  have hvalid : (Chained (l :: rest) ∧ ∀ l' ∈ l :: rest, l'.Valid) ↔
      l.Valid ∧ (Chained (l :: rest) ∧ ∀ l' ∈ rest, l'.Valid) := by
    rw [List.forall_mem_cons]
    tauto
  rw [chain]
  refine (hblock d hws).bind (fun _ _ hbuilt => hbuilt.built.names) (fun b d₁ _ hbuilt => ?_) hvalid
    (show _ = l.labels ++ chainLabels rest from rfl)
  have hlooks := hbuilt.looks
  have hbelow := hrest l b d₁ hbuilt.built.orderly hlooks.hasBlock hlooks.next hbuilt.free
  refine hbelow.bind (fun _ _ hrest => hrest.built.names) (fun _ d₂ _ hrest => ?_)
    (show _ ↔ _ ∧ True by rw [and_true]) (List.append_nil _).symm
  exact tries_pure trivial (.cons hws hbuilt hrest)

lemma runs_fill_nil : FillRuns [] := by
  intro owner b ids d h
  have hids : ids = [] := List.forall₂_nil_right_iff.mp h.made
  refine tries_pure (by simp) ⟨(built_refl h.orderly), fun _ _ => hids⟩

lemma runs_fill_cons (hchain : ChainRuns input.blocks) (hfill : FillRuns inputs) :
    FillRuns (input :: inputs) := by
  intro owner b ids d h
  obtain ⟨i, ids, hmade, -, rfl⟩ := List.forall₂_cons_right_iff.mp h.made
  obtain ⟨name, kind, fields, blocks⟩ := input
  have hi := h.owner i List.mem_cons_self
  have hb := h.orderly.hasBlock_of_inputBlock hi
  have hvalid : (∀ j ∈ (⟨name, kind, fields, blocks⟩ : InputLayout) :: inputs, j.Valid) ↔
      (Chained blocks ∧ ∀ l ∈ blocks, l.Valid) ∧ (kind.CanHold blocks ∧ ∀ j ∈ inputs, j.Valid) := by
    rw [List.forall_mem_cons, InputLayout.valid_mk]
    tauto
  -- once the first input is done with, the others are filled
  have hothers : ∀ d' : Draft, d.workspace.InputBuilt b i blocks d'.workspace →
      Tries (fill owner ids inputs) d' (∀ j ∈ inputs, j.Valid) (heldLabels inputs)
        fun _ => d.workspace.InputsBuilt b (i :: ids) (⟨name, kind, fields, blocks⟩ :: inputs) :=
    fun d' hone => (hfill owner b ids d' (h.of_inputBuilt hone)).imp
      fun _ ws' hrest => .cons h hone hrest
  rw [fill]
  cases blocks with
  | nil =>
      refine (hothers d h.inputBuilt_nil).congr ?_
      rw [hvalid]
      simp [Chained, InputKind.canHold_nil]
  | cons first rest =>
      have hsome : (d.workspace.socket? i).isSome = kind.hasSocket := by
        rw [h.orderly.socket_isSome, hmade.kind]
        rfl
      rw [if_neg (by simp)]
      refine tries_ask (tries_require (fun socket hsocket => ?_) trivial fun hnone => ?_)
      · have hsocket : d.workspace.socket? i = some socket := hsocket
        have hdummy : kind ≠ .dummy := by
          rintro rfl
          simp [hsocket, InputKind.hasSocket] at hsome
        split_ifs with hsingle
        · refine tries_throw trivial fun hboth => ?_
          obtain ⟨hall, -⟩ := hboth
          obtain ⟨rfl, hlength⟩ := hsingle
          exact absurd (hvalid.mp hall).2.1.1 (by omega)
        · refine (hchain d h.orderly).bind (fun _ _ hbuilt => hbuilt.built.names)
            (fun b' d₁ _ hbuilt => ?_) hvalid
            (show _ = chainLabels (first :: rest) ++ heldLabels inputs from rfl)
          obtain rfl := hbuilt.number
          obtain ⟨hplace₁, hplug⟩ := tries_plug_built h hsocket hdummy hsingle hbuilt
          refine hplug.bind (fun _ ws' hhung => ?_) (fun _ d₂ _ hhung => ?_) Iff.rfl
            (List.nil_append _).symm
          · rw [names, hhung.labels, names, List.append_nil]
          · exact hothers d₂ (.of_chain h.orderly hb hbuilt hplace₁ hhung)
      · have hnone : d.workspace.socket? i = none := hnone
        intro hall
        have hhold := (hvalid.mp hall).2.1
        cases kind with
        | dummy => cases hhold
        | value => simp [hnone, InputKind.hasSocket] at hsome
        | statement => simp [hnone, InputKind.hasSocket] at hsome

mutual

/-- **Building a block.** -/
theorem block_runs : ∀ l : BlockLayout, BlockRuns l
  | ⟨_, _, _, _, _, inputs⟩ => runs_block (fill_runs inputs)

/-- **Filling the inputs of a block.** -/
theorem fill_runs : ∀ inputs : List InputLayout, FillRuns inputs
  | [] => runs_fill_nil
  | ⟨_, _, _, blocks⟩ :: rest => runs_fill_cons (chain_runs blocks) (fill_runs rest)

/-- **Building a chain.** -/
theorem chain_runs : ∀ blocks : List BlockLayout, ChainRuns blocks
  | [] => runs_chain_nil
  | l :: rest => runs_chain_cons (block_runs l) (rest_runs rest)

/-- **Building what follows a block.** -/
theorem rest_runs : ∀ rest : List BlockLayout, RestRuns rest
  | [] => runs_rest_nil
  | l :: rest => runs_rest_cons (block_runs l) (rest_runs rest)

end

/-- **Building stacks.** -/
theorem stacks_run : ∀ (layouts : List StackLayout) (d : Draft), d.workspace.Orderly →
    Tries (everyStack layouts) d (∀ s ∈ layouts, Chained s.blocks ∧ ∀ l ∈ s.blocks, l.Valid)
      (layouts.flatMap fun s => chainLabels s.blocks) fun _ => d.workspace.StacksBuilt layouts
  | [], d, hws => tries_pure (by simp) ⟨built_refl hws, fun _ _ => trivial⟩
  | s :: rest, d, hws => by
      rw [everyStack]
      refine (chain_runs s.blocks d hws).bind (fun _ _ hbuilt => hbuilt.built.names)
        (fun first d₁ _ hbuilt => ?_) (by rw [List.forall_mem_cons]) (by rw [List.flatMap_cons])
      exact (stacks_run rest d₁ hbuilt.built.orderly).imp fun _ ws' hrest => .cons hws hbuilt hrest

end Build

/-! ## Whole layouts -/

namespace WorkspaceLayout

variable (layout : WorkspaceLayout)

/-- What building a layout comes to: all of it is built, or a failure that it is to blame for. -/
lemma build_cases :
    (∃ ws, layout.build = .ok ws ∧ layout.Valid ∧ empty.StacksBuilt layout.stackLayouts ws) ∨
      ∃ e, layout.build = .error e ∧ e.BlamesLayout ∧ ¬ layout.Valid := by
  have hruns := Build.stacks_run layout.stackLayouts {} orderly_empty
  have hvalid : layout.Valid ↔ (∀ s ∈ layout.stackLayouts, Chained s.blocks ∧
      ∀ l ∈ s.blocks, l.Valid) ∧ layout.labels.Nodup :=
    ⟨fun h => ⟨fun s hs => ⟨h.chained s hs, h.blocks s hs⟩, h.labels_nodup⟩,
      fun h => ⟨h.2, fun s hs => (h.1 s hs).1, fun s hs => (h.1 s hs).2⟩⟩
  rw [Build.Tries] at hruns
  rw [build]
  cases hrun : Build.everyStack layout.stackLayouts {} with
  | ok u d =>
      rw [hrun] at hruns
      obtain ⟨hall, hbuilt⟩ := hruns
      have hnodup := hbuilt.built.orderly.names_nodup
      rw [hbuilt.built.names] at hnodup
      exact .inl ⟨d.workspace, rfl, hvalid.mpr ⟨hall, hnodup⟩, hbuilt⟩
  | error e d =>
      rw [hrun] at hruns
      exact .inr ⟨e, rfl, hruns.1, fun h => hruns.2 (hvalid.mp h)⟩

/-- **A layout can be built just if it is valid**, and a failure is always one that the layout is to
blame for: a label given twice, or a place where a block cannot be.  No link that building makes is
ever refused. -/
theorem build_succeeds_iff :
    ((∃ ws, layout.build = .ok ws) ↔ layout.Valid) ∧
      ∀ e, layout.build = .error e → e.BlamesLayout := by
  rcases layout.build_cases with ⟨ws, hok, hvalid, -⟩ | ⟨e, herror, hblame, hnot⟩
  · refine ⟨⟨fun _ => hvalid, fun _ => ⟨ws, hok⟩⟩, fun e herror => ?_⟩
    rw [hok] at herror
    cases herror
  · refine ⟨⟨?_, fun hvalid => absurd hvalid hnot⟩, fun e' herror' => ?_⟩
    · rintro ⟨ws, hok⟩
      rw [herror] at hok
      cases hok
    · rw [herror] at herror'
      cases herror'
      exact hblame

end WorkspaceLayout

end BlockCursor
