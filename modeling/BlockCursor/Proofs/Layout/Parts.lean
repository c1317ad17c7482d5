import BlockCursor.Proofs.Layout.Trying

/-!
# Parts of a layout, built

What it means that a block, the inputs of a block, a chain or the rest of a chain have been built,
and how the larger parts come about from the smaller ones.  Every part says which places it leaves
as they were, and what the queries find of it from then on; between two parts that is all that has
to be compared.

* `BlockBuilt`, `InputBuilt`, `InputsBuilt`, `ChainBuilt`, `RestBuilt` — the parts.
* `Ready` — a block whose inputs can be filled.
* `BlockBuilt.of_begun`, `InputBuilt.of_chain`, `InputsBuilt.cons`, `RestBuilt.cons`,
  `ChainBuilt.cons` — larger parts from smaller ones.
-/

namespace BlockCursor.Workspace

variable {ws ws' ws'' ws₁ ws₂ : Workspace} {b above : BlockId} {i : InputId} {ids : List InputId}
  {l : BlockLayout} {input : InputLayout} {inputs : List InputLayout}
  {blocks rest : List BlockLayout}

/-- A block has been built as a new top with all that it holds, and nothing follows it yet. -/
structure BlockBuilt (ws : Workspace) (l : BlockLayout) (b : BlockId) (ws' : Workspace) :
    Prop where
  number : b = ⟨ws.blocks.size⟩
  built : ws.Built (fun _ _ => True) l.labels l.size [b] ws'
  free : ∀ c, ws'.next? b = some c → ws'.target? c = none
  shows : ws'.Lasts (fun x r => ws.blocks.size ≤ x.index ∧ (x, r) ≠ (b, .next))
    fun ws'' => ws''.Shows ws.blocks.size l

lemma BlockBuilt.looks (h : ws.BlockBuilt l b ws') : ws'.LooksLike b l := by
  rw [h.number]
  exact (shows_iff.mp h.shows.now).1

/-- What one input of a block is to hold has been built and plugged in. -/
structure InputBuilt (ws : Workspace) (b : BlockId) (i : InputId) (blocks : List BlockLayout)
    (ws' : Workspace) : Prop where
  built : ws.Built (fun x r => (x, r) ≠ (b, .socket i))
    (chainLabels blocks) (chainSize blocks) [] ws'
  shows : ws'.Lasts (fun x r => ws.blocks.size ≤ x.index ∨ (x, r) = (b, .socket i))
    fun ws'' => ws''.held? i = firstOf ws.blocks.size blocks ∧ ws''.ShowsChain ws.blocks.size blocks

/-- What the inputs of a block are to hold has been built and plugged in. -/
structure InputsBuilt (ws : Workspace) (b : BlockId) (ids : List InputId)
    (inputs : List InputLayout) (ws' : Workspace) : Prop where
  built : ws.Built (fun x r => ¬ (x = b ∧ ∃ i ∈ ids, r = .socket i)) (heldLabels inputs)
    (heldSize inputs) [] ws'
  shows : ws'.Lasts (fun x r => ws.blocks.size ≤ x.index ∨ x = b ∧ ∃ i ∈ ids, r = .socket i)
    fun ws'' => ws''.ShowsInputs ws.blocks.size ids inputs

/-- A chain has been built, and its first block is a new top. -/
structure ChainBuilt (ws : Workspace) (blocks : List BlockLayout) (first : Option BlockId)
    (ws' : Workspace) : Prop where
  number : first = firstOf ws.blocks.size blocks
  built : ws.Built (fun _ _ => True) (chainLabels blocks) (chainSize blocks) first.toList ws'
  shows : ws'.Lasts (fun x _ => ws.blocks.size ≤ x.index)
    fun ws'' => ws''.ShowsChain ws.blocks.size blocks

/-- The blocks that follow a block have been built and hung from it. -/
structure RestBuilt (ws : Workspace) (above : BlockId) (rest : List BlockLayout)
    (ws' : Workspace) : Prop where
  built : ws.Built (fun x r => (x, r) ≠ (above, .next)) (chainLabels rest) (chainSize rest) [] ws'
  shows : ws'.Lasts (fun x r => ws.blocks.size ≤ x.index ∨ (x, r) = (above, .next))
    fun ws'' => ws''.follower? above = firstOf ws.blocks.size rest ∧
      ws''.ShowsChain ws.blocks.size rest

/-- The inputs of a block are there as a layout describes them, and hold nothing yet. -/
structure Ready (ws : Workspace) (b : BlockId) (ids : List InputId) (inputs : List InputLayout) :
    Prop where
  orderly : ws.Orderly
  made : List.Forall₂ ws.MadeAs ids (inputs.map InputLayout.spec)
  owner : ∀ i ∈ ids, ws.inputBlock? i = some b
  nodup : ids.Nodup
  free : ∀ i ∈ ids, ∀ c, ws.socket? i = some c → ws.target? c = none

/-- The other inputs of a block stay ready while one of them is dealt with. -/
lemma Ready.of_inputBuilt (h : ws.Ready b (i :: ids) (input :: inputs))
    (hbuilt : ws.InputBuilt b i blocks ws') : ws'.Ready b ids inputs := by
  have hkeeps := hbuilt.built.keeps
  have hinput : ∀ j ∈ ids, ws'.input? j = ws.input? j := fun j hj =>
    hkeeps.input j (hasInput_of_inputBlock (h.owner j (List.mem_cons_of_mem i hj)))
  refine ⟨hbuilt.built.orderly, ?_, fun j hj => ?_, h.nodup.of_cons, fun j hj c hc => ?_⟩
  · exact (List.forall₂_cons.mp h.made).2.imp fun j s hj => hj.of_retains hkeeps.toRetains
  · rw [inputBlock?, hinput j hj]
    exact h.owner j (List.mem_cons_of_mem i hj)
  · rw [socket?, hinput j hj] at hc
    obtain ⟨b', hb', hplace⟩ := h.orderly.place_of_socket hc
    have hji : j ≠ i := fun heq => (List.nodup_cons.mp h.nodup).1 (heq ▸ hj)
    rw [hkeeps.target c b' _ hplace rfl (by simp [hji])]
    exact h.free j (List.mem_cons_of_mem i hj) c hc

lemma InputsBuilt.cons (h : ws.Ready b (i :: ids) (input :: inputs))
    (hone : ws.InputBuilt b i input.blocks ws₁) (hrest : ws₁.InputsBuilt b ids inputs ws₂) :
    ws.InputsBuilt b (i :: ids) (input :: inputs) ws₂ := by
  have hb : ws.hasBlock b = true := h.orderly.hasBlock_of_inputBlock (h.owner i List.mem_cons_self)
  have hlt : b.index < ws.blocks.size := index_lt_of_hasBlock hb
  have hi : i ∉ ids := (List.nodup_cons.mp h.nodup).1
  have hsize := hone.built.size
  have hws := h.orderly.toOwned
  have hws₁ := hone.built.orderly.toOwned
  have hws₂ := hrest.built.orderly.toOwned
  have hmade : ws.MadeAs i input.spec := (List.forall₂_cons.mp h.made).1
  obtain ⟨name, kind, fields, blocks⟩ := input
  constructor
  -- the first input is plugged into at its own socket, the others at theirs
  · refine ((hone.built.mono hws ?_).trans hws hrest.built ?_)
    · rintro x r - hk heq
      cases heq
      exact hk ⟨rfl, i, List.mem_cons_self, rfl⟩
    · rintro x r - hk ⟨rfl, j, hj, rfl⟩
      exact hk ⟨rfl, j, List.mem_cons_of_mem i hj, rfl⟩
  -- what the first input holds outlasts the others, since its socket is none of theirs
  · have hfirst : ws₂.Lasts (fun x r => ws.blocks.size ≤ x.index ∨
        x = b ∧ ∃ j ∈ i :: ids, r = .socket j) fun ws'' =>
          ws''.held? i = firstOf ws.blocks.size blocks ∧ ws''.ShowsChain ws.blocks.size blocks := by
      refine hone.shows.after hws₁ hws₂ hrest.built.keeps ?_ ?_
      · rintro x r - hk ⟨rfl, j, hj, rfl⟩
        rcases hk with hk | hk
        · omega
        · cases hk
          exact hi hj
      · rintro x r (hx | hx)
        · exact .inl hx
        · cases hx
          exact .inr ⟨rfl, i, List.mem_cons_self, rfl⟩
    intro ws'' hkeeps
    obtain ⟨hheld, hchain⟩ := hfirst ws'' hkeeps
    refine ⟨i, ids, rfl, ?_, hheld, hchain, ?_⟩
    · exact ((hmade.of_retains hone.built.keeps.toRetains).of_retains
        hrest.built.keeps.toRetains).of_retains hkeeps.toRetains
    · rw [← hsize]
      refine hrest.shows ws'' (hkeeps.mono hws₂ ?_)
      rintro x r - (hx | ⟨rfl, j, hj, rfl⟩)
      · exact .inl (by omega)
      · exact .inr ⟨rfl, j, List.mem_cons_of_mem i hj, rfl⟩

lemma Ready.inputBuilt_nil (h : ws.Ready b (i :: ids) inputs) : ws.InputBuilt b i [] ws := by
  refine ⟨built_refl h.orderly, fun ws' hkeeps => ⟨?_, trivial⟩⟩
  have hi := h.owner i List.mem_cons_self
  rw [hkeeps.held h.orderly.toLinked hi (.inr rfl), held?, firstOf, List.isEmpty_nil, if_pos rfl,
    Option.bind_eq_none_iff]
  intro c hc
  rw [targetBlock?, h.free i List.mem_cons_self c hc, Option.bind_none]

/-- A chain that has been built and is plugged in is held by the input. -/
lemma InputBuilt.of_chain {socket : ConnectionId} {first : BlockId} (hws : ws.Orderly)
    (hb : ws.hasBlock b = true) (hchain : ws.ChainBuilt blocks (some first) ws₁)
    (hsocket : ws₁.place? socket = some (b, .socket i)) (hhung : ws₁.Hung socket first ws₂) :
    ws.InputBuilt b i blocks ws₂ := by
  have hlt : b.index < ws.blocks.size := index_lt_of_hasBlock hb
  have hfirst : first = ⟨ws.blocks.size⟩ := by
    have hnumber := hchain.number
    rw [firstOf] at hnumber
    split_ifs at hnumber
    exact Option.some.inj hnumber
  have hnew : first ∉ ws.tops := fun hmem =>
    index_ne_of_hasBlock (hws.hasBlock_of_mem_tops hmem) hfirst
  have hws₂ := hhung.orderly
  have hsocket₂ := hhung.keeps.place socket _ hsocket
  refine ⟨(hchain.built.mono hws.toOwned fun _ _ _ _ => trivial).hung hws hnew hhung hsocket
    fun _ _ _ hk => hk, fun ws' hkeeps => ⟨?_, ?_⟩⟩
  · have hi : ws₂.inputBlock? i = some b :=
      (hws₂.input_iff b i).mp (hws₂.socket_of_place hsocket₂).1
    rw [hkeeps.held hws₂.toLinked hi (.inr rfl), held?, (hws₂.socket_of_place hsocket₂).2,
      Option.bind_some, hhung.held, hchain.number]
  · refine hchain.shows.after hchain.built.orderly.toOwned hws₂.toOwned hhung.keeps ?_ ?_ ws' hkeeps
    · rintro x r - hx heq
      rw [hsocket] at heq
      cases heq
      omega
    · exact fun x r hx => .inl hx

lemma Begun.ready (h : ws.Begun l ws') :
    ws'.Ready ⟨ws.blocks.size⟩ (ws'.inputsOf ⟨ws.blocks.size⟩) l.inputs := by
  have hws' := h.built.orderly
  refine ⟨hws', h.inputs, fun i hi => (hws'.input_iff _ i).mp hi, hws'.inputs_nodup _,
    fun i hi c hc => ?_⟩
  obtain ⟨b, hb, hplace⟩ := hws'.place_of_socket hc
  rw [(hws'.input_iff _ i).mp hi] at hb
  cases hb
  exact h.free c _ hplace

lemma BlockBuilt.of_begun (hws : ws.Orderly) (h : ws.Begun l ws₁)
    (hfill : ws₁.InputsBuilt ⟨ws.blocks.size⟩ (ws₁.inputsOf ⟨ws.blocks.size⟩) l.inputs ws₂) :
    ws.BlockBuilt l ⟨ws.blocks.size⟩ ws₂ := by
  have hws₁ := h.built.orderly
  have hws₂ := hfill.built.orderly
  have hlive := h.looks.hasBlock
  have hsize := h.built.size
  obtain ⟨label, kind, previous, next, output, inputs⟩ := l
  refine ⟨rfl, ?_, fun c hc => ?_, fun ws' hkeeps => ?_⟩
  · refine h.built.trans hws.toOwned hfill.built ?_
    rintro x r hx - ⟨rfl, -⟩
    exact index_ne_of_hasBlock hx rfl
  · rw [next?, hfill.built.keeps.block _ hlive, ← next?] at hc
    have hplace := hws₁.place_of_next hc
    rw [hfill.built.keeps.target c _ _ hplace rfl (by simp)]
    exact h.free c _ hplace
  · have hblock : ws'.block? ⟨ws.blocks.size⟩ = ws₁.block? ⟨ws.blocks.size⟩ :=
      (hfill.built.keeps.toRetains.trans hkeeps.toRetains).block _ hlive
    refine ⟨hkeeps.looksLike (hfill.built.keeps.looksLike h.looks), ?_⟩
    rw [inputsOf, hblock, ← inputsOf, ← hsize]
    refine hfill.shows ws' (hkeeps.mono hws₂.toOwned ?_)
    rintro x r - (hx | ⟨rfl, i, -, rfl⟩)
    · refine ⟨by omega, fun heq => ?_⟩
      cases heq
      exact absurd hx (by simp [hsize])
    · exact ⟨le_rfl, by simp⟩

/-- Nothing follows a block whose next connection is left alone. -/
lemma restBuilt_nil (hws : ws.Orderly) (habove : ws.hasBlock above = true)
    (hfree : ∀ c, ws.next? above = some c → ws.target? c = none) : ws.RestBuilt above [] ws := by
  refine ⟨built_refl hws, fun ws' hkeeps => ⟨?_, trivial⟩⟩
  rw [hkeeps.follower hws.toLinked habove (.inr rfl), follower?, firstOf, List.isEmpty_nil,
    if_pos rfl, Option.bind_eq_none_iff]
  intro c hc
  rw [targetBlock?, hfree c hc, Option.bind_none]

/-- A block that is hung from another one, and then the blocks that follow it. -/
lemma RestBuilt.cons {p : ConnectionId} {ws₃ : Workspace} (hws : ws.Orderly)
    (habove : ws.hasBlock above = true) (hblock : ws.BlockBuilt l b ws₁)
    (hp : ws₁.place? p = some (above, .next)) (hhung : ws₁.Hung p b ws₂)
    (hrest : ws₂.RestBuilt b rest ws₃) : ws.RestBuilt above (l :: rest) ws₃ := by
  have hlt : above.index < ws.blocks.size := index_lt_of_hasBlock habove
  obtain rfl := hblock.number
  have hnew : (⟨ws.blocks.size⟩ : BlockId) ∉ ws.tops := fun hmem =>
    index_ne_of_hasBlock (hws.hasBlock_of_mem_tops hmem) rfl
  have hne : above ≠ ⟨ws.blocks.size⟩ := index_ne_of_hasBlock habove
  have hws₁ := hblock.built.orderly
  have hws₂ := hhung.orderly
  have hws₃ := hrest.built.orderly
  have hone : ws.Built (fun x r => (x, r) ≠ (above, .next)) l.labels l.size [] ws₂ :=
    (hblock.built.mono hws.toOwned fun _ _ _ _ => trivial).hung hws hnew hhung hp fun _ _ _ hk => hk
  have hsize := hone.size
  refine ⟨hone.trans hws.toOwned hrest.built ?_, fun ws' hkeeps => ⟨?_, ?_, ?_⟩⟩
  · rintro x r hx - heq
    cases heq
    exact index_ne_of_hasBlock hx rfl
  -- the rest is hung from the new block or from later ones, so the link from `above` stays
  · have hp₂ := hhung.keeps.place p _ hp
    have habove₂ : ws₂.hasBlock above = true := hws₂.hasBlock_of_place hp₂
    have hkeep₂ := hrest.built.keeps.follower (b := above) hws₂.toLinked habove₂ (by simp [hne])
    have hkeep₃ := hkeeps.follower (b := above) hws₃.toLinked
      (hrest.built.keeps.hasBlock habove₂) (.inr rfl)
    rw [hkeep₃, hkeep₂, follower?, hws₂.next_of_place hp₂, Option.bind_some, hhung.held]
    rfl
  -- the link from `above` is at an older place than all that the new block is made of
  · have hshows : ws₂.Lasts
        (fun x r => ws.blocks.size ≤ x.index ∧ (x, r) ≠ (⟨ws.blocks.size⟩, .next))
        fun ws'' => ws''.Shows ws.blocks.size l := by
      refine hblock.shows.after hws₁.toOwned hws₂.toOwned hhung.keeps ?_ fun _ _ hx => hx
      rintro x r - ⟨hx, -⟩ heq
      rw [hp] at heq
      cases heq
      omega
    refine hshows.after hws₂.toOwned hws₃.toOwned hrest.built.keeps (fun _ _ _ hx => hx.2)
      (fun _ _ hx => .inl hx.1) ws' hkeeps
  · rw [← hsize]
    refine hrest.shows ws' (hkeeps.mono hws₃.toOwned ?_)
    rintro x r - (hx | hx)
    · exact .inl (by omega)
    · cases hx
      exact .inl le_rfl

lemma ChainBuilt.cons (hws : ws.Orderly) (hblock : ws.BlockBuilt l b ws₁)
    (hrest : ws₁.RestBuilt b rest ws₂) : ws.ChainBuilt (l :: rest) (some b) ws₂ := by
  obtain rfl := hblock.number
  have hsize := hblock.built.size
  have hws₁ := hblock.built.orderly
  have hws₂ := hrest.built.orderly
  refine ⟨rfl, ?_, fun ws' hkeeps => ⟨?_, ?_⟩⟩
  · refine (hblock.built.trans hws.toOwned hrest.built ?_)
    rintro x r hx - heq
    cases heq
    exact index_ne_of_hasBlock hx rfl
  · exact hblock.shows.after hws₁.toOwned hws₂.toOwned hrest.built.keeps (fun _ _ _ hx => hx.2)
      (fun _ _ hx => hx.1) ws' hkeeps
  · rw [← hsize]
    refine hrest.shows ws' (hkeeps.mono hws₂.toOwned ?_)
    rintro x r - (hx | hx)
    · show ws.blocks.size ≤ x.index
      omega
    · cases hx
      exact le_rfl

/-- Stacks have been built, and their first blocks are new tops. -/
structure StacksBuilt (ws : Workspace) (layouts : List StackLayout) (ws' : Workspace) : Prop where
  built : ws.Built (fun _ _ => True) (layouts.flatMap fun s => chainLabels s.blocks)
    (stacksSize layouts) (stackTops ws.blocks.size layouts) ws'
  shows : ws'.Lasts (fun x _ => ws.blocks.size ≤ x.index)
    fun ws'' => ws''.ShowsStacks ws.blocks.size layouts

lemma StacksBuilt.cons {s : StackLayout} {layouts : List StackLayout} {first : Option BlockId}
    (hws : ws.Orderly) (hchain : ws.ChainBuilt s.blocks first ws₁)
    (hrest : ws₁.StacksBuilt layouts ws₂) : ws.StacksBuilt (s :: layouts) ws₂ := by
  obtain rfl := hchain.number
  have hsize := hchain.built.size
  refine ⟨?_, fun ws' hkeeps => ⟨?_, ?_⟩⟩
  · have hboth := hchain.built.trans hws.toOwned hrest.built fun _ _ _ _ => trivial
    rw [hsize] at hboth
    exact hboth
  · exact hchain.shows.after hchain.built.orderly.toOwned hrest.built.orderly.toOwned
      hrest.built.keeps (fun _ _ _ _ => trivial) (fun _ _ hx => hx) ws' hkeeps
  · rw [← hsize]
    refine hrest.shows ws' (hkeeps.mono hrest.built.orderly.toOwned fun x r _ hx => ?_)
    show ws.blocks.size ≤ x.index
    omega

end BlockCursor.Workspace
