import BlockCursor.Proofs.Command.Printing
import BlockCursor.Proofs.Navigation.Sessions

/-!
# What a walk prints

A walk makes its moves one after the other and prints a line for each.  On a forest no move fails,
so a walk over a built workspace always comes to its end; and every node that it arrives at is live,
so no line says that something is gone.

* `Follows` — the strides that a row of moves makes from a node on.
* `Forest.exists_follows`, `Forest.arriveLive` — every walk ends, and from a node that agrees it
  arrives at live nodes.
* `Stride.Told`, `TellsWalk` — lines say where moves went.
* `Command.prints_stride` — one move and its line.
* **`Command.prints_walkOver`** — a whole walk and its lines.
-/

namespace BlockCursor

open Workspace

/-! ## Strides -/

/-- Moves are made one after the other from a node on, each from where the one before it went, or
from where that one stayed. -/
inductive Follows (nav : Navigator) : Node → List Move → List Stride → Prop
  | nil (n : Node) : Follows nav n [] []
  | cons {n : Node} {m : Move} {arrival : Option Node} {moves : List Move}
      {strides : List Stride} : nav.navigate n m = .ok arrival →
      Follows nav (arrival.getD n) moves strides →
      Follows nav n (m :: moves) (⟨m, n, arrival⟩ :: strides)

/-- Every stride that arrives somewhere arrives at a live node. -/
def ArriveLive (ws : Workspace) (strides : List Stride) : Prop :=
  ∀ s ∈ strides, ∀ n, s.arrival = some n → n.isLive ws = true

/-- **On a forest a walk comes to its end**, from whatever node it is made. -/
theorem Workspace.Forest.exists_follows {ws : Workspace} (h : ws.Forest) (step : Float) :
    ∀ (moves : List Move) (n : Node), ∃ strides, Follows (.ofWorkspace ws step) n moves strides
  | [], n => ⟨[], .nil n⟩
  | m :: moves, n => by
      obtain ⟨arrival, hmove⟩ := h.exists_navigate step n m
      obtain ⟨strides, hfollows⟩ := h.exists_follows step moves (arrival.getD n)
      exact ⟨_, .cons hmove hfollows⟩

/-- **From a node that agrees, a walk arrives at live nodes only.** -/
theorem Workspace.Forest.arriveLive {ws : Workspace} (h : ws.Forest) {step : Float} {n : Node}
    {moves : List Move} {strides : List Stride}
    (hfollows : Follows (.ofWorkspace ws step) n moves strides) (hn : n.Agrees ws) :
    ArriveLive ws strides := by
  induction hfollows with
  | nil n => exact fun s hs => absurd hs List.not_mem_nil
  | @cons n m arrival moves strides hmove _ ih =>
      -- the cursor goes on from a node that agrees, whether the move led somewhere or not
      have harrive : ∀ n', arrival = some n' → n'.Agrees ws := by
        rintro n' rfl
        exact ((Navigator.navigate_eq_some_iff.mp hmove).2.sound h hn).1
      have hon : (arrival.getD n).Agrees ws := by
        cases arrival with
        | none => exact hn
        | some n' => exact harrive n' rfl
      intro s hs n' hs'
      rcases List.mem_cons.mp hs with rfl | hs
      · exact (harrive n' hs').isLive
      · exact ih hon s hs n' hs'

/-! ## Lines -/

/-- A line says where a move went: it says that the cursor stays just if the move led nowhere, and
else it shows the node that the move led to, which is live, by its kind and its name. -/
structure Stride.Told (ws : Workspace) (s : Stride) (line : String) : Prop where
  stays_iff : line = s!"{s.move.name} -> (stays)" ↔ s.arrival = none
  arrives : ∀ n, s.arrival = some n →
    n.isLive ws = true ∧ line = s!"{s.move.name} -> {n.kind.name} {n.name ws}"

/-- No kind of node is named by what stands for staying. -/
lemma ne_stays (word : String) (k : NodeKind) (name : String) :
    s!"{word} -> {k.name} {name}" ≠ s!"{word} -> (stays)" := by
  intro h
  have hlist := congrArg String.toList h
  cases k <;> simp [toString, NodeKind.name] at hlist

/-- The line of a stride that arrives at a live node, or nowhere, tells where it went. -/
lemma Stride.told_line {ws : Workspace} {s : Stride}
    (h : ∀ n, s.arrival = some n → n.isLive ws = true) : s.Told ws (s.line ws) := by
  obtain ⟨m, origin, arrival⟩ := s
  cases arrival with
  | none => exact ⟨by simp [Stride.line], by simp⟩
  | some n =>
      have hlive := h n rfl
      have hline : Stride.line ws ⟨m, origin, some n⟩ =
          s!"{m.name} -> {n.kind.name} {n.name ws}" := by
        simp only [Stride.line, Node.describe, hlive, if_true]
        simp [toString, String.append_assoc]
      refine ⟨?_, ?_⟩
      · rw [hline]
        simp [ne_stays]
      · rintro n' ⟨⟩
        exact ⟨hlive, hline⟩

/-- Lines tell of a walk, one line of each move in order. -/
def TellsWalk (ws : Workspace) (step : Float) (start : Node) (moves : List Move)
    (lines : List String) : Prop :=
  ∃ strides, Follows (.ofWorkspace ws step) start moves strides ∧
    List.Forall₂ (Stride.Told ws) strides lines

/-! ## Walks -/

namespace Command

open Run

variable {ws : Workspace} {nav : Navigator} {n : Node} {m : Move}

/-- **One move**: it is made, and a line is printed. -/
lemma prints_stride {arrival : Option Node} (h : nav.navigate n m = .ok arrival) :
    Prints (stride ws nav ⟨n⟩ m) [(Stride.mk m n arrival).line ws]
      (.ok ⟨arrival.getD n⟩) := by
  have hgo : Cursor.go ⟨n⟩ nav m = .ok (arrival.isSome, ⟨arrival.getD n⟩) := by
    rw [Cursor.go, h]
    cases arrival <;> rfl
  have harrival : (if arrival.isSome then some (arrival.getD n) else none) = arrival := by
    cases arrival <;> rfl
  rw [stride, hgo]
  refine (prints_pure (arrival.isSome, Cursor.mk (arrival.getD n))).before ?_
  simp only [harrival]
  exact (prints_tell _).before ((prints_print _).bind (prints_pure _))

/-- **A row of moves**, with a line for each. -/
lemma prints_strides (ws : Workspace) {moves : List Move} {strides : List Stride}
    (h : Follows nav n moves strides) : ∃ after,
      Prints (moves.foldlM (stride ws nav) ⟨n⟩) (strides.map (Stride.line ws)) (.ok after) := by
  induction h with
  | nil n => exact ⟨⟨n⟩, prints_pure _⟩
  | @cons n m arrival moves strides hmove _ ih =>
      obtain ⟨after, hrest⟩ := ih
      refine ⟨after, ?_⟩
      rw [List.foldlM_cons]
      exact (prints_stride hmove).bind hrest

/-- A walk prints the lines of its strides. -/
lemma prints_walkOver_of_follows {settings : Settings} {script : Script} {strides : List Stride}
    (h : Follows (.ofWorkspace ws settings.workspaceStep) n script.moves strides) :
    Prints (walkOver ws settings n script) (strides.map (Stride.line ws)) (.ok ()) := by
  obtain ⟨after, hprints⟩ := prints_strides ws h
  have hwhole := hprints.bind (f := fun _ => pure ()) (prints_pure ())
  rw [List.append_nil] at hwhole
  exact (prints_tell _).before hwhole

/-- **A walk over a forest** comes to its end, and prints lines that tell of it. -/
theorem prints_walkOver (hws : ws.Forest) (settings : Settings) (hn : n.Agrees ws)
    (script : Script) : ∃ lines, TellsWalk ws settings.workspaceStep n script.moves lines ∧
      Prints (walkOver ws settings n script) lines (.ok ()) := by
  obtain ⟨strides, hfollows⟩ := hws.exists_follows settings.workspaceStep script.moves n
  refine ⟨strides.map (Stride.line ws), ⟨strides, hfollows, ?_⟩,
    prints_walkOver_of_follows hfollows⟩
  rw [List.forall₂_map_right_iff, List.forall₂_same]
  exact fun s hs => Stride.told_line (hws.arriveLive hfollows hn s hs)

end Command

end BlockCursor
