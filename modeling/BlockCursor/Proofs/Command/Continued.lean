import BlockCursor.Proofs.Command.Walking
import BlockCursor.Proofs.Script.Joined

/-!
# Walks that go on

A walk by two texts with a line break between them is the walk by the first, gone on with by the
second from where the first has ended.  No move fails on a reachable workspace, wherever it is made
from, so both walks come to their ends.

* `Node.after` — where strides leave a cursor.
* `Follows.append`, `Follows.walk` — strides behind strides, and the walk of a cursor.
* `Walks` — the lines of a walk and the node at its end.
* **`joined_scripts_compose`** — texts, scripts and walks, one behind the other.
-/

namespace BlockCursor

open Workspace Script

/-- Where strides leave a cursor that began at a node. -/
def Node.after : Node → List Stride → Node
  | n, [] => n
  | n, s :: strides => Node.after (s.arrival.getD n) strides

section Strides

variable {nav : Navigator} {n : Node} {moves moves' : List Move} {strides strides' : List Stride}

/-- **Strides go on where others have ended.** -/
lemma Follows.append (h : Follows nav n moves strides)
    (h' : Follows nav (n.after strides) moves' strides') :
    Follows nav n (moves ++ moves') (strides ++ strides') := by
  induction h with
  | nil n => exact h'
  | cons hmove _ ih => exact .cons hmove (ih h')

lemma Node.after_append (n : Node) (strides strides' : List Stride) :
    n.after (strides ++ strides') = (n.after strides).after strides' := by
  induction strides generalizing n with
  | nil => rfl
  | cons s strides ih => exact ih _

/-- A cursor that makes the moves leaves these strides behind what its trail has already. -/
lemma Follows.walk (h : Follows nav n moves strides) (before : Array Stride) :
    moves.foldlM (Trail.extend nav) ⟨before, ⟨n⟩⟩ =
      .ok ⟨before ++ strides.toArray, ⟨n.after strides⟩⟩ := by
  induction h generalizing before with
  | nil n =>
      rw [List.foldlM_nil, Array.append_empty]
      rfl
  | @cons n m arrival moves strides hmove _ ih =>
      have hextend : Trail.extend nav ⟨before, ⟨n⟩⟩ m =
          .ok ⟨before.push ⟨m, n, arrival⟩, ⟨arrival.getD n⟩⟩ := by
        rw [Trail.extend, Cursor.go, hmove]
        cases arrival <;> rfl
      have hstrides : before.push ⟨m, n, arrival⟩ ++ strides.toArray =
          before ++ (Stride.mk m n arrival :: strides).toArray := by
        apply Array.ext'
        simp
      rw [List.foldlM_cons, hextend, ← hstrides]
      exact ih _

end Strides

/-- A walk by a script from one node to another: the program prints the lines and does not fail, and
a cursor that makes the moves ends at the other node, with a trail of which the lines tell. -/
structure Walks (ws : Workspace) (settings : Settings) (start : Node) (script : Script)
    (lines : List String) (last : Node) : Prop where
  prints : Run.Prints (Command.walkOver ws settings start script) lines (.ok ())
  ends : ∃ trail, Cursor.walk ⟨start⟩ (.ofWorkspace ws settings.workspaceStep) script.moves =
    .ok trail ∧ trail.strides.toList.map (Stride.line ws) = lines ∧ trail.cursor.current = last

lemma Follows.walks {ws : Workspace} {settings : Settings} {n : Node} {script : Script}
    {strides : List Stride}
    (h : Follows (.ofWorkspace ws settings.workspaceStep) n script.moves strides) :
    Walks ws settings n script (strides.map (Stride.line ws)) (n.after strides) where
  prints := Command.prints_walkOver_of_follows h
  ends := ⟨_, h.walk #[], by simp, rfl⟩

/-- The moves of a script do not depend on where its steps are written. -/
lemma Script.moves_of_joined {first second script : Script} {n : Nat}
    (h : script.steps = first.steps ++ second.steps.map (Text.Spanned.shift n)) :
    script.moves = first.moves ++ second.moves := by
  rw [Script.moves, h, List.flatMap_append, List.flatMap_map]
  rfl

/-- **Scripts compose.**  Two well-formed texts joined by a line break are well formed.  What is
wrong with them is what is wrong with the first and then what is wrong with the second, further on.
They write a script just if each of them does; its steps are those of the first and then those of
the second, further on; and to walk by it is to walk by the first, and then by the second from where
the first has ended. -/
theorem joined_scripts_compose {a b : String} (ha : WellFormed a.toList)
    (hb : WellFormed b.toList) {ws : Workspace} (hws : ws.Reachable) (settings : Settings)
    (n : Node) :
    WellFormed (a ++ "\n" ++ b).toList ∧
      problems (a ++ "\n" ++ b) = problems a ++ (problems b).map (Problem.shift (a.length + 1)) ∧
      (∀ script, parse (a ++ "\n" ++ b) = .ok script ↔
        ∃ first second, parse a = .ok first ∧ parse b = .ok second ∧
          script.steps = first.steps ++ second.steps.map (Text.Spanned.shift (a.length + 1))) ∧
      ∀ first second script, parse a = .ok first → parse b = .ok second →
        parse (a ++ "\n" ++ b) = .ok script → ∃ lines middle lines' last,
          Walks ws settings n first lines middle ∧
          Walks ws settings middle second lines' last ∧
          Walks ws settings n script (lines ++ lines') last := by
  refine ⟨wellFormed_joined ha hb, problems_joined ha hb,
    fun script => parse_joined_eq_ok_iff ha hb, ?_⟩
  intro first second script hfirst hsecond hscript
  obtain ⟨first', second', hfirst', hsecond', hsteps⟩ := (parse_joined_eq_ok_iff ha hb).mp hscript
  obtain rfl : first = first' := Except.ok.inj (hfirst.symm.trans hfirst')
  obtain rfl : second = second' := Except.ok.inj (hsecond.symm.trans hsecond')
  obtain ⟨strides, hstrides⟩ := hws.forest.exists_follows settings.workspaceStep first.moves n
  obtain ⟨strides', hstrides'⟩ :=
    hws.forest.exists_follows settings.workspaceStep second.moves (n.after strides)
  have hwhole : Follows (.ofWorkspace ws settings.workspaceStep) n script.moves
      (strides ++ strides') := by
    rw [Script.moves_of_joined hsteps]
    exact hstrides.append hstrides'
  refine ⟨_, _, _, _, hstrides.walks, hstrides'.walks, ?_⟩
  rw [← List.map_append, ← Node.after_append]
  exact hwhole.walks

/-- A workspace with one block and nothing beside it. -/
def lone : Workspace :=
  applyAll empty [.insert ⟨"move", true, true, false, []⟩]

/-- What a cursor does that goes into the lone block and then on as far as it can. -/
def throughLone : List Stride :=
  [⟨.into, .stack ⟨0⟩, some (.previous ⟨0⟩)⟩, ⟨.next, .previous ⟨0⟩, some (.block ⟨0⟩)⟩,
    ⟨.next, .block ⟨0⟩, some (.next ⟨1⟩)⟩, ⟨.next, .next ⟨1⟩, none⟩]

/-- A text that ends in an open comment, and one whose step would go into it but for the line break
between them. -/
theorem comment_ends_at_line_break :
    WellFormed "in, next # on".toList ∧ WellFormed "next*2".toList ∧ lone.Reachable ∧
      ∃ script, parse ("in, next # on" ++ "\n" ++ "next*2") = .ok script ∧
        script.steps = [⟨⟨.into, 1⟩, 0, 2⟩, ⟨⟨.next, 1⟩, 4, 8⟩, ⟨⟨.next, 2⟩, 14, 20⟩] ∧
        Walks lone {} (.stack ⟨0⟩) script ["in -> previous move#b0", "next -> block move#b0",
          "next -> next move#b0", "next -> (stays)"] (.next ⟨1⟩) := by
  have hfirst : WellFormed "in, next # on".toList := ⟨_, readSteps_eq_ok_iff.mp rfl⟩
  have hsecond : WellFormed "next*2".toList := ⟨_, readSteps_eq_ok_iff.mp rfl⟩
  have hws : lone.Reachable := ⟨_, rfl⟩
  obtain ⟨-, -, hscript, hwalks⟩ := joined_scripts_compose hfirst hsecond hws {} (.stack ⟨0⟩)
  have hjoined : parse ("in, next # on" ++ "\n" ++ "next*2") =
      .ok ⟨[⟨⟨.into, 1⟩, 0, 2⟩, ⟨⟨.next, 1⟩, 4, 8⟩, ⟨⟨.next, 2⟩, 14, 20⟩]⟩ :=
    (hscript _).mpr ⟨⟨[⟨⟨.into, 1⟩, 0, 2⟩, ⟨⟨.next, 1⟩, 4, 8⟩]⟩, ⟨[⟨⟨.next, 2⟩, 0, 6⟩]⟩,
      rfl, rfl, rfl⟩
  obtain ⟨lines, middle, lines', last, -, -, hwhole⟩ := hwalks _ _ _ rfl rfl hjoined
  refine ⟨hfirst, hsecond, hws, _, hjoined, rfl, ?_⟩
  obtain ⟨trail, hwalk, hlines, hlast⟩ := hwhole.ends
  have htrail : Cursor.walk ⟨.stack ⟨0⟩⟩ (.ofWorkspace lone ({} : Settings).workspaceStep)
      [.into, .next, .next, .next] = .ok ⟨throughLone.toArray, ⟨.next ⟨1⟩⟩⟩ := rfl
  obtain rfl := Except.ok.inj (htrail.symm.trans hwalk)
  have htold : throughLone.map (Stride.line lone) = ["in -> previous move#b0",
      "next -> block move#b0", "next -> next move#b0", "next -> (stays)"] := by decide +kernel
  have hstrides : throughLone.map (Stride.line lone) = lines ++ lines' := hlines
  obtain rfl : Node.next ⟨1⟩ = last := hlast
  rw [← htold, hstrides]
  exact hwhole

end BlockCursor
