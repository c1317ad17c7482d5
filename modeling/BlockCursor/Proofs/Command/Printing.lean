import BlockCursor.Command.Run
import Mathlib.Tactic.Common

/-!
# What a step of a run prints

A step of a run ends in an answer or in a failure, and on its way it writes lines of output and
events.  What it writes does not depend on what has been written before, so it can be said of a step
by itself which lines it prints and how it ends.

* `Run.Prints` — a step prints some lines and ends in some way.
* `Run.Prints.bind`, `Run.Prints.bind_error` — one step after another.
* `Command.prints_loadWorkspace` — nothing is printed while a workspace is loaded.
-/

namespace BlockCursor

/-- The line of output that an entry is, if it is one. -/
def Entry.line? : Entry → Option String
  | .output line => some line
  | .event _ => none

namespace Run

variable {α β : Type} {x : Run α} {f : α → Run β} {a : α} {failure : Failure}
  {lines lines₁ lines₂ : List String} {result : Except Failure α} {result' : Except Failure β}

/-- How a step ends that has added `more` to what has been written. -/
def ending (result : Except Failure α) (entries : Array Entry) (more : List Entry) :
    EStateM.Result Failure (Array Entry) α :=
  match result with
  | .ok a => .ok a (entries ++ more)
  | .error failure => .error failure (entries ++ more)

/-- Whatever has been written before, a step prints these lines and ends in this way. -/
def Prints (x : Run α) (lines : List String) (result : Except Failure α) : Prop :=
  ∀ entries, ∃ more : List Entry, more.filterMap Entry.line? = lines ∧
    x entries = ending result entries more

lemma ending_append (entries : Array Entry) (more₁ more₂ : List Entry) :
    ending result (entries ++ more₁) more₂ = ending result entries (more₁ ++ more₂) := by
  have hentries : entries ++ more₁ ++ more₂ = entries ++ (more₁ ++ more₂) := by
    apply Array.ext'
    simp
  cases result <;> rw [ending, ending, hentries]

/-! ## Single steps -/

lemma prints_pure (a : α) : Prints (pure a) [] (.ok a) :=
  fun entries => ⟨[], rfl, by simp [ending]; rfl⟩

lemma prints_throw (failure : Failure) : Prints (throw failure : Run α) [] (.error failure) :=
  fun entries => ⟨[], rfl, by simp [ending]; rfl⟩

lemma prints_write (entry : Entry) : Prints (write entry) entry.line?.toList (.ok ()) :=
  fun entries => ⟨[entry], by cases entry <;> rfl, by simp [ending]; rfl⟩

lemma prints_tell (event : Log.Event) : Prints (tell event) [] (.ok ()) :=
  prints_write (.event event)

lemma prints_print (line : String) : Prints (print line) [line] (.ok ()) :=
  prints_write (.output line)

lemma prints_require {ε : Type} (o : Except ε α) (failure : ε → Failure) :
    Prints (require o failure) [] (o.mapError failure) := by
  cases o with
  | ok a => exact prints_pure a
  | error e => exact prints_throw (failure e)

/-- What already fails as a run does is taken as it is. -/
lemma prints_require_id (o : Except Failure α) : Prints (require o id) [] o := by
  cases o with
  | ok a => exact prints_pure a
  | error failure => exact prints_throw failure

/-! ## One step after another -/

lemma Prints.bind (hx : Prints x lines₁ (.ok a)) (hf : Prints (f a) lines₂ result') :
    Prints (x >>= f) (lines₁ ++ lines₂) result' := by
  intro entries
  obtain ⟨more₁, hmore₁, hrun₁⟩ := hx entries
  obtain ⟨more₂, hmore₂, hrun₂⟩ := hf (entries ++ more₁)
  refine ⟨more₁ ++ more₂, by rw [List.filterMap_append, hmore₁, hmore₂], ?_⟩
  show EStateM.bind x f entries = _
  rw [EStateM.bind, hrun₁]
  show f a (entries ++ more₁) = _
  rw [hrun₂, ending_append]

lemma Prints.bind_error (hx : Prints x lines (.error failure)) :
    Prints (x >>= f) lines (.error failure) := by
  intro entries
  obtain ⟨more, hmore, hrun⟩ := hx entries
  refine ⟨more, hmore, ?_⟩
  show EStateM.bind x f entries = _
  rw [EStateM.bind, hrun]
  rfl

/-- A step that prints nothing, and then something else. -/
lemma Prints.before (hx : Prints x [] (.ok a)) (hf : Prints (f a) lines result') :
    Prints (x >>= f) lines result' :=
  hx.bind hf

/-- What is got without printing goes on to be used: the whole prints nothing if both parts do. -/
lemma Prints.gets {g : α → Except Failure β} (hx : Prints x [] result)
    (hf : ∀ a, Prints (f a) [] (g a)) : Prints (x >>= f) [] (result >>= g) := by
  cases result with
  | ok a => exact hx.before (hf a)
  | error failure => exact hx.bind_error

/-- Telling some events prints nothing. -/
lemma prints_tells (event : α → Log.Event) (xs : Array α) :
    Prints (xs.forM fun a => tell (event a)) [] (.ok ()) := by
  have hlist : ∀ l : List α, Prints (l.foldlM (fun _ a => tell (event a)) ()) [] (.ok ()) := by
    intro l
    induction l with
    | nil => exact prints_pure ()
    | cons a l ih => exact (prints_tell (event a)).before ih
  have hall := hlist xs.toList
  rwa [Array.foldlM_toList] at hall

end Run

/-! ## Loading a workspace -/

namespace WorkspaceLayout

variable (layout : WorkspaceLayout)

/-- Building with the draft kept and building for its result come to the same. -/
lemma draft_cases : (∃ d, layout.draft = (d, none) ∧ layout.build = .ok d.workspace) ∨
    ∃ d e, layout.draft = (d, some e) ∧ layout.build = .error e := by
  rw [draft, build]
  cases Build.everyStack layout.stackLayouts {} with
  | ok _ d => exact .inl ⟨d, rfl, rfl⟩
  | error e d => exact .inr ⟨d, e, rfl, rfl⟩

end WorkspaceLayout

namespace Command

open Run

/-- The workspace in a file, or why there is none. -/
def loaded (readText : ReadText) (path : String) : Except Failure Workspace := do
  let layout ← (WorkspaceLayout.load readText path).mapError .layout
  layout.build.mapError fun e => .layout (.unbuildable path e)

/-- **Loading a workspace prints nothing**, also when it fails. -/
lemma prints_loadWorkspace (readText : ReadText) (path : String) :
    Prints (loadWorkspace readText path) [] (loaded readText path) := by
  have hlayout := prints_require (WorkspaceLayout.load readText path) .layout
  rw [loadWorkspace, loaded]
  cases hload : WorkspaceLayout.load readText path with
  | error e =>
      rw [hload] at hlayout
      exact hlayout.bind_error
  | ok layout =>
      rw [hload] at hlayout
      refine hlayout.before ?_
      change Prints _ [] (layout.build.mapError fun e => Failure.layout (.unbuildable path e))
      rcases layout.draft_cases with ⟨d, hdraft, hbuild⟩ | ⟨d, e, hdraft, hbuild⟩
      · rw [hdraft, hbuild]
        refine (prints_tells Event.linked d.links).before ?_
        exact (prints_tell (Event.layoutBuilt d.workspace.tops.length)).before (prints_pure _)
      · rw [hdraft, hbuild]
        exact (prints_tells Event.linked d.links).before (prints_throw _)

end Command

end BlockCursor
