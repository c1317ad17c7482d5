import BlockCursor.Proofs.Command.Printing
import BlockCursor.Proofs.Navigation.Sessions

/-!
# What a walk needs

A walk needs settings, a workspace, a start location and a script, and looks for them in this order.

* `WalkRequest` — a walk that is asked for, with the files that it can use.
* `WalkRequest.Supplies` — everything that the walk needs is there.
* `WalkRequest.LacksFirst` — the first of it that is missing.
* `WalkRequest.journey` — the search for it, one stage after the other.
* **`journey_eq_ok_iff`**, **`lacksFirst_of_journey_eq_error`** — the search finds everything that
  is there, or else the first that is missing.
-/

namespace BlockCursor

open Workspace

/-! ## What a walk needs -/

/-- Settings come from the file that goes first, where the step is a positive number, or are the
usual ones if there is no file. -/
inductive Settings.From (readText : ReadText) (asked found : Option String) : Settings → Prop
  | usual : asked.or found = none → From readText asked found {}
  | file {path text : String} {settings : Settings} : asked.or found = some path →
      readText path = .ok text → Toml.decode Settings.ofData text = .ok settings →
      Settings.isStep settings.workspaceStep = true → From readText asked found settings

/-- A workspace comes from a file that can be read, that says a layout, and whose layout can be
built. -/
def Workspace.From (readText : ReadText) (path : String) (ws : Workspace) : Prop :=
  ∃ text layout, readText path = .ok text ∧
    Toml.decode (WorkspaceLayout.ofData .toml) text = .ok layout ∧ layout.build = .ok ws

/-- A walk that is asked for: how files are read, the settings file by name and in its usual place,
and the options of the command. -/
structure WalkRequest where
  readText : ReadText
  asked : Option String
  found : Option String
  layout : String
  start : String
  script : Option String
  scriptFile : Option String

/-- All that a walk is made of. -/
structure Journey where
  settings : Settings
  workspace : Workspace
  start : Node
  script : Script

namespace WalkRequest

variable (r : WalkRequest)

/-- The text of the script is given as it is, or stands in a file that can be read. -/
def HasSource (source : String) : Prop :=
  r.script = some source ∨
    r.script = none ∧ ∃ path, r.scriptFile = some path ∧ r.readText path = .ok source

/-- Everything that the walk needs is there. -/
structure Supplies (j : Journey) : Prop where
  settings : Settings.From r.readText r.asked r.found j.settings
  workspace : Workspace.From r.readText r.layout j.workspace
  start : Start.resolve j.workspace r.start = .ok j.start
  script : ∃ source, r.HasSource source ∧ Script.parse source = .ok j.script

/-- There are settings. -/
def HasSettings : Prop :=
  ∃ settings, Settings.From r.readText r.asked r.found settings

/-- There are settings and a workspace. -/
def HasWorkspace (ws : Workspace) : Prop :=
  r.HasSettings ∧ Workspace.From r.readText r.layout ws

/-- There are settings, a workspace and a node to start from. -/
def HasStart (n : Node) : Prop :=
  ∃ ws, r.HasWorkspace ws ∧ Start.resolve ws r.start = .ok n

/-- The first thing that the walk needs and that is missing, while all before it is there.  That a
move goes wrong is none of these. -/
inductive LacksFirst : Failure → Prop
  | settings {e} : Settings.choose r.readText r.asked r.found = .error e →
      LacksFirst (.settings e)
  | layout {e} : r.HasSettings → WorkspaceLayout.load r.readText r.layout = .error e →
      LacksFirst (.layout e)
  | building {text layout e} : r.HasSettings → r.readText r.layout = .ok text →
      Toml.decode (WorkspaceLayout.ofData .toml) text = .ok layout → layout.build = .error e →
      LacksFirst (.layout (.unbuildable r.layout e))
  | start {ws e} : r.HasWorkspace ws → Start.resolve ws r.start = .error e → LacksFirst (.start e)
  | noScript {n} : r.HasStart n → r.script = none → r.scriptFile = none → LacksFirst .noScript
  | scriptFile {n path cause} : r.HasStart n → r.script = none → r.scriptFile = some path →
      r.readText path = .error cause → LacksFirst (.unreadableScript path cause)
  | script {n source problems} : r.HasStart n → r.HasSource source →
      Script.parse source = .error problems → LacksFirst (.badScript source problems)

end WalkRequest

/-! ## One stage at a time -/

section Stages

variable {readText : ReadText} {asked found : Option String} {path text : String}

lemma mapError_eq_ok_iff {ε ε' α : Type} {x : Except ε α} {f : ε → ε'} {a : α} :
    x.mapError f = .ok a ↔ x = .ok a := by
  cases x <;> simp [Except.mapError]

lemma mapError_eq_error_iff {ε ε' α : Type} {x : Except ε α} {f : ε → ε'} {e : ε'} :
    x.mapError f = .error e ↔ ∃ cause, x = .error cause ∧ f cause = e := by
  cases x <;> simp [Except.mapError]

lemma bind_eq_error_iff {ε α β : Type} {x : Except ε α} {f : α → Except ε β} {e : ε} :
    (x >>= f) = .error e ↔ x = .error e ∨ ∃ a, x = .ok a ∧ f a = .error e := by
  cases x with
  | error cause => simp [bind, Except.bind]
  | ok a => simp [bind, Except.bind]

lemma Settings.ofText_eq_ok_iff {settings : Settings} : Settings.ofText path text = .ok settings ↔
    Toml.decode Settings.ofData text = .ok settings ∧
      Settings.isStep settings.workspaceStep = true := by
  rw [ofText, bind_eq_ok_iff]
  simp only [mapError_eq_ok_iff]
  constructor
  · rintro ⟨s, hdecode, hstep⟩
    split_ifs at hstep with h
    · cases hstep
      exact ⟨hdecode, h⟩
  · rintro ⟨hdecode, hstep⟩
    exact ⟨settings, hdecode, by rw [if_pos hstep]; rfl⟩

lemma Settings.choose_eq_ok_iff {settings : Settings} :
    Settings.choose readText asked found = .ok settings ↔
      Settings.From readText asked found settings := by
  rw [choose]
  cases hfile : asked.or found with
  | none =>
      constructor
      · rintro ⟨⟩
        exact .usual hfile
      · rintro (- | ⟨hpath, -⟩)
        · rfl
        · rw [hfile] at hpath
          cases hpath
  | some path =>
      show Settings.load readText path = .ok settings ↔ _
      rw [load, bind_eq_ok_iff]
      simp only [mapError_eq_ok_iff, ofText_eq_ok_iff]
      constructor
      · rintro ⟨text, htext, hdecode, hstep⟩
        exact .file hfile htext hdecode hstep
      · rintro (hnone | ⟨hpath, htext, hdecode, hstep⟩)
        · rw [hfile] at hnone
          cases hnone
        · rw [hfile] at hpath
          cases hpath
          exact ⟨_, htext, hdecode, hstep⟩

lemma WorkspaceLayout.load_eq_ok_iff {layout : WorkspaceLayout} :
    WorkspaceLayout.load readText path = .ok layout ↔ ∃ text, readText path = .ok text ∧
      Toml.decode (WorkspaceLayout.ofData .toml) text = .ok layout := by
  rw [load, bind_eq_ok_iff]
  simp only [mapError_eq_ok_iff]

lemma Command.loaded_eq_ok_iff {ws : Workspace} :
    Command.loaded readText path = .ok ws ↔ Workspace.From readText path ws := by
  rw [loaded, bind_eq_ok_iff, Workspace.From]
  simp only [mapError_eq_ok_iff, WorkspaceLayout.load_eq_ok_iff]
  tauto

lemma Command.scriptText_eq_ok_iff {r : WalkRequest} {source : String} :
    Command.scriptText r.readText r.script r.scriptFile = .ok source ↔ r.HasSource source := by
  rw [WalkRequest.HasSource]
  cases hscript : r.script with
  | some text => simp [scriptText]
  | none => cases hfile : r.scriptFile <;> simp [scriptText, mapError_eq_ok_iff]

end Stages

/-! ## All stages -/

namespace WalkRequest

open Run Command

variable (r : WalkRequest)

/-- Looks for everything that the walk needs, in order. -/
def journey : Except Failure Journey := do
  let settings ← (Settings.choose r.readText r.asked r.found).mapError .settings
  let ws ← loaded r.readText r.layout
  let n ← (Start.resolve ws r.start).mapError .start
  let source ← scriptText r.readText r.script r.scriptFile
  let script ← (Script.parse source).mapError (.badScript source)
  return ⟨settings, ws, n, script⟩

variable {r} {j : Journey} {failure : Failure}

/-- **A journey comes about just if everything is there.** -/
theorem journey_eq_ok_iff : r.journey = .ok j ↔ r.Supplies j := by
  simp only [journey, bind_eq_ok_iff, mapError_eq_ok_iff, Settings.choose_eq_ok_iff,
    loaded_eq_ok_iff, scriptText_eq_ok_iff]
  constructor
  · rintro ⟨settings, hsettings, ws, hws, n, hn, source, hsource, script, hscript, ⟨⟩⟩
    exact ⟨hsettings, hws, hn, source, hsource, hscript⟩
  · rintro ⟨hsettings, hws, hn, source, hsource, hscript⟩
    exact ⟨_, hsettings, _, hws, _, hn, source, hsource, _, hscript, rfl⟩

/-- **If a journey fails to come about, the first thing missing is to blame.** -/
theorem lacksFirst_of_journey_eq_error (h : r.journey = .error failure) :
    r.LacksFirst failure := by
  simp only [journey, bind_eq_error_iff, mapError_eq_error_iff, mapError_eq_ok_iff,
    Settings.choose_eq_ok_iff, loaded_eq_ok_iff, scriptText_eq_ok_iff] at h
  rcases h with ⟨e, he, rfl⟩ | ⟨settings, hsettings, h⟩
  · exact .settings he
  have hsettings : r.HasSettings := ⟨settings, hsettings⟩
  rcases h with h | ⟨ws, hws, h⟩
  · simp only [loaded, bind_eq_error_iff, mapError_eq_error_iff, mapError_eq_ok_iff,
      WorkspaceLayout.load_eq_ok_iff] at h
    rcases h with ⟨e, he, rfl⟩ | ⟨layout, ⟨text, htext, hlayout⟩, e, he, rfl⟩
    · exact .layout hsettings he
    · exact .building hsettings htext hlayout he
  rcases h with ⟨e, he, rfl⟩ | ⟨n, hn, h⟩
  · exact .start ⟨hsettings, hws⟩ he
  have hstart : r.HasStart n := ⟨ws, ⟨hsettings, hws⟩, hn⟩
  rcases h with h | ⟨source, hsource, h⟩
  · cases hscript : r.script with
    | some text =>
        rw [hscript] at h
        cases h
    | none =>
        cases hfile : r.scriptFile with
        | none =>
            rw [hscript, hfile] at h
            cases h
            exact .noScript hstart hscript hfile
        | some path =>
            rw [hscript, hfile] at h
            obtain ⟨cause, hcause, rfl⟩ := mapError_eq_error_iff.mp h
            exact .scriptFile hstart hscript hfile hcause
  rcases h with ⟨problems, hproblems, rfl⟩ | ⟨script, -, h⟩
  · exact .script hstart hsource hproblems
  · cases h

end WalkRequest

end BlockCursor
