import BlockCursor.Script.Problem

/-!
# From text to script

A text is read in two stages.  The first reads its form (`readSteps`) and stops at the first place
where it is broken.  The second looks at every step as written: its name has to be a move and its
count has to lie between one and `Step.maxCount`.  The second stage keeps every problem it finds, at
most two per step, in the order in which they are written.

* `readCount?` — the number that digits write, where it fits into 32 bits.
* `RawStep.problems`, `RawStep.step?` — the second stage for one step.
* `parse` — both stages for a whole text.
* `problems` — everything that is wrong with a text.
-/

namespace BlockCursor.Script

open Text

/-- A number with one more digit behind it, unless 32 bits cannot hold that. -/
def pushDigit? (value : Nat) (c : Char) : Option Nat :=
  let longer := 10 * value + (c.toNat - '0'.toNat)
  if longer < UInt32.size then some longer else none

/-- The number that a row of decimal digits writes, unless 32 bits cannot hold it. -/
def readCount? (digits : List Char) : Option Nat :=
  digits.foldlM pushDigit? 0

namespace RawStep

/-- What is wrong with the name of a step. -/
def nameProblems (r : RawStep) : List Problem :=
  match Move.ofName? r.name.value with
  | some _ => []
  | none => [⟨r.name.span, .unknownMove r.name.value⟩]

/-- How often a step is made: once, unless it says otherwise.  A count of zero, one that is too
large and one that cannot be held are problems. -/
def repeats (r : RawStep) : Except Problem Nat :=
  match r.count with
  | none => .ok 1
  | some digits =>
    match readCount? digits.value.toList with
    | some 0 => .error ⟨digits.span, .zeroCount⟩
    | some n =>
      if n ≤ Step.maxCount then .ok n else .error ⟨digits.span, .largeCount digits.value⟩
    | none => .error ⟨digits.span, .largeCount digits.value⟩

/-- What is wrong with the count of a step. -/
def countProblems (r : RawStep) : List Problem :=
  match r.repeats with
  | .ok _ => []
  | .error problem => [problem]

/-- Everything that is wrong with a step, name first. -/
def problems (r : RawStep) : List Problem :=
  r.nameProblems ++ r.countProblems

/-- The step that is meant, when its name is a move and its count can be used. -/
def step? (r : RawStep) : Option (Spanned Step) :=
  match Move.ofName? r.name.value, r.repeats with
  | some move, .ok n => some ⟨⟨move, n⟩, r.span⟩
  | _, _ => none

end RawStep

/-- The script that a row of steps stands for, or all the problems with them. -/
def ofRawSteps (steps : List RawStep) : Except (List Problem) Script :=
  match steps.flatMap RawStep.problems with
  | [] => .ok ⟨steps.filterMap RawStep.step?⟩
  | problems => .error problems

/-- The script that a text writes, or what is wrong with it: one problem of form, or else every
problem with its steps. -/
def parse (source : String) : Except (List Problem) Script :=
  match readSteps source.toList with
  | .ok steps => ofRawSteps steps
  | .error e => .error [e.problem]

/-- Everything that is wrong with a text. -/
def problems (source : String) : List Problem :=
  match parse source with
  | .ok _ => []
  | .error problems => problems

/-- A refusal names at least one problem. -/
theorem ne_nil_of_parse_eq_error {source : String} {problems : List Problem}
    (h : parse source = .error problems) : problems ≠ [] := by
  unfold parse ofRawSteps at h
  split at h
  · split at h
    · cases h
    · rename_i hne
      cases h
      exact hne
  · cases h
    simp

end BlockCursor.Script
