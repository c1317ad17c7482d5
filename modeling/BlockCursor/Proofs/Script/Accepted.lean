import BlockCursor.Script.Parse
import BlockCursor.Proofs.Script.Reading
import Mathlib.Data.List.Forall2
import Mathlib.Data.List.Induction
import Mathlib.Data.Nat.Digits.Defs

/-!
# The texts that are scripts

The grammar of the steps that mean something: a step is the word of a move, alone or with a count
from one to a thousand.  The parser reads the form of a text first and its meaning second; here the
two stages are put together again.

* `Writes` — a text writes a script.
* `readCount?_eq` — a count is read by its value, however many digits write it.
* `RawStep.Means` — what the second stage accepts, for one step.
* `ofRawSteps_eq_ok_iff` — what it accepts for a row of steps.
* **`parse_decides`** — a text parses to the script that it writes, or is refused if there is none.
-/

namespace BlockCursor.Script

open Text

/-- The word of a move, letter by letter. -/
def word : Move → List Char
  | .next => ['n', 'e', 'x', 't']
  | .prev => ['p', 'r', 'e', 'v']
  | .into => ['i', 'n']
  | .out => ['o', 'u', 't']

/-- The number that a run of decimal digits writes, leading zeros and all. -/
def countValue (digits : List Char) : Nat :=
  Nat.ofDigits 10 (digits.reverse.map fun c => c.toNat - '0'.toNat)

/-- A step as it is written from position `start` on, with what it stands for.  It is counted if it
ends in digits. -/
inductive WrittenStep (start : Nat) : List Char → Spanned Step → Bool → Prop
  | once (m : Move) : WrittenStep start (word m) ⟨⟨m, 1⟩, start, start + (word m).length⟩ false
  | repeated (m : Move) {before after digits : List Char} :
      (∀ c ∈ before, isBlank c = true) → (∀ c ∈ after, isBlank c = true) →
      digits ≠ [] → (∀ c ∈ digits, c.isDigit = true) →
      1 ≤ countValue digits → countValue digits ≤ 1000 →
      WrittenStep start (word m ++ before ++ '*' :: (after ++ digits))
        ⟨⟨m, countValue digits⟩, start,
          start + (word m ++ before ++ '*' :: (after ++ digits)).length⟩ true

/-- A text writes a script: separators and steps in turn, with nothing left over. -/
def Writes (source : String) (script : Script) : Prop :=
  Cut WrittenStep true 0 source.toList script.steps

/-! ## Words and counts -/

lemma isName_word (m : Move) : IsName (word m) := by
  cases m <;> exact ⟨_, _, rfl, by decide, List.all_eq_true.mp (by decide)⟩

lemma ofName?_eq_some_iff {w : List Char} {m : Move} :
    Move.ofName? (String.ofList w) = some m ↔ w = word m := by
  have hname : m.name = String.ofList (word m) := by cases m <;> rfl
  constructor
  · intro h
    have hsome : m.name = String.ofList w := by simpa using List.find?_some h
    rw [hname] at hsome
    exact (String.ofList_injective hsome).symm
  · rintro rfl
    rw [← hname]
    exact Move.ofName?_name m

lemma countValue_append (digits : List Char) (c : Char) :
    countValue (digits ++ [c]) = 10 * countValue digits + (c.toNat - '0'.toNat) := by
  simp only [countValue, List.reverse_append, List.reverse_singleton, List.singleton_append,
    List.map_cons, Nat.ofDigits_cons]
  omega

/-- **A count is read by its value.**  One that 32 bits cannot hold may overflow at any of its
digits; then all that follow only make it larger. -/
lemma readCount?_eq (digits : List Char) : readCount? digits =
    if countValue digits < UInt32.size then some (countValue digits) else none := by
  induction digits using List.reverseRecOn with
  | nil => rfl
  | append_singleton digits c ih =>
      have hlast : readCount? (digits ++ [c]) = (readCount? digits).bind (pushDigit? · c) := by
        simp [readCount?]
      rw [hlast, ih, countValue_append]
      by_cases hfits : countValue digits < UInt32.size
      · rw [if_pos hfits]
        rfl
      · rw [if_neg hfits, if_neg (by omega)]
        rfl

/-! ## The second stage -/

/-- What a step as written stands for, when nothing is wrong with it. -/
def RawStep.Means (raw : RawStep) (step : Spanned Step) : Prop :=
  raw.problems = [] ∧ raw.step? = some step

lemma RawStep.problems_eq_nil_iff {raw : RawStep} :
    raw.problems = [] ↔ ∃ m n, Move.ofName? raw.name.value = some m ∧ raw.repeats = .ok n := by
  unfold problems nameProblems countProblems
  cases Move.ofName? raw.name.value <;> cases raw.repeats <;> simp

lemma RawStep.means_iff {raw : RawStep} {step : Spanned Step} : raw.Means step ↔
    Move.ofName? raw.name.value = some step.value.move ∧ raw.repeats = .ok step.value.count ∧
      step.span = raw.span := by
  obtain ⟨⟨m, n⟩, span⟩ := step
  rw [Means, problems_eq_nil_iff, step?]
  cases Move.ofName? raw.name.value with
  | none => simp
  | some m' =>
      cases raw.repeats with
      | error problem => simp
      | ok n' => simp [and_assoc, eq_comm]

/-- A step with nothing wrong means something. -/
lemma RawStep.exists_means {raw : RawStep} (h : raw.problems = []) : ∃ step, raw.Means step := by
  obtain ⟨m, n, hname, hrepeats⟩ := problems_eq_nil_iff.mp h
  exact ⟨⟨⟨m, n⟩, raw.span⟩, means_iff.mpr ⟨hname, hrepeats, rfl⟩⟩

lemma forall₂_means_iff {raws : List RawStep} {steps : List (Spanned Step)} :
    List.Forall₂ RawStep.Means raws steps ↔
      raws.flatMap RawStep.problems = [] ∧ raws.filterMap RawStep.step? = steps := by
  induction raws generalizing steps with
  | nil => simp [List.forall₂_nil_left_iff, eq_comm]
  | cons raw raws ih =>
      rw [List.flatMap_cons, List.append_eq_nil_iff, List.forall₂_cons_left_iff]
      constructor
      · rintro ⟨step, steps, hmeans, hrest, rfl⟩
        obtain ⟨hproblems, hsteps⟩ := ih.mp hrest
        exact ⟨⟨hmeans.1, hproblems⟩, by rw [List.filterMap_cons_some hmeans.2, hsteps]⟩
      · rintro ⟨⟨hraw, hproblems⟩, hsteps⟩
        obtain ⟨step, hmeans⟩ := RawStep.exists_means hraw
        rw [List.filterMap_cons_some hmeans.2] at hsteps
        exact ⟨step, _, hmeans, ih.mpr ⟨hproblems, rfl⟩, hsteps.symm⟩

/-- The second stage takes a row of steps just if it takes every one of them. -/
lemma ofRawSteps_eq_ok_iff {raws : List RawStep} {script : Script} :
    ofRawSteps raws = .ok script ↔ List.Forall₂ RawStep.Means raws script.steps := by
  rw [forall₂_means_iff]
  unfold ofRawSteps
  split
  · rename_i hproblems
    obtain ⟨steps⟩ := script
    simp [hproblems]
  · rename_i hproblems
    have hne : raws.flatMap RawStep.problems ≠ [] := hproblems
    simp only [hne, false_and, reduceCtorEq]

/-- Of a count as written only the value matters. -/
lemma RawStep.repeats_counted {name : Spanned String} {start : Nat} {digits : List Char} :
    RawStep.repeats { name := name, count := some (written start digits) } =
      if countValue digits = 0 then .error ⟨(written start digits).span, .zeroCount⟩
      else if countValue digits ≤ 1000 then .ok (countValue digits)
      else .error ⟨(written start digits).span, .largeCount (String.ofList digits)⟩ := by
  simp only [repeats, written, String.toList_ofList, readCount?_eq]
  by_cases hfits : countValue digits < UInt32.size
  · rw [if_pos hfits]
    cases countValue digits with
    | zero => rfl
    | succ n => rfl
  · have hsize : UInt32.size = 4294967296 := rfl
    rw [if_neg hfits, if_neg (by omega), if_neg (by omega)]

lemma RawStep.repeats_counted_eq_ok_iff {name : Spanned String} {start n : Nat}
    {digits : List Char} :
    RawStep.repeats { name := name, count := some (written start digits) } = .ok n ↔
      n = countValue digits ∧ 1 ≤ n ∧ n ≤ 1000 := by
  rw [repeats_counted]
  split_ifs <;> simp <;> omega

lemma RawStep.span_counted {start : Nat} {w before after digits : List Char} :
    RawStep.span
      { name := written start w
        count := some (written (start + w.length + before.length + 1 + after.length) digits) } =
      ⟨start, start + (w ++ before ++ '*' :: (after ++ digits)).length⟩ := by
  simp [span, written]
  omega

/-- A step that means something is one as written that the second stage takes. -/
lemma writtenStep_iff {start : Nat} {w : List Char} {step : Spanned Step} {counted : Bool} :
    WrittenStep start w step counted ↔
      ∃ raw, RawStep.Written start w raw counted ∧ raw.Means step := by
  constructor
  · rintro (m | ⟨m, hbefore, hafter, hne, hdigits, hone, hmax⟩)
    · exact ⟨_, .bare (isName_word m),
        RawStep.means_iff.mpr ⟨ofName?_eq_some_iff.mpr rfl, rfl, rfl⟩⟩
    · exact ⟨_, .counted (isName_word m) hbefore hafter hne hdigits, RawStep.means_iff.mpr
        ⟨ofName?_eq_some_iff.mpr rfl, RawStep.repeats_counted_eq_ok_iff.mpr ⟨rfl, hone, hmax⟩,
          RawStep.span_counted.symm⟩⟩
  · obtain ⟨⟨m, n⟩, span⟩ := step
    rintro ⟨raw, hraw, hmeans⟩
    obtain ⟨hmove, hcount, rfl⟩ : Move.ofName? raw.name.value = some m ∧ raw.repeats = .ok n ∧
        span = raw.span := RawStep.means_iff.mp hmeans
    cases hraw with
    | bare hname =>
        obtain rfl := ofName?_eq_some_iff.mp hmove
        cases hcount
        exact .once m
    | counted hname hbefore hafter hne hdigits =>
        obtain rfl := ofName?_eq_some_iff.mp hmove
        obtain ⟨rfl, hone, hmax⟩ := RawStep.repeats_counted_eq_ok_iff.mp hcount
        rw [RawStep.span_counted]
        exact .repeated m hbefore hafter hne hdigits hone hmax

/-! ## The parser -/

/-- A text parses to a script just if it writes it. -/
lemma parse_eq_ok_iff {source : String} {script : Script} :
    parse source = .ok script ↔ Writes source script := by
  have hwrites : Writes source script ↔ ∃ raws, Cut RawStep.Written true 0 source.toList raws ∧
      List.Forall₂ RawStep.Means raws script.steps :=
    Cut.iff_of_pieces @writtenStep_iff
  rw [hwrites]
  simp only [← readSteps_eq_ok_iff, ← ofRawSteps_eq_ok_iff]
  unfold parse
  cases readSteps source.toList with
  | error e => simp
  | ok raws => simp

/-- **The parser decides the grammar.**  A text parses to a script just if it writes that script;
and it is refused, with at least one problem, just if it writes none. -/
theorem parse_decides (source : String) :
    (∀ script, parse source = .ok script ↔ Writes source script) ∧
      ((∃ problem problems, parse source = .error (problem :: problems)) ↔
        ∀ script, ¬ Writes source script) := by
  refine ⟨fun script => parse_eq_ok_iff, ?_, ?_⟩
  · rintro ⟨problem, problems, herror⟩ script hwrites
    rw [← parse_eq_ok_iff, herror] at hwrites
    cases hwrites
  · intro hnone
    cases hparse : parse source with
    | ok script => exact absurd (parse_eq_ok_iff.mp hparse) (hnone script)
    | error problems =>
        obtain ⟨problem, rest, rfl⟩ := List.exists_cons_of_ne_nil (ne_nil_of_parse_eq_error hparse)
        exact ⟨problem, rest, rfl⟩

end BlockCursor.Script
