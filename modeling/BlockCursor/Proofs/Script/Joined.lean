import BlockCursor.Proofs.Script.Complaints

/-!
# Texts joined by a line break

Two well-formed texts with a line break between them are one well-formed text, with the steps of the
first and then those of the second, further on.  The line break separates, whatever the first text
ends in: it ends a comment, and it is blank behind anything else.  A name at the end of the first
text could still be given a count behind the blank, but no well-formed text begins with one.

* `Separator.line_break`, `Cut.line_break` — separators and cuts across a line break.
* `Cut.shift` — a cut of the same text at a later position.
* `readSteps_joined` — the steps of two texts joined by a line break.
* **`problems_joined`**, **`parse_joined_eq_ok_iff`** — what is wrong with them, and their script.
-/

namespace BlockCursor.Script

open Text

/-! ## Across a line break -/

/-- A line break ends whatever separator stands in front of it. -/
lemma Separator.line_break {last last' : Bool} {s t : List Char} (hs : Separator last s)
    (ht : Separator last' t) : Separator last' (s ++ '\n' :: t) := by
  induction hs with
  | nil => exact .blank (by decide) ht
  | blank hc _ ih => exact .blank hc ih
  | comma _ ih => exact .comma ih
  | comment hbody _ ih => simpa using Separator.comment hbody ih
  | unclosed _ hbody => exact .comment hbody ht

section Cuts

variable {α : Type} {piece : Nat → List Char → α → Bool → Prop} {tight : Bool} {start n : Nat}
  {text text' : List Char} {xs ys : List α}

/-- Two cuts with a line break between their texts are one. -/
lemma Cut.line_break (h : Cut piece tight start text xs)
    (h' : Cut piece true (start + text.length + 1) text' ys) :
    Cut piece tight start (text ++ '\n' :: text') (xs ++ ys) := by
  induction h with
  | @last tight start s hs =>
      have hseparates : ∀ last t, Separator last t → Separator last (s ++ ['\n'] ++ t) := by
        intro last t ht
        simpa using hs.line_break ht
      have hcut : Cut piece tight start (s ++ ['\n'] ++ text') ys :=
        Cut.prepend hseparates (by simp) (by simpa [Nat.add_assoc] using h')
      simpa using hcut
  | @step tight counted start s w rest x xs hs htight hw _ ih =>
      have hlength : start + (s ++ w ++ rest).length =
          start + s.length + w.length + rest.length := by
        simp only [List.length_append]
        omega
      rw [hlength] at h'
      rw [List.append_assoc]
      exact .step hs htight hw (ih h')

/-- A text is cut in the same way `n` characters further on. -/
lemma Cut.shift {f : α → α} (hpiece : ∀ start w x counted, piece start w x counted →
      piece (start + n) w (f x) counted) (h : Cut piece tight start text xs) :
    Cut piece tight (start + n) text (xs.map f) := by
  induction h with
  | last hs => exact .last hs
  | step hs htight hw _ ih =>
      exact .step_at hs htight (hpiece _ _ _ _ hw) ih (Nat.add_right_comm _ _ _)
        (Nat.add_right_comm _ _ _)

end Cuts

/-! ## Steps further on -/

/-- The same problem, `n` characters further on. -/
def Problem.shift (n : Nat) (p : Problem) : Problem :=
  ⟨p.span.shift n, p.cause⟩

namespace RawStep

/-- The same step, written `n` characters further on. -/
def shift (n : Nat) (raw : RawStep) : RawStep :=
  ⟨raw.name.shift n, raw.count.map (Spanned.shift n)⟩

variable {n start : Nat} {w : List Char} {raw : RawStep} {counted : Bool}

lemma shift_written : (written start w).shift n = written (start + n) w := by
  simp only [written, Spanned.shift, Span.shift, Nat.add_right_comm]

lemma Written.shift (h : Written start w raw counted) :
    Written (start + n) w (raw.shift n) counted := by
  cases h with
  | bare hname =>
      simp only [RawStep.shift, shift_written]
      exact .bare hname
  | @counted w before after digits hname hbefore hafter hne hdigits =>
      simp only [RawStep.shift, Option.map_some, shift_written]
      have hat : start + w.length + before.length + 1 + after.length + n =
          start + n + w.length + before.length + 1 + after.length := by omega
      rw [hat]
      exact .counted hname hbefore hafter hne hdigits

lemma span_shift (n : Nat) (raw : RawStep) : (raw.shift n).span = raw.span.shift n := by
  obtain ⟨name, count⟩ := raw
  cases count <;> rfl

/-- The count of a step is the same further on, and so is the complaint about it. -/
lemma repeats_shift (n : Nat) (raw : RawStep) :
    (raw.shift n).repeats = raw.repeats.mapError (Problem.shift n) := by
  obtain ⟨name, count⟩ := raw
  cases count with
  | none => rfl
  | some digits =>
      simp only [repeats, RawStep.shift, Option.map_some, Spanned.shift]
      cases readCount? digits.value.toList with
      | none => rfl
      | some value =>
          cases value with
          | zero => rfl
          | succ value =>
              simp only
              split_ifs <;> rfl

lemma problems_shift (n : Nat) (raw : RawStep) :
    (raw.shift n).problems = raw.problems.map (Problem.shift n) := by
  have hname : (raw.shift n).nameProblems = raw.nameProblems.map (Problem.shift n) := by
    simp only [nameProblems, RawStep.shift, Spanned.shift]
    cases Move.ofName? raw.name.value <;> rfl
  have hcount : (raw.shift n).countProblems = raw.countProblems.map (Problem.shift n) := by
    rw [countProblems, countProblems, repeats_shift]
    cases raw.repeats <;> rfl
  rw [problems, problems, hname, hcount, List.map_append]

lemma step?_shift (n : Nat) (raw : RawStep) :
    (raw.shift n).step? = raw.step?.map (Spanned.shift n) := by
  rw [step?, step?, repeats_shift, span_shift]
  simp only [RawStep.shift, Spanned.shift]
  cases Move.ofName? raw.name.value <;> cases raw.repeats <;> rfl

end RawStep

/-! ## Two texts -/

variable {a b : String} {raws raws' : List RawStep}

/-- **The steps of two texts joined by a line break** are those of the first, and then those of the
second behind it. -/
lemma readSteps_joined (ha : readSteps a.toList = .ok raws) (hb : readSteps b.toList = .ok raws') :
    readSteps (a ++ "\n" ++ b).toList = .ok (raws ++ raws'.map (RawStep.shift (a.length + 1))) := by
  rw [readSteps_eq_ok_iff] at ha hb ⊢
  have hbehind : Cut RawStep.Written true (0 + a.toList.length + 1) b.toList
      (raws'.map (RawStep.shift (a.length + 1))) := by
    rw [String.length_toList, Nat.add_assoc]
    exact hb.shift fun _ _ _ _ => RawStep.Written.shift
  simpa using ha.line_break hbehind

lemma exists_readSteps (h : WellFormed a.toList) : ∃ raws, readSteps a.toList = .ok raws := by
  obtain ⟨raws, hcut⟩ := h
  exact ⟨raws, readSteps_eq_ok_iff.mpr hcut⟩

lemma wellFormed_joined (ha : WellFormed a.toList) (hb : WellFormed b.toList) :
    WellFormed (a ++ "\n" ++ b).toList := by
  obtain ⟨raws, hreadA⟩ := exists_readSteps ha
  obtain ⟨raws', hreadB⟩ := exists_readSteps hb
  exact ⟨_, readSteps_eq_ok_iff.mp (readSteps_joined hreadA hreadB)⟩

/-- **What is wrong with two texts joined by a line break** is what is wrong with the first, and
then what is wrong with the second. -/
lemma problems_joined (ha : WellFormed a.toList) (hb : WellFormed b.toList) :
    problems (a ++ "\n" ++ b) = problems a ++ (problems b).map (Problem.shift (a.length + 1)) := by
  obtain ⟨raws, hreadA⟩ := exists_readSteps ha
  obtain ⟨raws', hreadB⟩ := exists_readSteps hb
  rw [problems_of_readSteps hreadA, problems_of_readSteps hreadB,
    problems_of_readSteps (readSteps_joined hreadA hreadB), List.flatMap_append, List.flatMap_map,
    List.map_flatMap]
  simp only [RawStep.problems_shift]

lemma parse_eq_ok_iff_of_readSteps {source : String} {script : Script}
    (h : readSteps source.toList = .ok raws) : parse source = .ok script ↔
      raws.flatMap RawStep.problems = [] ∧ raws.filterMap RawStep.step? = script.steps := by
  rw [parse, h, ← forall₂_means_iff, ← ofRawSteps_eq_ok_iff]

/-- **Two texts joined by a line break write a script** just if each of them does, and then its
steps are those of the first and then those of the second. -/
lemma parse_joined_eq_ok_iff (ha : WellFormed a.toList) (hb : WellFormed b.toList)
    {script : Script} : parse (a ++ "\n" ++ b) = .ok script ↔
      ∃ first second, parse a = .ok first ∧ parse b = .ok second ∧
        script.steps = first.steps ++ second.steps.map (Spanned.shift (a.length + 1)) := by
  obtain ⟨raws, hreadA⟩ := exists_readSteps ha
  obtain ⟨raws', hreadB⟩ := exists_readSteps hb
  have hproblems :
      (raws ++ raws'.map (RawStep.shift (a.length + 1))).flatMap RawStep.problems = [] ↔
        raws.flatMap RawStep.problems = [] ∧ raws'.flatMap RawStep.problems = [] := by
    rw [List.flatMap_append, List.flatMap_map, List.append_eq_nil_iff]
    simp only [RawStep.problems_shift, ← List.map_flatMap, List.map_eq_nil_iff]
  have hsteps : (raws ++ raws'.map (RawStep.shift (a.length + 1))).filterMap RawStep.step? =
      raws.filterMap RawStep.step? ++
        (raws'.filterMap RawStep.step?).map (Spanned.shift (a.length + 1)) := by
    rw [List.filterMap_append, List.filterMap_map, List.map_filterMap]
    simp only [Function.comp_def, RawStep.step?_shift]
  rw [parse_eq_ok_iff_of_readSteps (readSteps_joined hreadA hreadB), hproblems, hsteps]
  simp only [parse_eq_ok_iff_of_readSteps hreadA, parse_eq_ok_iff_of_readSteps hreadB]
  constructor
  · rintro ⟨⟨hnoneA, hnoneB⟩, hscript⟩
    exact ⟨⟨_⟩, ⟨_⟩, ⟨hnoneA, rfl⟩, ⟨hnoneB, rfl⟩, hscript.symm⟩
  · rintro ⟨first, second, ⟨hnoneA, hfirst⟩, ⟨hnoneB, hsecond⟩, hscript⟩
    exact ⟨⟨hnoneA, hnoneB⟩, by rw [hscript, hfirst, hsecond]⟩

end BlockCursor.Script
