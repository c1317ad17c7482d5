import BlockCursor.Proofs.Script.Reading
import BlockCursor.Script.Parse

/-!
# Where the form of a text breaks

A text that is not well formed has a longest beginning that some well-formed text has too, and it
breaks right behind it.  Every mode of the reader can still be completed, so the reader goes on just
as long as it has read such a beginning: the place where it stops is that place, and what it says
it expected there is what could have gone on.

* `WellFormed`, `Begins` — the texts that can be cut, and what they can begin with.
* `BreaksAt` — the length of the longest beginning.
* `DigitDue` — a text that stops behind a `*`, before any digit.
* `Mode.begins_cons`, `Mode.begins_nil` — beginnings, one character at a time.
* `Cut.last_piece` — the last piece of a cut, and that it may be exchanged.
* **`parse_locates_break`** — the one problem of a text that is not well formed.
-/

namespace BlockCursor.Script

open Text

/-! ## Beginnings -/

/-- A text can be cut into separators and steps, whatever their names and counts. -/
def WellFormed (text : List Char) : Prop :=
  ∃ raws, Cut RawStep.Written true 0 text raws

/-- Some well-formed text begins with this one. -/
def Begins (text : List Char) : Prop :=
  ∃ rest, WellFormed (text ++ rest)

/-- The first `n` characters of a text are the longest part of it, from its start on, that has the
property `p`. -/
structure LongestPart (p : List Char → Prop) (text : List Char) (n : Nat) : Prop where
  le_length : n ≤ text.length
  holds : p (text.take n)
  longest : ∀ m ≤ text.length, p (text.take m) → m ≤ n

/-- The place where the form of a text breaks: the end of its longest beginning. -/
abbrev BreaksAt (text : List Char) (n : Nat) : Prop :=
  LongestPart Begins text n

/-- A text stops where a digit is due: its last step has a `*`, perhaps with blanks around it, and
nothing behind that. -/
def DigitDue (text : List Char) : Prop :=
  ∃ front before after raws word, text = front ++ before ++ '*' :: after ∧
    (∀ c ∈ before, isBlank c = true) ∧ (∀ c ∈ after, isBlank c = true) ∧
    Cut RawStep.Written true 0 front (raws ++ [{ name := word }]) ∧ word.span.stop = front.length

variable {p : List Char → Prop} {c : Char} {text : List Char} {n : Nat}

lemma LongestPart.nil (h : p []) : LongestPart p [] 0 where
  le_length := Nat.le_refl 0
  holds := h
  longest _ hm _ := hm

/-- Where no part with the next character has the property, the empty part is the longest. -/
lemma LongestPart.zero (h : p []) (hnot : ∀ part, ¬ p (c :: part)) :
    LongestPart p (c :: text) 0 where
  le_length := Nat.zero_le _
  holds := h
  longest m _ hm := by
    cases m with
    | zero => exact Nat.le_refl 0
    | succ m => exact absurd hm (hnot _)

lemma LongestPart.succ (h : LongestPart (fun part => p (c :: part)) text n) :
    LongestPart p (c :: text) (n + 1) where
  le_length := Nat.succ_le_succ h.le_length
  holds := h.holds
  longest m hle hm := by
    cases m with
    | zero => exact Nat.zero_le _
    | succ m => exact Nat.succ_le_succ (h.longest m (Nat.le_of_succ_le_succ hle) hm)

/-! ## Beginnings of what completes a mode -/

section Modes

variable {mode : Mode} {position : Nat} {d : Char} {expected : Expectation} {e : FormError}

/-- Some text that completes the mode begins with this one. -/
def Mode.Begins (mode : Mode) (position : Nat) (text : List Char) : Prop :=
  ∃ rest raws, mode.Rest position (text ++ rest) raws

/-- The text can end in every mode but where a digit is due. -/
lemma Mode.eq_times_of_finish (h : mode.finish position = .error expected) :
    expected = .digit ∧ ∃ word, mode = .times word := by
  cases mode with
  | times word =>
      cases h
      exact ⟨rfl, word, rfl⟩
  | free | comment | name | gap | digits => cases h

/-- **Every mode can be completed**: where a digit is due with a digit, and else with nothing. -/
lemma Mode.begins_nil (mode : Mode) (position : Nat) : mode.Begins position [] := by
  cases hfinish : mode.finish position with
  | ok done => exact ⟨[], _, (rest_nil mode).mpr ⟨done, hfinish, rfl⟩⟩
  | error expected =>
      obtain ⟨-, word, rfl⟩ := eq_times_of_finish hfinish
      exact ⟨['0'], _, (readStepsFrom_eq_ok_iff _).mp rfl⟩

lemma Mode.begins_of_ok {done : Option RawStep} {mode' : Mode}
    (h : mode.advance position c = .ok (done, mode')) :
    mode.Begins position (c :: text) ↔ mode'.Begins (position + 1) text := by
  unfold Begins
  simp only [List.cons_append, rest_cons, h, leaves_ok]
  constructor
  · rintro ⟨rest, _, raws, -, hrest⟩
    exact ⟨rest, raws, hrest⟩
  · rintro ⟨rest, raws, hrest⟩
    exact ⟨rest, _, raws, rfl, hrest⟩

lemma Mode.not_begins_of_error (h : mode.advance position c = .error expected) :
    ¬ mode.Begins position (c :: text) := by
  rintro ⟨rest, raws, hrest⟩
  rw [List.cons_append, rest_cons, h] at hrest
  exact not_leaves_error hrest

/-- What may come next is what the reader takes. -/
lemma Mode.begins_singleton :
    mode.Begins position [c] ↔ (mode.advance position c).isOk = true := by
  cases h : mode.advance position c with
  | error expected => simpa [Except.isOk, Except.toBool] using not_begins_of_error h
  | ok answer => simpa [Except.isOk, Except.toBool, begins_of_ok h] using begins_nil _ _

/-! ## What is said to be expected -/

/-- The characters that a message can name. -/
def marks : List Char := ['#', '*', ',']

/-- The characters that are named where something else was expected. -/
def Expectation.characters : Expectation → List Char
  | .digit => []
  | .separator => ['#', ',']
  | .separatorOrCount => ['#', '*', ',']

lemma Mode.eq_of_beginAfter_error {step : Option RawStep} {expected' : Expectation}
    (h : beginAfter step expected position d = .error expected') : expected' = expected := by
  unfold beginAfter at h
  cases hbegin : begin? position d with
  | some mode =>
      rw [hbegin] at h
      cases h
  | none =>
      rw [hbegin] at h
      cases h
      rfl

/-- **A complaint names what the mode would have taken**, out of the characters it can name. -/
lemma Mode.characters_of_advance (h : mode.advance position d = .error expected) :
    expected.characters = marks.filter fun c => (mode.advance position c).isOk := by
  cases mode with
  | free =>
      rw [eq_of_beginAfter_error h]
      rfl
  | comment => cases h
  | name start collected =>
      rw [advance] at h
      split_ifs at h
      rw [eq_of_beginAfter_error h]
      rfl
  | gap word =>
      rw [advance] at h
      split_ifs at h
      rw [eq_of_beginAfter_error h]
      rfl
  | times word =>
      rw [advance] at h
      split_ifs at h
      cases h
      rfl
  | digits word start collected =>
      rw [advance] at h
      split_ifs at h
      rw [eq_of_beginAfter_error h]
      rfl

/-! ## Where the reader stops -/

/-- At the end of a text the reader fails only where a digit is due. -/
lemma eq_of_readStepsFrom_nil (h : readStepsFrom mode position [] = .error e) :
    e = ⟨position, none, .digit⟩ ∧ ∃ word, mode = .times word := by
  rw [readStepsFrom] at h
  cases hfinish : mode.finish position with
  | ok done => simp [hfinish] at h
  | error expected =>
      obtain ⟨rfl, hmode⟩ := Mode.eq_times_of_finish hfinish
      rw [hfinish] at h
      cases h
      exact ⟨rfl, hmode⟩

/-- Before the end it fails at a character that its mode does not take, or goes on and fails
later. -/
lemma cases_of_readStepsFrom_cons (h : readStepsFrom mode position (c :: text) = .error e) :
    (∃ expected, mode.advance position c = .error expected ∧ e = ⟨position, some c, expected⟩) ∨
    ∃ done mode', mode.advance position c = .ok (done, mode') ∧
      readStepsFrom mode' (position + 1) text = .error e := by
  rw [readStepsFrom] at h
  cases hadvance : mode.advance position c with
  | error expected =>
      rw [hadvance] at h
      cases h
      exact Or.inl ⟨expected, rfl, rfl⟩
  | ok answer =>
      obtain ⟨done, mode'⟩ := answer
      simp only [hadvance] at h
      cases hrest : readStepsFrom mode' (position + 1) text with
      | ok raws => simp [hrest] at h
      | error e' =>
          rw [hrest] at h
          cases h
          exact Or.inr ⟨done, mode', rfl, hrest⟩

/-- **Where the reader stops**: right behind the longest text that it could have gone on from, with
a complaint that names what it would have taken there. -/
lemma breaks_of_readStepsFrom (h : readStepsFrom mode position text = .error e) :
    ∃ n, e.position = position + n ∧ e.found = text[n]? ∧
      LongestPart (mode.Begins position) text n ∧ e.expected.characters.Sublist marks ∧
      ∀ c ∈ marks, c ∈ e.expected.characters ↔ mode.Begins position (text.take n ++ [c]) := by
  have hnames : ∀ {mode : Mode} {position : Nat} {expected : Expectation},
      expected.characters = (marks.filter fun c => (mode.advance position c).isOk) →
        expected.characters.Sublist marks ∧
          ∀ c ∈ marks, c ∈ expected.characters ↔ mode.Begins position [c] := by
    intro mode position expected heq
    rw [heq]
    refine ⟨List.filter_sublist, fun c hc => ?_⟩
    rw [List.mem_filter, Mode.begins_singleton]
    exact and_iff_right hc
  induction text generalizing mode position with
  | nil =>
      obtain ⟨rfl, word, rfl⟩ := eq_of_readStepsFrom_nil h
      exact ⟨0, rfl, rfl, .nil (Mode.begins_nil _ _), hnames rfl⟩
  | cons c text ih =>
      rcases cases_of_readStepsFrom_cons h with
        ⟨expected, hadvance, rfl⟩ | ⟨done, mode', hok, hrest⟩
      · exact ⟨0, rfl, rfl, .zero (Mode.begins_nil _ _) fun _ => Mode.not_begins_of_error hadvance,
          hnames (Mode.characters_of_advance hadvance)⟩
      · obtain ⟨n, hposition, hfound, hlongest, hsub, hmem⟩ := ih hrest
        refine ⟨n + 1, by omega, hfound, .succ ?_, hsub, ?_⟩
        · simpa only [Mode.begins_of_ok hok] using hlongest
        · simpa only [List.take_succ_cons, List.cons_append, Mode.begins_of_ok hok] using hmem

/-- Where a text ends too early, one more digit makes it well formed, and that digit is the count
of the last step. -/
lemma readStepsFrom_digit (h : readStepsFrom mode position text = .error e)
    (hend : e.found = none) :
    ∃ raws word, readStepsFrom mode position (text ++ ['0']) =
      .ok (raws ++ [{ name := word, count := some (written (position + text.length) ['0']) }]) := by
  induction text generalizing mode position with
  | nil =>
      obtain ⟨-, word, rfl⟩ := eq_of_readStepsFrom_nil h
      exact ⟨[], word, rfl⟩
  | cons c text ih =>
      rcases cases_of_readStepsFrom_cons h with ⟨_, _, rfl⟩ | ⟨done, mode', hok, hrest⟩
      · cases hend
      · obtain ⟨raws, word, hdigit⟩ := ih hrest
        refine ⟨done.toList ++ raws, word, ?_⟩
        simp only [List.cons_append, readStepsFrom, hok, hdigit, add_length_cons]
        simp

end Modes

/-! ## Where a digit is due -/

section LastPiece

variable {α : Type} {piece : Nat → List Char → α → Bool → Prop} {tight : Bool} {start : Nat}
  {x : α} {xs : List α}

/-- **The last piece of a cut**, which may be exchanged for any other piece at its place. -/
lemma Cut.last_piece (h : Cut piece tight start text (xs ++ [x])) :
    ∃ front w tail counted, text = front ++ w ++ tail ∧ piece (start + front.length) w x counted ∧
      ∀ w' x' counted', piece (start + front.length) w' x' counted' →
        Cut piece tight start (front ++ w') (xs ++ [x']) := by
  generalize hxs : xs ++ [x] = ys at h
  induction h generalizing xs with
  | last _ => simp at hxs
  | @step tight counted start s w rest y ys hs htight hw hrest ih =>
      cases xs with
      | nil =>
          obtain ⟨rfl, rfl⟩ := List.cons.inj hxs
          refine ⟨s, w, rest, counted, rfl, hw, fun w' x' counted' hw' => ?_⟩
          simpa using Cut.step hs htight hw' (.last (s := []) .nil)
      | cons z zs =>
          obtain ⟨rfl, hys⟩ := List.cons.inj hxs
          obtain ⟨front, u, tail, counted', rfl, hu, hexchange⟩ := ih hys
          have hstart : start + (s ++ w ++ front).length =
              start + s.length + w.length + front.length := by
            simp only [List.length_append]
            omega
          refine ⟨s ++ w ++ front, u, tail, counted', by simp, hstart ▸ hu, ?_⟩
          intro u' x' counted'' hu'
          rw [hstart] at hu'
          simpa using Cut.step hs htight hw (hexchange u' x' counted'' hu')

end LastPiece

lemma written_inj {m k : Nat} {u v : List Char} (h : written m u = written k v) :
    m = k ∧ u = v := by
  obtain ⟨hvalue, hspan⟩ := Spanned.mk.inj h
  exact ⟨(Span.mk.inj hspan).1, String.ofList_injective hvalue⟩

/-- A digit is due just where one more digit makes a step with that digit as its count. -/
lemma digitDue_iff : DigitDue text ↔ ∃ raws word, Cut RawStep.Written true 0 (text ++ ['0'])
    (raws ++ [{ name := word, count := some (written text.length ['0']) }]) := by
  constructor
  · rintro ⟨front, before, after, raws, word, rfl, hbefore, hafter, hcut, hstop⟩
    obtain ⟨f, w, tail, counted, rfl, hw, hexchange⟩ := hcut.last_piece
    cases hw with
    | bare hname =>
        have htail : tail = [] := by simpa [written] using hstop
        subst htail
        have hlong := hexchange _ _ _ (.counted hname hbefore hafter
          (show ['0'] ≠ [] by simp) (by simp))
        refine ⟨raws, written (0 + f.length) w, ?_⟩
        have hlength : (f ++ w ++ [] ++ before ++ '*' :: after).length =
            0 + f.length + w.length + before.length + 1 + after.length := by
          simp
          omega
        rw [hlength]
        simpa using hlong
  · rintro ⟨raws, word, hcut⟩
    obtain ⟨f, w, tail, counted, htext, hw, hexchange⟩ := hcut.last_piece
    generalize hraw : ({ name := word, count := some (written text.length ['0']) } : RawStep) = raw
      at hw
    cases hw with
    | bare hname => cases hraw
    | @counted name before after digits hname hbefore hafter hne hdigits =>
        obtain ⟨hlength, rfl⟩ := written_inj (Option.some.inj (RawStep.mk.inj hraw).2)
        have htail : tail = [] := by
          have hcount := congrArg List.length htext
          simp only [List.length_append, List.length_cons, List.length_nil] at hcount
          exact List.eq_nil_of_length_eq_zero (by omega)
        subst htail
        have hfront : text = (f ++ name) ++ before ++ '*' :: after := by
          refine (List.append_left_inj ['0']).mp ?_
          simpa using htext
        exact ⟨f ++ name, before, after, raws, _, hfront, hbefore, hafter,
          hexchange _ _ _ (.bare hname), by simp [written]⟩

/-! ## The one problem -/

/-- How a message tells what was expected and what was found. -/
def complaint (expected : List Char) (found : Option Char) : String :=
  if expected = [] then "unexpected " ++ foundText found
  else "expected " ++ String.intercalate " or " (expected.map fun c => foundText (some c)) ++
    ", found " ++ foundText found

lemma message_form (expected : Expectation) (found : Option Char) :
    (Cause.form found expected).message = complaint expected.characters found := by
  cases expected with
  | digit => rfl
  | separator =>
      rw [complaint, if_neg (by decide)]
      have htext : "expected '#' or ',', found " = "expected " ++ String.intercalate " or "
        (['#', ','].map fun c => foundText (some c)) ++ ", found " := by decide
      exact congrArg (· ++ foundText found) htext
  | separatorOrCount =>
      rw [complaint, if_neg (by decide)]
      have htext : "expected '#' or '*' or ',', found " = "expected " ++ String.intercalate " or "
        (['#', '*', ','].map fun c => foundText (some c)) ++ ", found " := by decide
      exact congrArg (· ++ foundText found) htext

/-- **The one problem of a text that is not well formed.**  It lies right behind the longest
beginning, at the character there or at the end of the text.  Its message names those of the three
marks that could have gone on from there, and what was found; the end of the text is found just
where a digit is due. -/
theorem parse_locates_break (source : String) (h : ¬ WellFormed source.toList) :
    ∃ n expected problem, parse source = .error [problem] ∧ BreaksAt source.toList n ∧
      problem.span = ⟨n, min (n + 1) source.toList.length⟩ ∧
      expected.Sublist ['#', '*', ','] ∧
      (∀ c ∈ ['#', '*', ','], c ∈ expected ↔ Begins (source.toList.take n ++ [c])) ∧
      problem.diagnostic.message = complaint expected source.toList[n]? ∧
      problem.diagnostic.label = none ∧
      (source.toList[n]? = none ↔ DigitDue source.toList) := by
  cases hread : readSteps source.toList with
  | ok raws => exact absurd ⟨raws, readSteps_eq_ok_iff.mp hread⟩ h
  | error e =>
      obtain ⟨n, hposition, hfound, hlongest, hsub, hmem⟩ := breaks_of_readStepsFrom hread
      have hbreaks : BreaksAt source.toList n := hlongest
      rw [Nat.zero_add] at hposition
      refine ⟨n, e.expected.characters, e.problem, ?_, hbreaks, ?_, hsub, hmem, ?_, rfl, ?_⟩
      · rw [parse, hread]
      · have hle := hbreaks.le_length
        rw [FormError.problem, hposition, hfound]
        by_cases hn : n < source.toList.length
        · rw [List.getElem?_eq_getElem hn, Nat.min_eq_left hn]
          rfl
        · rw [List.getElem?_eq_none (Nat.le_of_not_lt hn), Nat.min_eq_right (by omega),
            Nat.le_antisymm hle (Nat.le_of_not_lt hn)]
          rfl
      · rw [← hfound]
        exact message_form _ _
      · rw [digitDue_iff]
        constructor
        · intro hend
          obtain ⟨raws, word, hok⟩ := readStepsFrom_digit hread (hfound.trans hend)
          rw [Nat.zero_add] at hok
          exact ⟨raws, word, readSteps_eq_ok_iff.mp hok⟩
        · rintro ⟨raws, word, hcut⟩
          -- the whole text can be gone on from, so it is its own longest beginning
          refine List.getElem?_eq_none (hbreaks.longest _ (Nat.le_refl _) ?_)
          rw [List.take_length]
          exact ⟨['0'], _, hcut⟩

/-- A stray character behind a name and a blank, where a digit is not due. -/
theorem break_at_stray_character :
    ¬ WellFormed "next, out !".toList ∧ ∃ problem, parse "next, out !" = .error [problem] ∧
      BreaksAt "next, out !".toList 10 ∧ problem.span = ⟨10, 11⟩ ∧
      ¬ DigitDue "next, out !".toList := by
  have hread : readSteps "next, out !".toList = .error ⟨10, some '!', .separatorOrCount⟩ := rfl
  have hbroken : ¬ WellFormed "next, out !".toList := by
    rintro ⟨raws, hcut⟩
    rw [← readSteps_eq_ok_iff, hread] at hcut
    cases hcut
  obtain ⟨n, _, problem, hparse, hbreaks, hspan, -, -, -, -, hdue⟩ :=
    parse_locates_break "next, out !" hbroken
  have hproblem : problem = ⟨⟨10, 11⟩, .form (some '!') .separatorOrCount⟩ := by
    rw [parse, hread] at hparse
    cases hparse
    rfl
  obtain rfl : n = 10 := by
    rw [hproblem] at hspan
    exact (Span.mk.inj hspan).1.symm
  exact ⟨hbroken, problem, hparse, hbreaks, by rw [hproblem], fun h => nomatch hdue.mpr h⟩

end BlockCursor.Script
