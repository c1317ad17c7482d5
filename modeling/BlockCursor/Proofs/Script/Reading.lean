import BlockCursor.Proofs.Script.Grammar

/-!
# What a reader in the middle of a text accepts

A `Mode` stands for a beginning of a text.  `Mode.Rest` says which texts complete that beginning,
and which steps they add, in the terms of the grammar and without the reader.  The reader is right
because both move alike: taking one character off such a text is taking one step of the reader.

* `Run` — characters of one sort, and then something else.
* `After`, `Mode.Rest` — what may follow a name, and what may follow a mode.
* `cut_cons` — how a cut begins.
* `Mode.rest_cons`, `Mode.rest_nil` — one character, and the end of the text.
* **`readSteps_eq_ok_iff`** — a text is read as the steps that it is cut into, or not at all.
-/

namespace BlockCursor.Script

open Text

/-! ## Sorts of characters -/

lemma isDigit_iff {c : Char} : c.isDigit = true ↔ 48 ≤ c.toNat ∧ c.toNat ≤ 57 := by
  simp only [Char.isDigit, Bool.and_eq_true, decide_eq_true_eq, ge_iff_le, UInt32.le_iff_toNat_le]
  rfl

lemma isNameStart_iff {c : Char} : isNameStart c = true ↔
    (65 ≤ c.toNat ∧ c.toNat ≤ 90) ∨ (97 ≤ c.toNat ∧ c.toNat ≤ 122) ∨ c.toNat = 95 := by
  have hunderscore : c = '_' ↔ c.toNat = 95 := Char.toNat_inj.symm
  rw [isNameStart]
  delta Char.isAlpha Char.isUpper Char.isLower
  simp only [Bool.or_eq_true, Bool.and_eq_true, decide_eq_true_eq, ge_iff_le,
    UInt32.le_iff_toNat_le, beq_iff_eq, hunderscore]
  exact or_assoc

lemma isNamePart_iff {c : Char} :
    isNamePart c = true ↔ isNameStart c = true ∨ c.isDigit = true := by
  simp only [isNamePart, isNameStart, Char.isAlphanum, Bool.or_eq_true]
  tauto

lemma isBlank_not {c : Char} (h : isBlank c = true) :
    isNamePart c = false ∧ c ≠ '*' ∧ c ≠ ',' ∧ c ≠ '#' := by
  have hcode : c.toNat < 48 ∧ c.toNat ≠ 42 ∧ c.toNat ≠ 44 ∧ c.toNat ≠ 35 ∨ 123 ≤ c.toNat := by
    simp only [isBlank, Bool.or_eq_true, Bool.and_eq_true, decide_eq_true_eq, beq_iff_eq] at h
    omega
  refine ⟨?_, ?_, ?_, ?_⟩
  · rw [← Bool.not_eq_true, isNamePart_iff, isNameStart_iff, isDigit_iff]
    omega
  all_goals
    rintro rfl
    exact absurd hcode (by decide)

lemma isNameStart_of_isBlank {c : Char} (h : isBlank c = true) : isNameStart c = false :=
  Bool.eq_false_iff.mpr fun hname => by
    have hpart := (isBlank_not h).1
    exact absurd (isNamePart_iff.mpr (.inl hname)) (by simp [hpart])

lemma isNameStart_of_isDigit {c : Char} (h : c.isDigit = true) : isNameStart c = false := by
  rw [isDigit_iff] at h
  rw [← Bool.not_eq_true, isNameStart_iff]
  omega

lemma isNamePart_ne {c : Char} (h : isNamePart c = true) :
    isBlank c = false ∧ c ≠ '*' ∧ c ≠ ',' ∧ c ≠ '#' := by
  refine ⟨?_, ?_, ?_, ?_⟩
  · exact Bool.eq_false_iff.mpr fun hblank => by simp [(isBlank_not hblank).1] at h
  all_goals
    rintro rfl
    exact absurd h (by decide)

/-! ## Runs of one sort of character -/

/-- Characters of one sort, and then a rest; what is asked of the two is said by `q`. -/
def Run (p : Char → Prop) (q : List Char → List Char → Prop) (text : List Char) : Prop :=
  ∃ more rest, text = more ++ rest ∧ (∀ c ∈ more, p c) ∧ q more rest

variable {p : Char → Prop} {q : List Char → List Char → Prop} {c : Char} {text : List Char}

lemma run_nil : Run p q [] ↔ q [] [] := by
  constructor
  · rintro ⟨more, rest, heq, -, hq⟩
    obtain ⟨rfl, rfl⟩ := List.append_eq_nil_iff.mp heq.symm
    exact hq
  · exact fun hq => ⟨[], [], rfl, by simp, hq⟩

lemma run_cons :
    Run p q (c :: text) ↔ q [] (c :: text) ∨ p c ∧ Run p (fun more => q (c :: more)) text := by
  constructor
  · rintro ⟨more, rest, heq, hmore, hq⟩
    cases more with
    | nil => exact .inl (by simpa [heq] using hq)
    | cons d more =>
        obtain ⟨rfl, rfl⟩ := List.cons.inj heq
        rw [List.forall_mem_cons] at hmore
        exact .inr ⟨hmore.1, more, rest, rfl, hmore.2, hq⟩
  · rintro (hq | ⟨hc, more, rest, rfl, hmore, hq⟩)
    · exact ⟨[], c :: text, rfl, by simp, hq⟩
    · exact ⟨c :: more, rest, rfl, List.forall_mem_cons.mpr ⟨hc, hmore⟩, hq⟩

/-! ## How a cut begins -/

section Cuts

variable {α : Type} {piece : Nat → List Char → α → Bool → Prop} {tight : Bool} {position : Nat}
  {xs : List α}

/-- What may follow in a comment: the rest of its line and a cut, or no more lines. -/
def InComment (piece : Nat → List Char → α → Bool → Prop) (position : Nat) (text : List Char)
    (xs : List α) : Prop :=
  Run (· ≠ '\n') (fun body rest => rest = [] ∧ xs = [] ∨
    ∃ s, rest = '\n' :: s ∧ Cut piece true (position + body.length + 1) s xs) text

/-- A cut that begins with a piece. -/
def Cut.AtPiece (piece : Nat → List Char → α → Bool → Prop) (position : Nat) (text : List Char)
    (xs : List α) : Prop :=
  ∃ w rest x counted xs', text = w ++ rest ∧ xs = x :: xs' ∧ piece position w x counted ∧
    Cut piece counted (position + w.length) rest xs'

lemma cut_nil (hpiece : ∀ start x counted, ¬ piece start [] x counted) :
    Cut piece tight position [] xs ↔ xs = [] := by
  constructor
  · generalize htext : ([] : List Char) = text
    rintro (hs | ⟨hs, -, hw, -⟩)
    · rfl
    · simp only [List.nil_eq_append_iff, List.append_eq_nil_iff] at htext
      obtain ⟨⟨-, rfl⟩, -⟩ := htext
      exact absurd hw (hpiece _ _ _)
  · rintro rfl
    exact .last .nil

lemma Separator.comment_cut {body s : List Char} {last : Bool} (hbody : '\n' ∉ body)
    (hs : Separator last s) : Separator last ('#' :: (body ++ ['\n']) ++ s) := by
  simpa using Separator.comment hbody hs

/-- **How a cut begins**: with a blank or a comma, with a comment, or with a piece. -/
theorem cut_cons : Cut piece tight position (c :: text) xs ↔
    ((isBlank c = true ∨ c = ',') ∧ Cut piece true (position + 1) text xs) ∨
    (c = '#' ∧ InComment piece (position + 1) text xs) ∨
    (tight = true ∧ Cut.AtPiece piece position (c :: text) xs) := by
  constructor
  · generalize htext : c :: text = whole
    intro hcut
    cases hcut with
    | last hs =>
        cases hs with
        | nil => cases htext
        | blank hc hs =>
            obtain ⟨rfl, rfl⟩ := List.cons.inj htext
            exact .inl ⟨.inl hc, .last hs⟩
        | comma hs =>
            obtain ⟨rfl, rfl⟩ := List.cons.inj htext
            exact .inl ⟨.inr rfl, .last hs⟩
        | @comment body s hbody hs =>
            obtain ⟨rfl, rfl⟩ := List.cons.inj htext
            exact .inr (.inl ⟨rfl, body, '\n' :: s, rfl, fun d hd => ne_of_mem_of_not_mem hd hbody,
              .inr ⟨s, rfl, .last hs⟩⟩)
        | unclosed _ hbody =>
            obtain ⟨rfl, rfl⟩ := List.cons.inj htext
            exact .inr (.inl ⟨rfl, text, [], by simp, fun d hd => ne_of_mem_of_not_mem hd hbody,
              .inl ⟨rfl, rfl⟩⟩)
    | @step _ counted _ s w rest x xs hs htight hw hrest =>
        cases hs with
        | nil =>
            exact .inr (.inr ⟨htight rfl, w, rest, x, counted, xs, rfl, rfl, by simpa using hw,
              by simpa using hrest⟩)
        | @blank d s hd hs =>
            obtain ⟨rfl, rfl⟩ := List.cons.inj htext
            exact .inl ⟨.inl hd, .step_at hs (fun _ => rfl) hw hrest (by simp; omega) rfl⟩
        | comma hs =>
            obtain ⟨rfl, rfl⟩ := List.cons.inj htext
            exact .inl ⟨.inr rfl, .step_at hs (fun _ => rfl) hw hrest (by simp; omega) rfl⟩
        | @comment body s hbody hs =>
            obtain ⟨rfl, rfl⟩ := List.cons.inj htext
            refine .inr (.inl ⟨rfl, body, '\n' :: (s ++ w ++ rest), by simp,
              fun d hd => ne_of_mem_of_not_mem hd hbody, .inr ⟨_, rfl, ?_⟩⟩)
            exact .step_at hs (fun _ => rfl) hw hrest (by simp; omega) rfl
        | unclosed hlast => cases hlast
  · rintro (⟨hc, hcut⟩ | ⟨rfl, body, rest, rfl, hbody, ⟨rfl, rfl⟩ | ⟨s, rfl, hcut⟩⟩ |
      ⟨rfl, w, rest, x, counted, xs, heq, rfl, hw, hrest⟩)
    · have hp : ∀ last s, Separator last s → Separator last ([c] ++ s) := by
        rcases hc with hc | rfl
        · exact fun _ _ => .blank hc
        · exact fun _ _ => .comma
      exact Cut.prepend hp (by simp) hcut
    · rw [List.append_nil]
      exact .last (.unclosed rfl fun hmem => hbody _ hmem rfl)
    · have hbody' : '\n' ∉ body := fun hmem => hbody _ hmem rfl
      have hcut' : Cut piece tight position ('#' :: (body ++ ['\n']) ++ s) xs :=
        Cut.prepend (fun _ _ => Separator.comment_cut hbody') (by simp)
          (by simpa [Nat.add_assoc, Nat.add_comm 1, Nat.add_left_comm] using hcut)
      simpa using hcut'
    · rw [heq]
      exact Cut.step (s := []) .nil (fun _ => rfl) hw hrest

end Cuts

/-! ## The texts that complete a mode -/

/-- Blanks, digits, and then a cut; the digits are those of the count of `word`. -/
def Times (word : Spanned String) (position : Nat) (text : List Char) (raws : List RawStep) :
    Prop :=
  Run (isBlank · = true) (fun after rest => Run (·.isDigit = true) (fun digits rest' =>
    digits ≠ [] ∧ ∃ raws', raws =
        { name := word, count := some (written (position + after.length) digits) } :: raws' ∧
      Cut RawStep.Written true (position + after.length + digits.length) rest' raws') rest) text

/-- What may follow `word`: its count, or a cut, which `tight` allows to begin with a step. -/
def After (tight : Bool) (word : Spanned String) (position : Nat) (text : List Char)
    (raws : List RawStep) : Prop :=
  (∃ raws', raws = { name := word } :: raws' ∧ Cut RawStep.Written tight position text raws') ∨
    Run (isBlank · = true) (fun before rest => ∃ text', rest = '*' :: text' ∧
      Times word (position + before.length + 1) text' raws) text

/-- The texts that complete a mode, and the steps that they add. -/
def Mode.Rest : Mode → Nat → List Char → List RawStep → Prop
  | .free, position, text, raws => Cut RawStep.Written true position text raws
  | .comment, position, text, raws => InComment RawStep.Written position text raws
  | .name start collected, position, text, raws =>
      Run (isNamePart · = true) (fun more rest =>
        After false (collect start (position + more.length) (more.reverse ++ collected))
          (position + more.length) rest raws) text
  | .gap word, position, text, raws => After true word position text raws
  | .times word, position, text, raws => Times word position text raws
  | .digits word start collected, position, text, raws =>
      Run (·.isDigit = true) (fun more rest => ∃ raws', raws =
          { name := word
            count := some (collect start (position + more.length) (more.reverse ++ collected)) }
            :: raws' ∧
        Cut RawStep.Written true (position + more.length) rest raws') text

variable {word : Spanned String} {tight : Bool} {position : Nat} {raws : List RawStep}

lemma add_length_cons (n : Nat) (c : Char) (cs : List Char) :
    n + (c :: cs).length = n + 1 + cs.length := by
  simp only [List.length_cons]
  omega

lemma collect_eq_written (start : Nat) (c : Char) (more : List Char) :
    Mode.collect start (start + 1 + more.length) (more.reverse ++ [c]) =
      written start (c :: more) := by
  simp only [Mode.collect, written, List.reverse_append, List.reverse_reverse,
    List.reverse_singleton, List.singleton_append, add_length_cons]

lemma RawStep.not_written_nil (start : Nat) (raw : RawStep) (counted : Bool) :
    ¬ RawStep.Written start [] raw counted := by
  generalize hw : ([] : List Char) = w
  rintro (⟨c, cs, rfl, -⟩ | ⟨⟨c, cs, rfl, -⟩, -⟩) <;> cases hw

/-- A cut begins with a step where a name begins. -/
lemma atPiece_iff : Cut.AtPiece RawStep.Written position (c :: text) raws ↔
    isNameStart c = true ∧ (Mode.name position [c]).Rest (position + 1) text raws := by
  constructor
  · rintro ⟨w, rest, raw, counted, raws, heq, rfl, hw, hrest⟩
    cases hw with
    | bare hname =>
        obtain ⟨d, cs, rfl, hd, hcs⟩ := hname
        obtain ⟨rfl, rfl⟩ := List.cons.inj heq
        refine ⟨hd, cs, rest, rfl, hcs, .inl ⟨raws, ?_, ?_⟩⟩
        · rw [collect_eq_written]
        · rwa [← add_length_cons]
    | @counted _ before after digits hname hbefore hafter hne hdigits =>
        obtain ⟨d, cs, rfl, hd, hcs⟩ := hname
        obtain ⟨rfl, rfl⟩ := List.cons.inj heq
        refine ⟨hd, cs, before ++ '*' :: (after ++ digits) ++ rest, by simp, hcs, .inr
          ⟨before, '*' :: (after ++ digits ++ rest), by simp, hbefore, _, rfl,
            after, digits ++ rest, by simp, hafter, digits, rest, rfl, hdigits, hne, raws, ?_, ?_⟩⟩
        · rw [collect_eq_written]
          simp only [add_length_cons]
        · refine cast (congrArg (Cut _ _ · _ _) ?_) hrest
          simp
          omega
  · rintro ⟨hc, more, rest, rfl, hmore, ⟨raws, rfl, hcut⟩ | ⟨before, rest, rfl, hbefore, _, rfl,
      after, rest, rfl, hafter, digits, rest, rfl, hdigits, hne, raws, rfl, hcut⟩⟩
    · refine ⟨c :: more, rest, _, false, raws, rfl, rfl, ?_, ?_⟩
      · rw [collect_eq_written]
        exact .bare ⟨c, more, rfl, hc, hmore⟩
      · rwa [add_length_cons]
    · refine ⟨(c :: more) ++ before ++ '*' :: (after ++ digits), rest, _, true, raws, by simp, rfl,
        ?_, ?_⟩
      · have hw : RawStep.Written position _ _ _ :=
          .counted ⟨c, more, rfl, hc, hmore⟩ hbefore hafter hne hdigits
        rw [collect_eq_written]
        simp only [add_length_cons] at hw
        exact hw
      · refine cast (congrArg (Cut _ _ · _ _) ?_) hcut
        simp
        omega

/-- A cut that may begin with a step takes its first character as `begin?` does. -/
lemma cut_begin : Cut RawStep.Written true position (c :: text) raws ↔
    ∃ mode, Mode.begin? position c = some mode ∧ mode.Rest (position + 1) text raws := by
  have hgap : isBlank c = true ∨ c = ',' → isNameStart c = false ∧ c ≠ '#' := by
    rintro (hc | rfl)
    · exact ⟨isNameStart_of_isBlank hc, (isBlank_not hc).2.2.2⟩
    · decide
  rw [cut_cons, atPiece_iff, Mode.begin?]
  split_ifs with hc hhash hname
  · rw [Bool.or_eq_true, beq_iff_eq] at hc
    simp [hc, hgap hc, Mode.Rest]
  · rw [beq_iff_eq] at hhash
    subst hhash
    simp [show isBlank '#' = false by decide, show isNameStart '#' = false by decide, Mode.Rest]
  all_goals
    rw [Bool.or_eq_true, beq_iff_eq] at hc
    rw [beq_iff_eq] at hhash
    simp [hc, hhash, hname]

/-- Behind a bare name, only a separator begins a cut. -/
lemma cut_behind_name (hc : isNameStart c = false) :
    Cut RawStep.Written false position (c :: text) raws ↔
      Cut RawStep.Written true position (c :: text) raws := by
  rw [cut_cons, cut_cons, atPiece_iff]
  simp [hc]

/-- A blank leaves a cut that may begin with a step. -/
lemma cut_blank (hc : isBlank c = true) : Cut RawStep.Written tight position (c :: text) raws ↔
    Cut RawStep.Written true (position + 1) text raws := by
  rw [cut_cons, atPiece_iff]
  simp [hc, isNameStart_of_isBlank hc, (isBlank_not hc).2.2.2]

lemma not_cut_star : ¬ Cut RawStep.Written tight position ('*' :: text) raws := by
  rw [cut_cons, atPiece_iff]
  simp [show isBlank '*' = false by decide, show isNameStart '*' = false by decide]

lemma not_cut_digit (hc : c.isDigit = true) :
    ¬ Cut RawStep.Written tight position (c :: text) raws := by
  have hsort := (isNamePart_ne (isNamePart_iff.mpr (.inr hc)))
  rw [cut_cons, atPiece_iff]
  simp [hsort, isNameStart_of_isDigit hc]

lemma times_cons : Times word position (c :: text) raws ↔
    isBlank c = true ∧ Times word (position + 1) text raws ∨
    c.isDigit = true ∧ (Mode.digits word position [c]).Rest (position + 1) text raws := by
  rw [Times, run_cons, run_cons, or_comm]
  simp only [Mode.Rest, collect_eq_written, add_length_cons, List.length_nil]
  simp [Times]

lemma after_cons : After tight word position (c :: text) raws ↔
    (∃ raws', raws = { name := word } :: raws' ∧
      Cut RawStep.Written tight position (c :: text) raws') ∨
    c = '*' ∧ Times word (position + 1) text raws ∨
    isBlank c = true ∧ Run (isBlank · = true) (fun before rest => ∃ text', rest = '*' :: text' ∧
      Times word (position + 1 + before.length + 1) text' raws) text := by
  rw [After, run_cons]
  simp only [add_length_cons, List.cons.injEq, List.length_nil, Nat.add_zero]
  simp

/-- What is left after a blank, a `*` or any other character behind a name. -/
lemma after_blank (hc : isBlank c = true) : After tight word position (c :: text) raws ↔
    After true word (position + 1) text raws := by
  rw [after_cons]
  simp only [cut_blank hc, hc, true_and, (isBlank_not hc).2.1, false_and, false_or]
  rfl

lemma after_star : After tight word position ('*' :: text) raws ↔
    Times word (position + 1) text raws := by
  rw [after_cons]
  simp [not_cut_star, show isBlank '*' = false by decide]

lemma after_other (hblank : isBlank c = false) (hstar : c ≠ '*') :
    After tight word position (c :: text) raws ↔ ∃ raws', raws = { name := word } :: raws' ∧
      Cut RawStep.Written tight position (c :: text) raws' := by
  rw [after_cons]
  simp [hblank, hstar]

/-- No name goes on behind a name. -/
lemma not_after_of_isNamePart (hc : isNamePart c = true) :
    ¬ After false word position (c :: text) raws := by
  have hsort := isNamePart_ne hc
  rw [after_other hsort.1 hsort.2.1]
  simp [cut_cons, hsort]

/-! ## One character and the end -/

/-- A mode, and perhaps a step before it, from which `text` adds the steps `raws`. -/
def Mode.Leaves (answer : Except Expectation (Option RawStep × Mode)) (position : Nat)
    (text : List Char) (raws : List RawStep) : Prop :=
  ∃ done mode raws', answer = .ok (done, mode) ∧ raws = done.toList ++ raws' ∧
    mode.Rest position text raws'

lemma Mode.leaves_ok {done : Option RawStep} {mode : Mode} :
    Leaves (.ok (done, mode)) position text raws ↔
      ∃ raws', raws = done.toList ++ raws' ∧ mode.Rest position text raws' := by
  constructor
  · rintro ⟨_, _, raws', heq, hraws, hrest⟩
    cases heq
    exact ⟨raws', hraws, hrest⟩
  · rintro ⟨raws', hraws, hrest⟩
    exact ⟨done, mode, raws', rfl, hraws, hrest⟩

lemma Mode.leaves_none {mode : Mode} :
    Leaves (.ok (none, mode)) position text raws ↔ mode.Rest position text raws := by
  rw [leaves_ok]
  simp

lemma Mode.not_leaves_error {expected : Expectation} :
    ¬ Leaves (.error expected) position text raws := by
  rintro ⟨_, _, _, heq, -⟩
  cases heq

/-- What `beginAfter` makes of a character is what a cut makes of it. -/
lemma Mode.leaves_beginAfter {step : Option RawStep} {expected : Expectation} :
    Leaves (beginAfter step expected position c) (position + 1) text raws ↔
      ∃ raws', raws = step.toList ++ raws' ∧
        Cut RawStep.Written true position (c :: text) raws' := by
  -- `simp` cannot open `beginAfter`: it would evaluate the table of blanks
  unfold beginAfter
  simp only [cut_begin]
  cases begin? position c with
  | none => simp only [not_leaves_error, false_and, exists_false, and_false, reduceCtorEq]
  | some mode => simp only [leaves_ok, Option.some.injEq, exists_eq_left']

lemma Mode.leaves_after (hblank : isBlank c = false) (hstar : c ≠ '*')
    (htight : tight = false → isNameStart c = false) :
    Leaves (beginAfter (some { name := word }) .separatorOrCount position c) (position + 1)
      text raws ↔ After tight word position (c :: text) raws := by
  rw [after_other hblank hstar, leaves_beginAfter]
  cases tight with
  | false => simp [cut_behind_name (htight rfl)]
  | true => simp

/-- **One character.**  The texts that complete a mode and begin with `c` are those whose other
characters complete what the reader makes of the mode. -/
theorem Mode.rest_cons (mode : Mode) : mode.Rest position (c :: text) raws ↔
    Leaves (mode.advance position c) (position + 1) text raws := by
  cases mode with
  | free =>
      rw [advance, leaves_beginAfter]
      simp [Rest]
  | comment =>
      rw [advance, leaves_none, Rest, InComment, run_cons]
      split_ifs with hline
      · rw [beq_iff_eq] at hline
        simp [hline, Rest]
      · rw [beq_iff_eq] at hline
        simp [hline, Rest, InComment, Nat.add_assoc, Nat.add_comm 1]
  | name start collected =>
      rw [Rest, run_cons, advance]
      split_ifs with hpart hblank hstar
      · rw [leaves_none]
        simp [not_after_of_isNamePart hpart, hpart, Rest, Nat.add_assoc, Nat.add_comm 1]
      · rw [leaves_none]
        simp [hpart, after_blank hblank, Rest]
      · rw [beq_iff_eq] at hstar
        subst hstar
        rw [leaves_none]
        simp [hpart, after_star, Rest]
      · have hname : isNameStart c = false :=
          Bool.eq_false_iff.mpr fun hname => hpart (isNamePart_iff.mpr (.inl hname))
        simp only [hpart, Bool.false_eq_true, false_and, or_false]
        exact (leaves_after (by simpa using hblank) (by simpa using hstar) fun _ => hname).symm
  | gap word =>
      rw [advance]
      split_ifs with hblank hstar
      · rw [leaves_none, Rest, after_blank hblank, Rest]
      · rw [beq_iff_eq] at hstar
        subst hstar
        rw [leaves_none, Rest, after_star, Rest]
      · exact (leaves_after (by simpa using hblank) (by simpa using hstar) (by simp)).symm
  | times word =>
      rw [Rest, times_cons, advance]
      split_ifs with hblank hdigit
      · have hdigit : c.isDigit = false := Bool.eq_false_iff.mpr fun hdigit => by
          simp [isNamePart_ne (isNamePart_iff.mpr (.inr hdigit))] at hblank
        rw [leaves_none]
        simp [hblank, hdigit, Rest]
      · rw [leaves_none]
        simp [hblank, hdigit]
      · simp [hblank, hdigit, not_leaves_error]
  | digits word start collected =>
      rw [Rest, run_cons, advance]
      split_ifs with hdigit
      · rw [leaves_none]
        simp [hdigit, not_cut_digit hdigit, Rest, Nat.add_assoc, Nat.add_comm 1]
      · rw [leaves_beginAfter]
        simp [hdigit]

/-- **The end.**  What the empty text adds to a mode is what the reader finishes it with. -/
theorem Mode.rest_nil (mode : Mode) : mode.Rest position [] raws ↔
    ∃ done, mode.finish position = .ok done ∧ raws = done.toList := by
  have hcut {tight : Bool} {raws : List RawStep} :
      Cut RawStep.Written tight position [] raws ↔ raws = [] := cut_nil RawStep.not_written_nil
  have hafter {tight : Bool} {word : Spanned String} :
      After tight word position [] raws ↔ raws = [{ name := word }] := by
    simp [After, run_nil, hcut]
  cases mode with
  | free => simp [Rest, finish, hcut]
  | comment => simp [Rest, finish, InComment, run_nil]
  | name start collected => simp [Rest, finish, run_nil, hafter]
  | gap word => simp [Rest, finish, hafter]
  | times word => simp [Rest, finish, Times, run_nil]
  | digits word start collected => simp [Rest, finish, run_nil, hcut]

/-! ## The reader -/

/-- The reader accepts from a mode what completes the mode, and adds the same steps. -/
lemma readStepsFrom_eq_ok_iff (mode : Mode) :
    readStepsFrom mode position text = .ok raws ↔ mode.Rest position text raws := by
  induction text generalizing mode position raws with
  | nil =>
      rw [Mode.rest_nil, readStepsFrom]
      cases mode.finish position with
      | error expected => simp
      | ok done => simp [eq_comm]
  | cons c text ih =>
      rw [Mode.rest_cons, readStepsFrom]
      cases mode.advance position c with
      | error expected => simp [Mode.not_leaves_error]
      | ok answer =>
          obtain ⟨done, mode'⟩ := answer
          simp only [Mode.leaves_ok, ← ih]
          cases readStepsFrom mode' (position + 1) text with
          | error e => simp
          | ok raws' => simp [eq_comm]

/-- **Reading is cutting.**  A text is read as a row of steps just if it can be cut into separators
and those steps. -/
theorem readSteps_eq_ok_iff :
    readSteps text = .ok raws ↔ Cut RawStep.Written true 0 text raws :=
  readStepsFrom_eq_ok_iff .free

end BlockCursor.Script
