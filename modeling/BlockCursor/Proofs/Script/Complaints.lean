import BlockCursor.Proofs.Script.Accepted
import BlockCursor.Proofs.Script.Located

/-!
# What is said about bad steps

A text that is well formed may still hold steps that mean nothing.  Every step is asked for its name
and then for its count, and what is wrong with either is told at its place in the text.  Here this
is said by the grammar alone: `StepFaults` reads a step off the text together with what is due for
it, so a cut of the text into such pieces is the whole report.

* `NameFaults`, `CountFaults`, `StepFaults` — what is due for a name, a count and a step.
* `InOrder` — diagnostics that follow one another in a part of the text.
* `stepFaults_iff` — what is due for a step is what the second stage finds.
* **`every_bad_step_reported`** — the whole report, in the order of the text.
-/

namespace BlockCursor.Script

open Text

variable {start : Nat} {w digits : List Char} {ds : List Diagnostic} {counted : Bool}

/-! ## What is due -/

/-- What is due for the name `w` at `start`: nothing if it is the word of a move. -/
inductive NameFaults (start : Nat) (w : List Char) : List Diagnostic → Prop
  | move (m : Move) : w = word m → NameFaults start w []
  | unknown : (∀ m, w ≠ word m) → NameFaults start w
      [⟨⟨start, start + w.length⟩, "unknown move '" ++ String.ofList w ++ "'",
        some "expected next, prev, in or out"⟩]

/-- What is due for the digits of a count at `start`: nothing if they write a number from one to a
thousand. -/
inductive CountFaults (start : Nat) (digits : List Char) : List Diagnostic → Prop
  | fits : 1 ≤ countValue digits → countValue digits ≤ 1000 → CountFaults start digits []
  | zero : countValue digits = 0 → CountFaults start digits
      [⟨⟨start, start + digits.length⟩, "repeat count must be at least 1", some "zero repeats"⟩]
  | large : 1000 < countValue digits → CountFaults start digits
      [⟨⟨start, start + digits.length⟩,
        "repeat count '" ++ String.ofList digits ++ "' is too large", some "at most 1000"⟩]

/-- A step as it is written from position `start` on, with what is due for it: first for its name
and then for its count. -/
inductive StepFaults (start : Nat) : List Char → List Diagnostic → Bool → Prop
  | bare {w : List Char} {ds : List Diagnostic} : IsName w → NameFaults start w ds →
      StepFaults start w ds false
  | counted {w before after digits : List Char} {ds ds' : List Diagnostic} : IsName w →
      (∀ c ∈ before, isBlank c = true) → (∀ c ∈ after, isBlank c = true) → digits ≠ [] →
      (∀ c ∈ digits, c.isDigit = true) → NameFaults start w ds →
      CountFaults (start + w.length + before.length + 1 + after.length) digits ds' →
      StepFaults start (w ++ before ++ '*' :: (after ++ digits)) (ds ++ ds') true

/-! ## What the second stage finds -/

/-- The diagnostics of the problems with a step. -/
def RawStep.diagnostics (raw : RawStep) : List Diagnostic :=
  raw.problems.map Problem.diagnostic

lemma RawStep.diagnostics_eq (raw : RawStep) : raw.diagnostics =
    raw.nameProblems.map Problem.diagnostic ++ raw.countProblems.map Problem.diagnostic :=
  List.map_append

lemma RawStep.diagnostics_bare (name : Spanned String) :
    RawStep.diagnostics { name := name } =
      (RawStep.nameProblems { name := name }).map Problem.diagnostic := by
  rw [diagnostics_eq]
  exact List.append_nil _

lemma nameFaults_iff {raw : RawStep} (hname : raw.name = written start w) :
    NameFaults start w ds ↔ raw.nameProblems.map Problem.diagnostic = ds := by
  rw [RawStep.nameProblems, hname]
  have hword : ∀ m, Move.ofName? (String.ofList w) = some m ↔ w = word m :=
    fun m => ofName?_eq_some_iff
  constructor
  · rintro (⟨m, hm⟩ | hnone)
    · simp only [written, (hword m).mpr hm, List.map_nil]
    · have hunknown : Move.ofName? (String.ofList w) = none :=
        Option.eq_none_iff_forall_ne_some.mpr fun m hm => hnone m ((hword m).mp hm)
      simp only [written, hunknown]
      rfl
  · rintro rfl
    cases hmove : Move.ofName? (String.ofList w) with
    | some m =>
        simp only [written, hmove, List.map_nil]
        exact .move m ((hword m).mp hmove)
    | none =>
        simp only [written, hmove]
        refine .unknown fun m hm => ?_
        rw [(hword m).mpr hm] at hmove
        cases hmove

lemma countFaults_iff {name : Spanned String} : CountFaults start digits ds ↔
    (RawStep.countProblems { name := name, count := some (written start digits) }).map
      Problem.diagnostic = ds := by
  rw [RawStep.countProblems, RawStep.repeats_counted]
  constructor
  · rintro (⟨hone, hmax⟩ | hzero | hlarge)
    · rw [if_neg (by omega), if_pos hmax]
      rfl
    · rw [if_pos hzero]
      rfl
    · rw [if_neg (by omega), if_neg (by omega)]
      rfl
  · rintro rfl
    by_cases hzero : countValue digits = 0
    · rw [if_pos hzero]
      exact .zero hzero
    · rw [if_neg hzero]
      by_cases hmax : countValue digits ≤ 1000
      · rw [if_pos hmax]
        exact .fits (Nat.pos_of_ne_zero hzero) hmax
      · rw [if_neg hmax]
        exact .large (Nat.lt_of_not_le hmax)

/-- **What is due for a step is what the second stage finds.** -/
lemma stepFaults_iff : StepFaults start w ds counted ↔
    ∃ raw, RawStep.Written start w raw counted ∧ raw.diagnostics = ds := by
  constructor
  · rintro (⟨hname, hfaults⟩ | ⟨hname, hbefore, hafter, hne, hdigits, hfaults, hcount⟩)
    · refine ⟨_, .bare hname, ?_⟩
      rw [RawStep.diagnostics_bare]
      exact (nameFaults_iff rfl).mp hfaults
    · refine ⟨_, .counted hname hbefore hafter hne hdigits, ?_⟩
      rw [RawStep.diagnostics_eq, (nameFaults_iff rfl).mp hfaults, countFaults_iff.mp hcount]
  · rintro ⟨raw, hraw, rfl⟩
    cases hraw with
    | bare hname =>
        rw [RawStep.diagnostics_bare]
        exact .bare hname ((nameFaults_iff rfl).mpr rfl)
    | counted hname hbefore hafter hne hdigits =>
        rw [RawStep.diagnostics_eq]
        exact .counted hname hbefore hafter hne hdigits ((nameFaults_iff rfl).mpr rfl)
          (countFaults_iff.mpr rfl)

/-! ## Diagnostics in order -/

/-- Diagnostics follow one another from a position on up to another: none is about nothing, and each
begins where the one before it has ended, or later. -/
def InOrder : Nat → Nat → List Diagnostic → Prop
  | start, stop, [] => start ≤ stop
  | start, stop, d :: ds =>
      start ≤ d.span.start ∧ d.span.start < d.span.stop ∧ InOrder d.span.stop stop ds

namespace InOrder

variable {a b c : Nat} {ds' : List Diagnostic}

/-- One diagnostic about a part that is not empty. -/
lemma single {message : String} {label : Option String} (h : a < b) :
    InOrder a b [⟨⟨a, b⟩, message, label⟩] :=
  ⟨Nat.le_refl _, h, Nat.le_refl _⟩

lemma le (h : InOrder a b ds) : a ≤ b := by
  induction ds generalizing a with
  | nil => exact h
  | cons d ds ih =>
      obtain ⟨hstart, hne, hrest⟩ := h
      exact (hstart.trans hne.le).trans (ih hrest)

/-- A gap in front. -/
lemma behind (h : InOrder b c ds) (hle : a ≤ b) : InOrder a c ds := by
  cases ds with
  | nil => exact hle.trans h
  | cons d ds =>
      obtain ⟨hstart, hne, hrest⟩ := h
      exact ⟨hle.trans hstart, hne, hrest⟩

lemma append (h : InOrder a b ds) (h' : InOrder b c ds') : InOrder a c (ds ++ ds') := by
  induction ds generalizing a with
  | nil => exact h'.behind h
  | cons d ds ih =>
      obtain ⟨hstart, hne, hrest⟩ := h
      exact ⟨hstart, hne, ih hrest⟩

lemma in_range (h : InOrder a b ds) :
    ∀ d ∈ ds, a ≤ d.span.start ∧ d.span.start < d.span.stop ∧ d.span.stop ≤ b := by
  induction ds generalizing a with
  | nil => exact fun d hd => absurd hd List.not_mem_nil
  | cons e ds ih =>
      obtain ⟨hstart, hne, hrest⟩ := h
      intro d hd
      rcases List.mem_cons.mp hd with rfl | hd
      · exact ⟨hstart, hne, hrest.le⟩
      · obtain ⟨hbehind, hne', hstop⟩ := ih hrest d hd
        exact ⟨by omega, hne', hstop⟩

lemma pairwise (h : InOrder a b ds) : ds.Pairwise fun d e => d.span.stop ≤ e.span.start := by
  induction ds generalizing a with
  | nil => exact .nil
  | cons d ds ih =>
      obtain ⟨-, -, hrest⟩ := h
      exact .cons (fun e he => (hrest.in_range e he).1) (ih hrest)

end InOrder

lemma IsName.length_pos (h : IsName w) : 0 < w.length := by
  obtain ⟨c, cs, rfl, -⟩ := h
  exact Nat.succ_pos _

lemma NameFaults.inOrder (h : NameFaults start w ds) (hname : IsName w) :
    InOrder start (start + w.length) ds := by
  cases h with
  | move m hm => exact Nat.le_add_right _ _
  | unknown hnone => exact .single (Nat.lt_add_of_pos_right hname.length_pos)

lemma CountFaults.inOrder (h : CountFaults start digits ds) (hne : digits ≠ []) :
    InOrder start (start + digits.length) ds := by
  have hpos : 0 < digits.length := List.length_pos_iff.mpr hne
  cases h with
  | fits hone hmax => exact Nat.le_add_right _ _
  | zero hzero => exact .single (Nat.lt_add_of_pos_right hpos)
  | large hlarge => exact .single (Nat.lt_add_of_pos_right hpos)

/-- What is due for a step lies in it, the name's part before the count's. -/
lemma StepFaults.inOrder (h : StepFaults start w ds counted) :
    InOrder start (start + w.length) ds := by
  cases h with
  | bare hname hfaults => exact hfaults.inOrder hname
  | @counted w before after digits ds ds' hname _ _ hne _ hfaults hcount =>
      have hdigits : start + (w ++ before ++ '*' :: (after ++ digits)).length =
          start + w.length + before.length + 1 + after.length + digits.length := by
        simp only [List.length_append, List.length_cons]
        omega
      rw [hdigits]
      exact (hfaults.inOrder hname).append ((hcount.inOrder hne).behind (by omega))

/-- **The report of a text goes through it from its start to its end.** -/
lemma Cut.inOrder {tight : Bool} {text : List Char} {faults : List (List Diagnostic)}
    (h : Cut StepFaults tight start text faults) :
    InOrder start (start + text.length) faults.flatten := by
  induction h with
  | last hs => exact Nat.le_add_right _ _
  | @step tight counted start s w rest ds faults hs htight hw hrest ih =>
      have hstop : start + (s ++ w ++ rest).length =
          start + s.length + w.length + rest.length := by
        simp only [List.length_append]
        omega
      rw [hstop, List.flatten_cons]
      exact (hw.inOrder.append ih).behind (Nat.le_add_right _ _)

/-! ## The report -/

variable {source : String}

/-- A text without problems writes a script, and one that writes a script has none. -/
lemma exists_parse_iff : (∃ script, parse source = .ok script) ↔ problems source = [] := by
  rw [problems]
  cases hparse : parse source with
  | ok script => simp
  | error found => simpa using ne_nil_of_parse_eq_error hparse

/-- The problems of a text whose form can be read are those of its steps. -/
lemma problems_of_readSteps {raws : List RawStep} (h : readSteps source.toList = .ok raws) :
    problems source = raws.flatMap RawStep.problems := by
  rw [problems, parse, h]
  simp only [ofRawSteps]
  cases raws.flatMap RawStep.problems <;> rfl

/-- **Every bad step is reported, once.**  A well-formed text can be cut in one way only into
separators and steps with what is due for them, and that is the whole report: step by step in the
order of the text, for a name that is no move and then for a count that is zero or above a thousand,
each at the very characters that write it.  No two of these places overlap, and there is a script
just if there is nothing to report. -/
theorem every_bad_step_reported (source : String) (h : WellFormed source.toList) :
    ∃ faults, (∀ faults', Cut StepFaults true 0 source.toList faults' ↔ faults' = faults) ∧
      (problems source).map Problem.diagnostic = faults.flatten ∧
      (∀ d ∈ faults.flatten, d.span.start < d.span.stop ∧ d.span.stop ≤ source.length) ∧
      faults.flatten.Pairwise (fun d e => d.span.stop ≤ e.span.start) ∧
      ((∃ script, parse source = .ok script) ↔ faults.flatten = []) := by
  obtain ⟨raws, hcut⟩ := h
  have hread := readSteps_eq_ok_iff.mpr hcut
  have hunique : ∀ faults', Cut StepFaults true 0 source.toList faults' ↔
      faults' = raws.map RawStep.diagnostics := by
    intro faults'
    rw [Cut.iff_of_pieces @stepFaults_iff]
    simp only [← readSteps_eq_ok_iff, hread, Except.ok.injEq, exists_eq_left']
    rw [← List.forall₂_map_left_iff, List.forall₂_eq_eq_eq]
    exact eq_comm
  have hreport : (problems source).map Problem.diagnostic =
      (raws.map RawStep.diagnostics).flatten := by
    rw [problems_of_readSteps hread, List.map_flatMap]
    rfl
  have horder := ((hunique _).mpr rfl).inOrder
  refine ⟨raws.map RawStep.diagnostics, hunique, hreport, fun d hd => ?_, horder.pairwise, ?_⟩
  · obtain ⟨-, hne, hstop⟩ := horder.in_range d hd
    rw [Nat.zero_add, String.length_toList] at hstop
    exact ⟨hne, hstop⟩
  · rw [exists_parse_iff, ← hreport, List.map_eq_nil_iff]

/-- An unknown name with a count that 32 bits cannot hold, a step right behind it whose count is a
zero of many digits, and a last one with nothing to report. -/
theorem overflow_and_zeros_reported :
    WellFormed "up*4294967296in*000, out*01000".toList ∧
      (∃ faults, Cut StepFaults true 0 "up*4294967296in*000, out*01000".toList faults ∧
        faults.flatten =
          [⟨⟨0, 2⟩, "unknown move 'up'", some "expected next, prev, in or out"⟩,
            ⟨⟨3, 13⟩, "repeat count '4294967296' is too large", some "at most 1000"⟩,
            ⟨⟨16, 19⟩, "repeat count must be at least 1", some "zero repeats"⟩]) ∧
      ¬ ∃ script, parse "up*4294967296in*000, out*01000" = .ok script := by
  have hwell : WellFormed "up*4294967296in*000, out*01000".toList :=
    ⟨_, readSteps_eq_ok_iff.mp rfl⟩
  obtain ⟨faults, hunique, hreport, -, -, hscript⟩ := every_bad_step_reported _ hwell
  have hfound : (problems "up*4294967296in*000, out*01000").map Problem.diagnostic =
      [⟨⟨0, 2⟩, "unknown move 'up'", some "expected next, prev, in or out"⟩,
        ⟨⟨3, 13⟩, "repeat count '4294967296' is too large", some "at most 1000"⟩,
        ⟨⟨16, 19⟩, "repeat count must be at least 1", some "zero repeats"⟩] := by
    decide +kernel
  rw [hfound] at hreport
  refine ⟨hwell, ⟨faults, (hunique faults).mpr rfl, hreport.symm⟩, ?_⟩
  rw [hscript, ← hreport]
  exact List.cons_ne_nil _ _

end BlockCursor.Script
