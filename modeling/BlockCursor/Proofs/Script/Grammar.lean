import BlockCursor.Script.Syntax
import Mathlib.Tactic.Common

/-!
# The grammar of scripts

A text is cut into separators and steps that take turns, with a separator at either end.  What a
step is does not matter for that, so `Cut` is stated for pieces of any sort; a piece says whether it
ends in a count, since only then may the next one follow at once.

* `Separator` — blanks, commas and comments.
* `Cut` — separators and pieces in turn.
* `RawStep.Written` — a step as it is written, whatever its name and count.
* **`Cut.iff_of_pieces`** — a grammar of other pieces, got by reading each piece.
-/

namespace BlockCursor.Script

open Text

/-! ## Separators -/

/-- A run of blanks, commas and comments.  A comment ends with its line; only the last separator of
a text may end in a comment that the text ends in. -/
inductive Separator (last : Bool) : List Char → Prop
  | nil : Separator last []
  | blank {c : Char} {s : List Char} : isBlank c = true → Separator last s →
      Separator last (c :: s)
  | comma {s : List Char} : Separator last s → Separator last (',' :: s)
  | comment {body s : List Char} : '\n' ∉ body → Separator last s →
      Separator last ('#' :: (body ++ '\n' :: s))
  | unclosed {body : List Char} : last = true → '\n' ∉ body → Separator last ('#' :: body)

/-! ## Cuts -/

variable {α β : Type}

/-- A text from position `start` on, cut into separators and pieces.  A piece is told its own
position, and says whether it is counted.  The first separator may be empty before a piece only if
`tight` allows it, and one between two pieces only behind a counted one. -/
inductive Cut (piece : Nat → List Char → α → Bool → Prop) :
    Bool → Nat → List Char → List α → Prop
  | last {tight : Bool} {start : Nat} {s : List Char} :
      Separator true s → Cut piece tight start s []
  | step {tight counted : Bool} {start : Nat} {s w rest : List Char} {x : α} {xs : List α} :
      Separator false s → (s = [] → tight = true) → piece (start + s.length) w x counted →
      Cut piece counted (start + s.length + w.length) rest xs →
      Cut piece tight start (s ++ w ++ rest) (x :: xs)

variable {piece : Nat → List Char → α → Bool → Prop} {tight : Bool} {start : Nat}
  {text : List Char} {xs : List α}

/-- A step of a cut whose positions have been worked out. -/
lemma Cut.step_at {counted : Bool} {s w rest : List Char} {x : α} {m n : Nat}
    (hs : Separator false s) (htight : s = [] → tight = true) (hw : piece m w x counted)
    (hrest : Cut piece counted n rest xs) (hm : m = start + s.length) (hn : n = m + w.length) :
    Cut piece tight start (s ++ w ++ rest) (x :: xs) := by
  subst hm hn
  exact .step hs htight hw hrest

/-- More separator in front of a cut. -/
lemma Cut.prepend {p : List Char} (hp : ∀ last s, Separator last s → Separator last (p ++ s))
    (hne : p ≠ []) (h : Cut piece true (start + p.length) text xs) :
    Cut piece tight start (p ++ text) xs := by
  cases h with
  | last hs => exact .last (hp true _ hs)
  | @step _ counted _ s w rest x xs hs _ hw hrest =>
      rw [← List.append_assoc, ← List.append_assoc]
      have hnil : p ++ s ≠ [] := fun h => hne (List.append_eq_nil_iff.mp h).1
      exact .step_at (hp false s hs) (absurd · hnil) hw hrest (by simp; omega) rfl

/-- **A grammar of other pieces.**  If every piece of one sort is got from one of another sort, so
is every cut, piece by piece. -/
theorem Cut.iff_of_pieces {piece' : Nat → List Char → β → Bool → Prop} {reads : α → β → Prop}
    (h : ∀ start w y counted, piece' start w y counted ↔
      ∃ x, piece start w x counted ∧ reads x y) {ys : List β} :
    Cut piece' tight start text ys ↔
      ∃ xs, Cut piece tight start text xs ∧ List.Forall₂ reads xs ys := by
  constructor
  · intro hcut
    induction hcut with
    | last hs => exact ⟨[], .last hs, .nil⟩
    | step hs htight hw _ ih =>
        obtain ⟨x, hx, hread⟩ := (h _ _ _ _).mp hw
        obtain ⟨xs, hxs, hreads⟩ := ih
        exact ⟨x :: xs, .step hs htight hx hxs, .cons hread hreads⟩
  · rintro ⟨xs, hcut, hreads⟩
    induction hcut generalizing ys with
    | last hs =>
        cases hreads
        exact .last hs
    | step hs htight hw _ ih =>
        cases hreads with
        | cons hread hreads => exact .step hs htight ((h _ _ _ _).mpr ⟨_, hw, hread⟩) (ih hreads)

/-! ## Steps as written -/

/-- A name: a letter or an underscore, and then letters, digits and underscores. -/
def IsName (w : List Char) : Prop :=
  ∃ c cs, w = c :: cs ∧ isNameStart c = true ∧ ∀ d ∈ cs, isNamePart d = true

/-- A text with the place that it is written at. -/
def written (start : Nat) (w : List Char) : Spanned String :=
  ⟨String.ofList w, start, start + w.length⟩

/-- A step written from position `start` on: a name, and perhaps a `*` with blanks around it and
digits. -/
inductive RawStep.Written : Nat → List Char → RawStep → Bool → Prop
  | bare {start : Nat} {w : List Char} : IsName w →
      Written start w { name := written start w } false
  | counted {start : Nat} {w before after digits : List Char} : IsName w →
      (∀ c ∈ before, isBlank c = true) → (∀ c ∈ after, isBlank c = true) → digits ≠ [] →
      (∀ c ∈ digits, c.isDigit = true) →
      Written start (w ++ before ++ '*' :: (after ++ digits))
        { name := written start w
          count := some
            (written (start + w.length + before.length + 1 + after.length) digits) } true

end BlockCursor.Script
