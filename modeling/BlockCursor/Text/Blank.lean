/-!
# Blank characters

What counts as white space wherever this library reads or trims text: the characters with the
Unicode property `White_Space`, twenty-five in all.

* `isBlank` — the property, as a table of ranges.
* `trimEnd`, `trim` — a text without the blanks at its end, or at both ends.
* `cut?` — a text before and after the first occurrence of a separator.
-/

namespace BlockCursor.Text

/-- The Unicode property `White_Space`.  The separators U+001C to U+001F, the zero-width space and
the byte order mark do not have it. -/
def isBlank (c : Char) : Bool :=
  let n := c.toNat
  (0x9 ≤ n && n ≤ 0xD) || n == 0x20 || n == 0x85 || n == 0xA0 || n == 0x1680 ||
    (0x2000 ≤ n && n ≤ 0x200A) || n == 0x2028 || n == 0x2029 || n == 0x202F || n == 0x205F ||
    n == 0x3000

/-- A list of characters without the blanks at its end. -/
def dropBlanksEnd (cs : List Char) : List Char :=
  (cs.reverse.dropWhile isBlank).reverse

/-- A text without the blanks at its end. -/
def trimEnd (s : String) : String :=
  String.ofList (dropBlanksEnd s.toList)

/-- A text without the blanks at both ends. -/
def trim (s : String) : String :=
  String.ofList (dropBlanksEnd (s.toList.dropWhile isBlank))

/-- What stands before and after the first `sep`, or nothing when there is no `sep`. -/
def cut? (sep : Char) : List Char → Option (List Char × List Char)
  | [] => none
  | c :: rest =>
    if c = sep then some ([], rest)
    else (cut? sep rest).map fun (before, after) => (c :: before, after)

/-- Cutting loses nothing but the separator, and the part before holds none. -/
theorem cut?_eq_some_iff {sep : Char} {cs before after : List Char} :
    cut? sep cs = some (before, after) ↔ cs = before ++ sep :: after ∧ sep ∉ before := by
  induction cs generalizing before with
  | nil => simp [cut?]
  | cons c rest ih =>
    by_cases h : c = sep
    · subst h
      cases before with
      | nil => simp [cut?]
      | cons d ds =>
        simp only [cut?, if_true, List.cons_append, List.cons.injEq, List.mem_cons]
        exact ⟨fun h => by simp at h, fun h => absurd (Or.inl h.1.1) h.2⟩
    · simp only [cut?, if_neg h, Option.map_eq_some_iff, Prod.mk.injEq, Prod.exists]
      cases before with
      | nil => simp [h]
      | cons d ds =>
        constructor
        · rintro ⟨b, a, hcut, hb, rfl⟩
          obtain ⟨rfl, rfl⟩ := List.cons.inj hb
          obtain ⟨rfl, hmem⟩ := ih.1 hcut
          exact ⟨rfl, by simp [hmem, Ne.symm h]⟩
        · rintro ⟨heq, hmem⟩
          obtain ⟨rfl, rfl⟩ := List.cons.inj heq
          exact ⟨ds, after, ih.2 ⟨rfl, fun hm => hmem (List.mem_cons_of_mem _ hm)⟩, rfl, rfl⟩

end BlockCursor.Text
