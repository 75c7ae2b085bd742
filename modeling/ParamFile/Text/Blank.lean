/-!
# White space

The characters that separate words, and texts without them at their ends.

`trim_of_ends` says that a text which neither begins nor ends with white space is its own trimmed
form.
-/

namespace ParamFile.Text

def isBlank (c : Char) : Bool :=
  let n := c.toNat
  (9 ≤ n && n ≤ 13) || n == 0x20 || n == 0x85 || n == 0xA0 || n == 0x1680 ||
    (0x2000 ≤ n && n ≤ 0x200A) || n == 0x2028 || n == 0x2029 || n == 0x202F || n == 0x205F ||
    n == 0x3000

/-- The text without the characters at its end that satisfy `p`. -/
def dropEnd (p : Char → Bool) (s : List Char) : List Char := (s.reverse.dropWhile p).reverse

def trim (s : List Char) : List Char := dropEnd isBlank (s.dropWhile isBlank)

/-- Nothing is dropped when the last character does not satisfy `p`. -/
theorem dropEnd_append_singleton (p : Char → Bool) (s : List Char) (c : Char) (h : p c = false) :
    dropEnd p (s ++ [c]) = s ++ [c] := by
  simp [dropEnd, h]

/-- A text whose ends are not white space is its own trimmed form. -/
theorem trim_of_ends (s : List Char) (first : ∀ c ∈ s.head?, isBlank c = false)
    (last : ∀ c ∈ s.getLast?, isBlank c = false) : trim s = s := by
  have front : s.dropWhile isBlank = s := by
    cases s with
    | nil => rfl
    | cons c r => simp [first c (by simp)]
  rw [trim, front]
  rcases List.eq_nil_or_concat s with rfl | ⟨r, c, rfl⟩
  · rfl
  · rw [List.concat_eq_append] at last ⊢
    exact dropEnd_append_singleton _ _ _ (last c (by simp))

end ParamFile.Text
