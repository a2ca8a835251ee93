/-
  DocStore.Text.Blank — the Unicode White_Space property, and trimming by it.

  Blank characters are exactly the 25 code points of White_Space: the ASCII controls
  tab to carriage return, space, next line, no-break space, ogham space mark, the
  spaces U+2000 to U+200A, the line and paragraph separators, narrow no-break space,
  medium mathematical space and ideographic space. A zero-width space is not blank.
-/

namespace DocStore.Text

/-- The White_Space property. -/
def isBlank (c : Char) : Bool :=
  let n := c.toNat
  (0x9 ≤ n && n ≤ 0xD) || n == 0x20 || n == 0x85 || n == 0xA0 || n == 0x1680 ||
    (0x2000 ≤ n && n ≤ 0x200A) || n == 0x2028 || n == 0x2029 || n == 0x202F ||
    n == 0x205F || n == 0x3000

/-- Drop leading blanks. -/
def dropBlanks (cs : List Char) : List Char := cs.dropWhile isBlank

/-- Drop blanks at both ends. -/
def trimBlanks (cs : List Char) : List Char := (dropBlanks (dropBlanks cs).reverse).reverse

/-- The text without blanks at either end. -/
def trimText (s : String) : String := String.ofList (trimBlanks s.toList)

/-- The text without leading blanks. -/
def trimStart (s : String) : String := String.ofList (dropBlanks s.toList)

/-- A text is blank when it holds only blank characters (or nothing). -/
def isBlankText (s : String) : Bool := s.toList.all isBlank

theorem isBlank_of_isWhitespace (c : Char) (h : c.isWhitespace = true) : isBlank c = true := by
  simp only [Char.isWhitespace, Bool.or_eq_true, decide_eq_true_eq] at h
  rcases h with ((rfl | rfl) | rfl) | rfl <;> decide

end DocStore.Text
