import RuleScan.Unicode.Query

/-!
# Blanks around a text

Trimming removes the white space at both ends, and a text is blank when nothing else is left.
-/

namespace RuleScan.Text

open RuleScan.Unicode

/-- The characters without leading and trailing white space. -/
def trimChars (cs : List Char) : List Char :=
  ((cs.dropWhile isBlank).reverse.dropWhile isBlank).reverse

/-- The text without leading and trailing white space. -/
def trim (s : String) : String := String.ofList (trimChars s.toList)

/-- Whether a text holds nothing but white space. -/
def isBlankText (s : String) : Bool := s.toList.all isBlank

end RuleScan.Text
