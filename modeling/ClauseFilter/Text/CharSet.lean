/-!
# Sets of characters

A set of characters is a list of closed ranges of code points. A character belongs to it when one
of the ranges holds its code point. The blanks are such a set, and a text can be trimmed of them.
-/

namespace ClauseFilter.Text

/-- Closed ranges of code points, each as its first and its last. -/
abbrev CharSet := List (Nat × Nat)

def CharSet.contains (set : CharSet) (c : Char) : Bool :=
  set.any fun range => range.1 ≤ c.toNat && c.toNat ≤ range.2

/-! ## Blanks -/

/-- The ranges of the property `White_Space`. -/
def blank : CharSet := [
  (0x9, 0xD), (0x20, 0x20), (0x85, 0x85), (0xA0, 0xA0), (0x1680, 0x1680), (0x2000, 0x200A),
  (0x2028, 0x2029), (0x202F, 0x202F), (0x205F, 0x205F), (0x3000, 0x3000)]

/-- Whether a character is a blank. -/
def isBlank (c : Char) : Bool :=
  blank.contains c

/-- The text without the blanks before its first and after its last other character. -/
def trim (text : List Char) : List Char :=
  ((text.dropWhile isBlank).reverse.dropWhile isBlank).reverse

end ClauseFilter.Text
