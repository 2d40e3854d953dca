import QuizPages.Text.Basic

/-!
# White space

The Unicode property White_Space, and a text without the white space at its ends.
-/

namespace QuizPages.Text

/-- The property White_Space of Unicode. -/
def isSpace (c : Char) : Bool :=
  let n := c.toNat
  (9 ≤ n && n ≤ 13) || n == 0x20 || n == 0x85 || n == 0xa0 || n == 0x1680
    || (0x2000 ≤ n && n ≤ 0x200a) || n == 0x2028 || n == 0x2029 || n == 0x202f
    || n == 0x205f || n == 0x3000

/-- Without the white space at the end. -/
def trimEnd (t : Text) : Text := (t.reverse.dropWhile isSpace).reverse

/-- Without the white space at both ends. -/
def trim (t : Text) : Text := trimEnd (t.dropWhile isSpace)

/-- Nothing but white space. -/
def isBlank (t : Text) : Bool := t.all isSpace

end QuizPages.Text
