/-!
# White space

The characters that count as blank, and texts with the blanks around them taken off.
-/

namespace CallCheck

/-- A blank: the control characters for layout, the spaces of every width, the line and paragraph
separators. -/
def isBlank (c : Char) : Bool :=
  let n := c.toNat
  (0x9 ≤ n && n ≤ 0xD) || n == 0x20 || n == 0x85 || n == 0xA0 || n == 0x1680
    || (0x2000 ≤ n && n ≤ 0x200A) || n == 0x2028 || n == 0x2029 || n == 0x202F || n == 0x205F
    || n == 0x3000

/-- A list without the elements at either end for which `p` holds. -/
def trimBy {α : Type} (p : α → Bool) (s : List α) : List α :=
  ((s.dropWhile p).reverse.dropWhile p).reverse

def trimBlank (s : List Char) : List Char := trimBy isBlank s

end CallCheck
