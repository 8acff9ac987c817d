/-!
# White space

The characters with Unicode's `White_Space` property, and cutting them off the ends of a text.
Texts are lists of characters throughout the library; `String` is used at its edges.

* `isBlank` : the property, as ranges of code points.
* `trim` : a text without the blanks at its two ends.
-/

set_option autoImplicit false

namespace Crontab.Text

/-- The characters with the `White_Space` property: five controls, the space, and nineteen others
beyond ASCII. -/
def isBlank (c : Char) : Bool :=
  let n := c.toNat
  (9 ≤ n && n ≤ 13) || n == 0x20 || n == 0x85 || n == 0xa0 || n == 0x1680 ||
    (0x2000 ≤ n && n ≤ 0x200a) || n == 0x2028 || n == 0x2029 || n == 0x202f || n == 0x205f ||
    n == 0x3000

/-- A text without its leading blanks. -/
def trimLeft (s : List Char) : List Char := s.dropWhile isBlank

/-- A text without its trailing blanks. -/
def trimRight (s : List Char) : List Char := (s.reverse.dropWhile isBlank).reverse

/-- A text without the blanks at its two ends. -/
def trim (s : List Char) : List Char := trimRight (trimLeft s)

/-- Letter case is folded for ASCII letters only. -/
def lower (s : List Char) : List Char := s.map Char.toLower

/-- Two texts that differ at most in the case of ASCII letters. -/
def sameLetters (s t : List Char) : Bool := lower s == lower t

theorem trimRight_nil : trimRight [] = [] := rfl

end Crontab.Text
