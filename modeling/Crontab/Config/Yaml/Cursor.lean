import Crontab.Config.Yaml.Node

/-!
# Places in a YAML text

The layout of a YAML text has a meaning, so that a place in it knows its line and its column.

* `Cursor.advance` : the place some characters further.
* `Cursor.trail?` : the place after the blanks and the comment at the end of a line.
* `Cursor.skip?` : the next place that is neither blank nor in a comment.
* `Cursor.atMark` : whether a document begins or ends here.
-/

set_option autoImplicit false

namespace Crontab.Yaml

/-! ## Characters -/

/-- Whether a character is a blank within a line. -/
def isBlank (c : Char) : Bool := c == ' ' || c == '\t'

/-- Whether a character is a blank or a line break. -/
def isSpace (c : Char) : Bool := isBlank c || c == '\n'

/-- Whether a character is one of those that make up lists and tables between brackets. -/
def isFlowMark (c : Char) : Bool :=
  c == ',' || c == '[' || c == ']' || c == '\x7b' || c == '\x7d'

/-- Whether a character belongs to a word of letters, digits, `-` and `_`. -/
def isWordChar (c : Char) : Bool := c.isAlphanum || c == '-' || c == '_'

/-- Whether a text begins with a blank, a line break or its end. -/
def endsWord : List Char → Bool
  | [] => true
  | c :: _ => isSpace c

/-- Whether a text begins with a line break or its end. -/
def endsLine : List Char → Bool
  | [] => true
  | c :: _ => c == '\n'

/-- Whether a text begins with a flow mark. -/
def startsFlow : List Char → Bool
  | [] => false
  | c :: _ => isFlowMark c

/-! ## Places -/

/-- A place in a text: what is left of it, where that is, and whether only blanks come before it on
its line. -/
structure Cursor where
  rest : List Char
  index : Nat
  line : Nat
  column : Nat
  isLeading : Bool

namespace Cursor

/-- The beginning of a text. -/
def start (s : List Char) : Cursor := ⟨s, 0, 0, 0, true⟩

/-- The place after one character. -/
def next (c : Cursor) : Cursor :=
  match c.rest with
  | [] => c
  | '\n' :: r => ⟨r, c.index + 1, c.line + 1, 0, true⟩
  | a :: r => ⟨r, c.index + 1, c.line, c.column + 1, c.isLeading && isBlank a⟩

/-- The place some characters further. -/
def advance (c : Cursor) : Nat → Cursor
  | 0 => c
  | n + 1 => c.next.advance n

/-- The place after the characters that satisfy `p`. -/
def after (p : Char → Bool) (c : Cursor) : Cursor := c.advance (c.rest.takeWhile p).length

/-- The place where the text left is `r`, which is an end of the text at hand. -/
def goTo (c : Cursor) (r : List Char) : Cursor := c.advance (c.rest.length - r.length)

/-- The place at the end of the line. -/
def lineEnd (c : Cursor) : Cursor := c.after (· ≠ '\n')

/-- Whether a line here begins with a mark of three characters. -/
def atLineMark (mark : Char) (c : Cursor) : Bool :=
  c.column == 0 && match c.rest with
    | x :: y :: z :: r => x == mark && y == mark && z == mark && endsWord r
    | _ => false

/-- Whether a document begins or ends here. -/
def atMark (c : Cursor) : Bool := c.atLineMark '-' || c.atLineMark '.'

/-- The place after the blanks and the comment at the end of a line, or after the blanks if more
follows.  A comment stands after a blank. -/
def trail? (c : Cursor) : Option Cursor :=
  let d := c.after isBlank
  match d.rest with
  | '#' :: _ => if d.index = c.index then none else some d.lineEnd
  | _ => some d

/-- Whether a tab here indents its line within the first columns. -/
def isIndentedByTab (indent : Int) (c : Cursor) : Bool :=
  c.isLeading && decide (c.column < indent) && c.rest.head? == some '\t'

/-- The next place that is neither blank nor in a comment.  A tab does not indent a line within the
first columns, unless nothing but a comment follows it. -/
def skipWith? (indent : Int) : (fuel : Nat) → Cursor → Option Cursor
  | 0, _ => none
  | fuel + 1, c =>
    if c.isIndentedByTab indent then
      match c.trail? with
      | some d => if endsLine d.rest then skipWith? indent fuel d else none
      | none => none
    else
      match c.rest with
      | ' ' :: _ | '\t' :: _ | '\n' :: _ => skipWith? indent fuel c.next
      | '#' :: _ => skipWith? indent fuel c.lineEnd
      | _ => some c

/-- The next place that is neither blank nor in a comment, where lines are indented to a column. -/
def skip? (c : Cursor) (indent : Int) : Option Cursor := skipWith? indent (c.rest.length + 1) c

end Cursor

end Crontab.Yaml
