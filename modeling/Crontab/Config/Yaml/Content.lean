import Crontab.Config.Yaml.Cursor
import Crontab.Text.Split

/-!
# YAML texts

The four ways to write a text: plain, in quotes, and as a block of lines.  A reader gives back the
text and the place after it, or nothing if the text is malformed.

* `plain?` : a text without quotes; a line break in it becomes a blank.
* `quoted?` : a text in single or double quotes.
* `block?` : the lines after `|` or `>`.
-/

set_option autoImplicit false

namespace Crontab.Yaml

open Text

/-- What stands for some line breaks in a text that is not a block: a blank for one of them, else one
break less. -/
def folded (breaks : Nat) : List Char :=
  if breaks = 1 then [' '] else List.replicate (breaks - 1) '\n'

/-! ## Plain texts -/

/-- Whether a plain text stops before the text at hand. -/
def stopsPlain (inFlow : Bool) : List Char → Bool
  | [] => true
  | c :: r => isSpace c || (inFlow && isFlowMark c) ||
      (c == ':' && (endsWord r || (inFlow && startsFlow r)))

/-- The characters of a plain text up to a blank. -/
def plainRun (inFlow : Bool) : List Char → List Char
  | [] => []
  | c :: r => if stopsPlain inFlow (c :: r) then [] else c :: plainRun inFlow r

/-- The place after blanks and further lines without text, and the number of breaks at the end of
blank lines.  A tab does not indent a line within the first columns, unless nothing but a comment
follows it. -/
def blankLines? (indent : Int) : (fuel breaks : Nat) → Cursor → Option (Nat × Cursor)
  | 0, _, _ => none
  | fuel + 1, breaks, c =>
    if c.isIndentedByTab indent then
      match c.trail? with
      | some d => if endsLine d.rest then blankLines? indent fuel breaks d else none
      | none => none
    else
      match c.rest with
      | '\n' :: _ => blankLines? indent fuel (if c.isLeading then breaks + 1 else breaks) c.next
      | ' ' :: _ | '\t' :: _ => blankLines? indent fuel breaks c.next
      | _ => some (breaks, c)

/-- What blanks and line breaks within a plain text stand for, and the place after them. -/
def plainGap? (indent : Int) (c : Cursor) : Option (List Char × Cursor) :=
  let d := c.after isBlank
  match d.rest with
  | '\n' :: r =>
    (blankLines? indent (r.length + 1) 0 d.next).map fun q => (folded (q.1 + 1), q.2)
  | _ => some (c.rest.takeWhile isBlank, d)

/-- Reads what follows in a plain text after the characters read so far, `acc`, and a gap.  Outside
brackets, its lines are not indented less than the first columns. -/
def plainRest? (inFlow : Bool) (indent : Int) : (fuel : Nat) → (acc gap : List Char) → Cursor →
    Option (List Char × Cursor)
  | 0, _, _, _ => none
  | fuel + 1, acc, gap, c =>
    match c.rest with
    | '#' :: _ => some (acc, c)
    | s =>
      let isDash := match s with
        | '-' :: r => startsFlow r
        | _ => false
      let w := plainRun inFlow s
      if c.atMark then some (acc, c)
      else if inFlow && isDash then none
      else if w = [] then some (acc, c)
      else
        let acc := acc ++ gap ++ w
        let d := c.advance w.length
        match d.rest with
        | [] => some (acc, d)
        | a :: _ =>
          if isSpace a then
            match plainGap? indent d with
            | some (gap, e) =>
              if inFlow = false ∧ e.column < indent then some (acc, e)
              else plainRest? inFlow indent fuel acc gap e
            | none => none
          else some (acc, d)

/-- Reads a plain text in a collection whose lines are indented to the given column.  The text itself
is indented more. -/
def plain? (inFlow : Bool) (indent : Int) (c : Cursor) : Option (List Char × Cursor) :=
  if inFlow = true ∧ c.column < indent + 1 then none
  else plainRest? inFlow (indent + 1) (c.rest.length + 1) [] [] c

/-! ## Quoted texts -/

/-- Reads what follows a backslash. -/
def escape? : List Char → Option (Char × List Char)
  | [] => none
  | 'x' :: r => codePoint? 2 r
  | 'u' :: r => codePoint? 4 r
  | 'U' :: r => codePoint? 8 r
  | c :: r =>
    let meant := match c with
      | '0' => some '\x00'
      | 'a' => some '\x07'
      | 'b' => some '\x08'
      | 't' | '\t' => some '\t'
      | 'n' => some '\n'
      | 'v' => some '\x0b'
      | 'f' => some '\x0c'
      | 'r' => some '\r'
      | 'e' => some '\x1b'
      | ' ' | '"' | '/' | '\\' => some c
      | 'N' => some '\u0085'
      | '_' => some '\u00a0'
      | 'L' => some '\u2028'
      | 'P' => some '\u2029'
      | _ => none
    meant.map fun d => (d, r)

/-- Whether tabs are among the first columns of a line that begins with the given blanks. -/
def hasTabWithin (indent : Int) (blanks : List Char) : Bool :=
  (blanks.take indent.toNat).contains '\t'

/-- Whether a quoted text may go on here: no document begins or ends, and the line is indented to the
given column. -/
def continuesQuoted (indent : Int) (c : Cursor) : Bool := !c.atMark && decide (indent ≤ c.column)

/-- What blanks and line breaks within quotes stand for, and the place after them.  After a backslash
at the end of a line, that line's break stands for nothing, and neither do the blanks that follow. -/
def quotedGap? (indent : Int) (isEscaped : Bool) (c : Cursor) : Option (List Char × Cursor) :=
  let run := c.rest.takeWhile isSpace
  let d := c.advance run.length
  let lines := pieces (· == '\n') run
  let further := if isEscaped then lines else lines.drop 1
  if further.any (hasTabWithin indent) then none
  else
    let breaks := run.count '\n'
    let meant :=
      if isEscaped then List.replicate breaks '\n'
      else if breaks = 0 then run
      else folded breaks
    some (meant, d)

/-- Reads up to the closing quote.  `acc` holds what was read, the last character first. -/
def quotedRest? (quote : Char) (indent : Int) : (fuel : Nat) → (acc : List Char) → Cursor →
    Option (List Char × Cursor)
  | 0, _, _ => none
  | fuel + 1, acc, c =>
    match c.rest with
    | [] => none
    | a :: r =>
      if isSpace a then
        match quotedGap? indent false c with
        | some (meant, d) =>
          if continuesQuoted indent d then quotedRest? quote indent fuel (meant.reverse ++ acc) d
          else none
        | none => none
      else if a = quote then
        if quote = '\'' ∧ r.head? = some '\'' then
          quotedRest? quote indent fuel ('\'' :: acc) (c.advance 2)
        else some (acc.reverse, c.next)
      else if quote = '"' ∧ a = '\\' then
        if r.head? = some '\n' then
          let start := c.advance 2
          match quotedGap? indent true start with
          | some (meant, d) =>
            if (d.index = start.index ∧ d.rest.head? = some quote) ∨ continuesQuoted indent d then
              quotedRest? quote indent fuel (meant ++ acc) d
            else none
          | none => none
        else match escape? r with
          | some (ch, s) => quotedRest? quote indent fuel (ch :: acc) (c.goTo s)
          | none => none
      else quotedRest? quote indent fuel (a :: acc) c.next

/-- Whether a text in quotes may be followed by the text at hand: by the end of the line, by a colon,
and between brackets by what ends an item. -/
def mayFollowQuoted (inFlow isOneLine : Bool) : List Char → Bool
  | [] => true
  | c :: _ => c == '\n' || (inFlow && (c == ',' || c == ']' || c == '\x7d')) ||
      (c == ':' && (inFlow || isOneLine))

/-- Reads a text in quotes, and the blanks and the comment after it on its line.  Its lines are
indented to the given column. -/
def quoted? (inFlow : Bool) (indent : Int) (c : Cursor) : Option (List Char × Cursor) :=
  match c.rest with
  | [] => none
  | quote :: r =>
    match quotedRest? quote indent (r.length + 1) [] c.next with
    | none => none
    | some (s, d) =>
      match d.trail? with
      | none => none
      | some e => if mayFollowQuoted inFlow (c.line = e.line) e.rest then some (s, e) else none

/-! ## Blocks -/

/-- What becomes of the line breaks at the end of a block. -/
inductive Chomping where
  | strip
  | clip
  | keep
deriving DecidableEq, Repr

/-- Reads the marks after `|` or `>`: what becomes of the last breaks, and how much the lines are
indented. -/
def blockMarks? : (chomping : Option Chomping) → (increment : Option Nat) → List Char →
    Option (Chomping × Nat × List Char)
  | none, n, '+' :: r => blockMarks? (some .keep) n r
  | none, n, '-' :: r => blockMarks? (some .strip) n r
  | k, none, c :: r =>
    if c = '0' then none
    else if c.isDigit then blockMarks? k (some (digitValue c)) r
    else some (k.getD .clip, 0, c :: r)
  | k, n, r => some (k.getD .clip, n.getD 0, r)

/-- The number of blanks at the beginning of a text. -/
def indentation (s : List Char) : Nat := (s.takeWhile (· == ' ')).length

/-- The deepest indentation up to the first line that is not blank. -/
def firstIndentation : (fuel deepest : Nat) → List Char → Nat
  | 0, deepest, _ => deepest
  | fuel + 1, deepest, s =>
    let deepest := max deepest (indentation s)
    match s.dropWhile (· == ' ') with
    | '\n' :: r => firstIndentation fuel deepest r
    | _ => deepest

/-- A block while it is read: its text, the break after its last line if there was one, the number
of blank lines after that, and whether the last line began with a blank. -/
structure Block where
  text : List Char
  lastBreak : List Char
  blankLines : Nat
  wasIndented : Bool

namespace Block

/-- The block with one more line.  Where lines are folded, the break between two lines that do not
begin with a blank becomes a blank. -/
def addLine (literal : Bool) (b : Block) (w : List Char) : Block :=
  let isIndented := match w with
    | c :: _ => isBlank c
    | [] => false
  let blanks := List.replicate b.blankLines '\n'
  let joint :=
    if !literal && b.lastBreak ≠ [] && !b.wasIndented && !isIndented then
      if b.blankLines = 0 then [' '] else blanks
    else b.lastBreak ++ blanks
  ⟨b.text ++ joint ++ w, [], 0, isIndented⟩

/-- The text of a block that ended at a place. -/
def finish (chomping : Chomping) (indent : Nat) (c : Cursor) (b : Block) : List Char :=
  let last := if c.rest = [] ∧ max indent 1 ≤ c.column then ['\n'] else []
  let blanks := List.replicate b.blankLines '\n'
  match chomping with
  | .strip => b.text
  | .clip => b.text ++ b.lastBreak ++ last
  | .keep => b.text ++ b.lastBreak ++ last ++ blanks

/-- Reads the lines of a block from the beginning of a line; gives back the block and the place of
the first line that does not belong to it. -/
def lines (literal : Bool) (indent : Nat) : (fuel : Nat) → Block → Cursor → Block × Cursor
  | 0, b, c => (b, c)
  | fuel + 1, b, c =>
    let d := c.advance (min indent (indentation c.rest))
    match d.rest with
    | [] => (b, d)
    | '\n' :: _ => lines literal indent fuel { b with blankLines := b.blankLines + 1 } d.next
    | _ =>
      if d.column < indent then (b, c)
      else
        let w := d.rest.takeWhile (· ≠ '\n')
        let b := b.addLine literal w
        let e := d.advance w.length
        match e.rest with
        | [] => (b, e)
        | _ => lines literal indent fuel { b with lastBreak := ['\n'] } e.next

/-- The text of a block without lines at the end of the document. -/
def emptyText (chomping : Chomping) (hasBreak : Bool) (blankLines : Nat) : List Char :=
  match chomping, hasBreak with
  | .strip, _ | _, false => []
  | .clip, true => ['\n']
  | .keep, true => List.replicate (max 1 blankLines) '\n'

end Block

/-- Whether the first line that is not blank is indented less than the block, but more than what is
around it. -/
def startsAstray (parent : Int) (indent : Nat) : (fuel : Nat) → List Char → Bool
  | 0, _ => false
  | fuel + 1, s =>
    let n := indentation s
    match s.dropWhile (· == ' ') with
    | [] => false
    | '\n' :: r => n ≤ indent && startsAstray parent indent fuel r
    | _ => n < indent && decide (parent < n)

/-- Reads a block of lines in a collection whose lines are indented to the given column.  The lines
themselves are indented more. -/
def block? (parent : Int) (c : Cursor) : Option (List Char × Cursor) :=
  let literal := c.rest.head? = some '|'
  match blockMarks? none none (c.rest.drop 1) with
  | none => none
  | some (chomping, increment, r) =>
    match (c.goTo r).trail? with
    | none => none
    | some d =>
      match d.rest with
      | [] => some (Block.emptyText chomping false 0, d)
      | '\n' :: '\t' :: _ => none
      | '\n' :: s =>
        let fuel := s.length + 1
        let indent :=
          if increment = 0 then max (firstIndentation fuel 0 s) (parent + 1).toNat
          else parent.toNat + increment
        let (b, e) := Block.lines literal indent fuel ⟨[], [], 0, false⟩ d.next
        if startsAstray parent indent fuel s then none
        else if b.text = [] ∧ b.lastBreak = [] ∧ e.rest = [] then
          some (Block.emptyText chomping true b.blankLines, e)
        else some (b.finish chomping indent e, e)
      | _ => none

end Crontab.Yaml
