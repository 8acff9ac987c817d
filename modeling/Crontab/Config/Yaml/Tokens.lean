import Crontab.Config.Yaml.Content
import Crontab.Config.Yaml.Layout

/-!
# The tokens of a YAML text

Each function here reads what begins at a place with a given layout.  It gives back the layout and the
place after it, or nothing if the text is malformed.

* `Layout.written?` : reads the mark or the text at a place.
* `tokens?` : all tokens of a text.
-/

set_option autoImplicit false

namespace Crontab.Yaml

namespace Layout

/-- Goes on to the next place that is neither blank nor in a comment.  A key may begin on a new line,
but not between brackets. -/
def skip? (l : Layout) (c : Cursor) : Option (Layout × Cursor) :=
  (c.skip? l.indent).map fun d =>
    ({ l with mayBeginKey := l.mayBeginKey || (!l.inFlow && decide (c.line < d.line)) }, d)

/-! ## Documents -/

/-- The layout where a line before a document or a mark of a document stands. -/
def outside? (l : Layout) : Option Layout :=
  (l.closeTo (-1)).dropKey?.map fun l => { l with mayBeginKey := false }

/-- Reads a line that begins with `%`. -/
def directive? (l : Layout) (c : Cursor) : Option (Layout × Cursor) :=
  match l.outside?, Yaml.directive? c.rest with
  | some l, some (d, r) =>
    match (c.goTo r).trail? with
    | some e => if endsLine e.rest then some (l.push (.directive d), e.next) else none
    | none => none
  | _, _ => none

/-- Reads the mark where a document begins. -/
def beginDocument? (l : Layout) (c : Cursor) : Option (Layout × Cursor) :=
  l.outside?.map fun l => (l.push .beginDocument, c.advance 3)

/-- Reads the mark where a document ends.  Nothing but a comment follows it on its line. -/
def endDocument? (l : Layout) (c : Cursor) : Option (Layout × Cursor) :=
  match l.outside?, (c.advance 3).trail? with
  | some l, some d => if endsLine d.rest then some (l.push .endDocument, d) else none
  | _, _ => none

/-! ## Brackets -/

/-- Reads an opening bracket, where a key may begin. -/
def open? (t : Token) (l : Layout) (c : Cursor) : Option (Layout × Cursor) :=
  match (l.markKey c).makeRoom.enter?, c.next.trail? with
  | some l, some d =>
    some ({ l with mayBeginKey := true, hasTable := l.hasTable || t == Token.openTable }.push t, d)
  | _, _ => none

/-- Reads a closing bracket.  A colon may follow it at once. -/
def close? (t : Token) (l : Layout) (c : Cursor) : Option (Layout × Cursor) :=
  match l.dropKey?, c.next.trail? with
  | some l, some d =>
    let l := { l.leave with mayBeginKey := false }.endPair.push t
    some (if l.inFlow then { l with adjacentColonAt := d.index } else l, d)
  | _, _ => none

/-- Reads a comma, after which a key may begin. -/
def comma? (l : Layout) (c : Cursor) : Option (Layout × Cursor) :=
  match l.dropKey?, c.next.trail? with
  | some l, some d => some ({ l with mayBeginKey := true }.endPair.push .comma, d)
  | _, _ => none

/-! ## Items and fields -/

/-- The place after the blanks behind a dash.  Another dash does not follow a tab. -/
def afterDash? (c : Cursor) : Option Cursor :=
  match c.trail? with
  | none => none
  | some d =>
    let isDash := match d.rest with
      | '-' :: r => endsWord r
      | _ => false
    if isDash && (c.rest.takeWhile isBlank).contains '\t' then none else some d

/-- Reads a dash, which begins an item of a list. -/
def dash? (l : Layout) (c : Cursor) : Option (Layout × Cursor) :=
  if l.inFlow || !l.mayBeginKey then none
  else
    match afterDash? c.next with
    | none => none
    | some d =>
      let l := l.openBlock c.column l.count .beginItems
      let isBare := match d.rest with
        | a :: _ => a == '\n' || isFlowMark a
        | [] => false
      let l := if isBare then l.makeRoom else l
      l.dropKey?.map fun l => ({ l with mayBeginKey := true }.push .dash, d)

/-- The next place that is neither a blank nor in a comment, where tabs are no blanks. -/
def skipUntabbed : (fuel : Nat) → Cursor → Cursor
  | 0, c => c
  | fuel + 1, c =>
    match c.rest with
    | ' ' :: _ | '\n' :: _ => skipUntabbed fuel c.next
    | '#' :: _ => skipUntabbed fuel c.lineEnd
    | _ => c

/-- Reads the mark before a key that may be more than a text on one line.  No tab follows it. -/
def keyMark? (l : Layout) (c : Cursor) : Option (Layout × Cursor) :=
  if !l.inFlow && !l.mayBeginKey then none
  else
    let l :=
      if l.inFlow then { l with hasTable := true }
      else l.openBlock c.column l.count .beginFields
    let d := skipUntabbed c.rest.length c.next
    match d.rest with
    | '\t' :: _ => none
    | _ =>
      if d.index = c.index + 1 then none
      else l.dropKey?.map fun l => ({ l with mayBeginKey := !l.inFlow }.push .key, d)

/-- The place after a colon.  A word does not follow a tab. -/
def afterColon? (c : Cursor) : Option Cursor :=
  match c.rest with
  | '\t' :: _ =>
    match c.trail? with
    | none => none
    | some d =>
      let isWord := match d.rest with
        | a :: _ => isWordChar a
        | [] => false
      if isWord && !(c.rest.takeWhile isBlank).contains ' ' then none else some d
  | _ => some c

/-- Reads a colon between a key and its value.  If a key may have begun before, its token goes there,
and so do those of the table that begins with it. -/
def colon? (l : Layout) (c : Cursor) : Option (Layout × Cursor) :=
  let isInPair := l.inFlow && !l.hasTable
  match afterColon? c.next with
  | none => none
  | some d =>
    let after? := match l.key with
      | some k =>
        if isInPair ∧ k.line < c.line then none
        else
          let l := l.insert k.tokensBefore .key
          let l := if isInPair then l.insert k.tokensBefore .openTable else l
          let l := l.openBlock k.column k.tokensBefore .beginFields
          some { l.makeRoom with key := none, mayBeginKey := false }
      | none =>
        if !l.inFlow && !l.mayBeginKey then none
        else
          let l := if isInPair then l.push .openTable else l
          let l := l.openBlock c.column l.count .beginFields
          some { l.makeRoom with mayBeginKey := !l.inFlow }
    after?.map fun l => ({ l with isInPair }.push .colon, d)

/-! ## Names and texts -/

/-- The characters of names. -/
def isNameChar (c : Char) : Bool := !isSpace c && !isFlowMark c && c != '\ufeff'

/-- Reads the name of a node, before it or in place of it. -/
def name? (t : String → Token) (l : Layout) (c : Cursor) : Option (Layout × Cursor) :=
  let name := (c.rest.drop 1).takeWhile isNameChar
  if name = [] then none
  else
    let l := { l.markKey c with mayBeginKey := false }
    some (l.push (t (String.ofList name)), c.advance (name.length + 1))

/-- Reads a tag.  A blank follows it, or between brackets a flow mark. -/
def tag? (l : Layout) (c : Cursor) : Option (Layout × Cursor) :=
  match Yaml.tag? c.rest with
  | none => none
  | some (t, r) =>
    if endsWord r || (l.inFlow && startsFlow r) then
      some ({ l.markKey c with mayBeginKey := false }.push (.tag t), c.goTo r)
    else none

/-- Reads a plain text.  A key may follow it on a new line. -/
def plain? (l : Layout) (c : Cursor) : Option (Layout × Cursor) :=
  let l := (l.markKey c).dropRoom
  (Yaml.plain? l.inFlow l.indent c).map fun (s, d) =>
    ({ l with mayBeginKey := d.isLeading }.push (.plain s), d)

/-- Reads a text in quotes.  A colon may follow it at once. -/
def quoted? (l : Layout) (c : Cursor) : Option (Layout × Cursor) :=
  let l := { l.markKey c with mayBeginKey := false }
  match Yaml.quoted? l.inFlow l.indent c with
  | none => none
  | some (s, d) =>
    (l.skip? d).map fun (l, e) => ({ l with adjacentColonAt := e.index }.push (.quoted s), e)

/-- Reads a block of lines, after which a key may begin. -/
def block? (l : Layout) (c : Cursor) : Option (Layout × Cursor) :=
  let l := (l.markKey c).dropRoom
  (Yaml.block? l.indent c).map fun (s, d) =>
    ({ l with mayBeginKey := true }.push (.quoted s), d)

/-! ## All tokens -/

/-- Reads the mark or the text that begins with the character `a`, before `r`. -/
def written? (l : Layout) (c : Cursor) (a : Char) (r : List Char) : Option (Layout × Cursor) :=
  match a with
  | '[' => l.open? .openList c
  | '\x7b' => l.open? .openTable c
  | ']' => l.close? .closeList c
  | '\x7d' => l.close? .closeTable c
  | ',' => l.comma? c
  | '*' => l.name? .alias c
  | '&' => l.name? .anchor c
  | '!' => l.tag? c
  | '\'' | '"' => l.quoted? c
  | '%' | '@' | '\x60' => none
  | '|' | '>' => if l.inFlow then l.plain? c else l.block? c
  | '-' => if endsWord r then l.dash? c else l.plain? c
  | '?' => if endsWord r then l.keyMark? c else l.plain? c
  | ':' =>
    if endsWord r || (l.inFlow && (startsFlow r || c.index == l.adjacentColonAt)) then l.colon? c
    else l.plain? c
  | _ => l.plain? c

/-- Reads what begins with the character `a`, before `r`.  What belongs to a list or a table is not
indented less than it, brackets included. -/
def next? (l : Layout) (c : Cursor) (a : Char) (r : List Char) : Option (Layout × Cursor) :=
  if c.column = 0 ∧ a = '%' then l.directive? c
  else if c.atLineMark '-' then l.beginDocument? c
  else if c.atLineMark '.' then l.endDocument? c
  else if c.column < l.indent then none
  else l.written? c a r

/-- Reads all tokens from a place on. -/
def tokens? : (fuel : Nat) → Layout → Cursor → Option (List Token)
  | 0, _, _ => none
  | fuel + 1, l, c =>
    match l.skip? c with
    | none => none
    | some (l, c) =>
      match l.expireKey? c with
      | none => none
      | some l =>
        let l := l.closeTo c.column
        match c.rest with
        | [] => ((l.closeTo (-1)).dropKey?).map fun l => l.tokens.reverse
        | a :: r =>
          match l.next? c a r with
          | some (l, d) => tokens? fuel l d
          | none => none

end Layout

/-- The tokens of a text whose lines end in line feeds. -/
def tokens? (s : List Char) : Option (List Token) :=
  Layout.tokens? (s.length + 1) .start (.start s)

end Crontab.Yaml
