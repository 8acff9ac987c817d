import Crontab.Config.Yaml.Tag

/-!
# The layout of a YAML text

A YAML text is a row of tokens.  Some of them are not written: where lists and tables begin and end
shows in how their lines are indented, and that a text is a key shows only at the colon after it.  A
`Layout` is what is known at a place: the tokens so far, the columns of the lists and tables around
it, and where a key may have begun.

* `Layout.openBlock` : a list or table begins at a column.
* `Layout.closeTo` : the lists and tables beyond a column end.
* `Layout.markKey` : a key may begin here.
-/

set_option autoImplicit false

namespace Crontab.Yaml

/-- A token.  Those that begin and end indented lists and tables are not written. -/
inductive Token where
  | directive (d : Directive)
  | beginDocument
  | endDocument
  | beginItems
  | beginFields
  | endBlock
  | openList
  | closeList
  | openTable
  | closeTable
  | dash
  | comma
  | key
  | colon
  | alias (name : String)
  | anchor (name : String)
  | tag (t : TagText)
  | plain (text : List Char)
  | quoted (text : List Char)
deriving DecidableEq, Repr

/-- A place where a key may have begun: where it is, how many tokens come before it, and whether
nothing but a key can stand there. -/
structure KeyStart where
  index : Nat
  line : Nat
  column : Nat
  tokensBefore : Nat
  isRequired : Bool
deriving DecidableEq, Repr

/-- A step in the indentation: the column of what is around it, and whether a list or a table begins
there.  If not, it is the room for what follows a colon or a dash. -/
structure Step where
  outer : Int
  isBlock : Bool
deriving DecidableEq, Repr

/-- What is known at a place of a text.  `indent` is the column to which lines are indented, `key` the
place where a key may have begun that is between the same brackets, `outerKeys` those between the
brackets around them, and `tokens` the tokens so far, the last one first.  `adjacentColonAt` is where
a colon needs no blank after it.  `hasTable` says that a table between brackets was opened, and
`isInPair` that a lone key and its value stand between brackets as a table of their own. -/
structure Layout where
  indent : Int
  steps : List Step
  key : Option KeyStart
  outerKeys : List (Option KeyStart)
  mayBeginKey : Bool
  adjacentColonAt : Nat
  hasTable : Bool
  isInPair : Bool
  tokens : List Token
  count : Nat

namespace Layout

/-- The layout at the beginning of a text. -/
def start : Layout := ⟨-1, [], none, [], true, 0, false, false, [], 0⟩

/-- The most brackets around a place. -/
def maxBrackets : Nat := 255

/-- The most characters of a key. -/
def maxKeyLength : Nat := 1024

/-- Whether the place is between brackets. -/
def inFlow (l : Layout) : Bool := !l.outerKeys.isEmpty

/-! ## Tokens -/

/-- One more token. -/
def push (l : Layout) (t : Token) : Layout :=
  { l with tokens := t :: l.tokens, count := l.count + 1 }

/-- One more token after the first `n` ones. -/
def insert (l : Layout) (n : Nat) (t : Token) : Layout :=
  let k := l.count - n
  { l with tokens := l.tokens.take k ++ t :: l.tokens.drop k, count := l.count + 1 }

/-! ## Indentation -/

/-- The steps that remain when lists and tables beyond a column end, the column they indent to, and
the number of lists and tables that end. -/
def unwind (column : Int) : (indent : Int) → (ended : Nat) → List Step → Int × Nat × List Step
  | indent, ended, [] => (indent, ended, [])
  | indent, ended, s :: r =>
    if indent ≤ column then (indent, ended, s :: r)
    else unwind column s.outer (if s.isBlock then ended + 1 else ended) r

/-- The layout after the lists and tables beyond a column have ended.  Between brackets none ends. -/
def closeTo (l : Layout) (column : Int) : Layout :=
  if l.inFlow then l
  else
    let (indent, ended, steps) := unwind column l.indent 0 l.steps
    { l with
      indent, steps
      tokens := List.replicate ended .endBlock ++ l.tokens
      count := l.count + ended }

/-- The layout without the room for what follows a colon or a dash, if lines are indented to at most
the given column. -/
def dropRoomTo (l : Layout) (column : Int) : Layout :=
  match l.steps with
  | ⟨outer, false⟩ :: r => if l.indent ≤ column then { l with indent := outer, steps := r } else l
  | _ => l

/-- The layout where a list or a table begins at a column, if none has begun there yet.  Its token
stands after the first `tokensBefore` ones.  Between brackets none begins. -/
def openBlock (l : Layout) (column tokensBefore : Nat) (t : Token) : Layout :=
  if l.inFlow then l
  else
    let l := l.dropRoomTo column
    if l.indent < column then
      { l.insert tokensBefore t with indent := column, steps := ⟨l.indent, true⟩ :: l.steps }
    else l

/-- The layout with room for what follows a colon or a dash: it is indented by one column. -/
def makeRoom (l : Layout) : Layout :=
  match l.steps with
  | ⟨_, true⟩ :: _ =>
    if l.inFlow then l
    else { l with indent := l.indent + 1, steps := ⟨l.indent, false⟩ :: l.steps }
  | _ => l

/-- The layout without the room for what follows a colon or a dash. -/
def dropRoom (l : Layout) : Layout := l.dropRoomTo l.indent

/-! ## Keys -/

/-- The layout where a key may begin at a place, if one may begin there. -/
def markKey (l : Layout) (c : Cursor) : Layout :=
  if l.mayBeginKey then
    let isRequired := !l.inFlow && decide (l.indent = c.column) && match l.steps with
      | s :: _ => s.isBlock
      | [] => false
    { l with key := some ⟨c.index, c.line, c.column, l.count, isRequired⟩ }
  else l

/-- The layout where no key is to come, unless it must. -/
def dropKey? (l : Layout) : Option Layout :=
  match l.key with
  | some k => if k.isRequired then none else some { l with key := none }
  | none => some l

/-- The layout at a place where a key that began too far before no longer counts.  Outside brackets,
a key is on one line. -/
def expireKey? (l : Layout) (c : Cursor) : Option Layout :=
  match l.key with
  | some k =>
    if l.inFlow = false ∧ (k.line < c.line ∨ k.index + maxKeyLength < c.index) then l.dropKey?
    else some l
  | none => some l

/-! ## Brackets -/

/-- The layout between one more pair of brackets. -/
def enter? (l : Layout) : Option Layout :=
  if l.outerKeys.length < maxBrackets then
    some { l with key := none, outerKeys := l.key :: l.outerKeys }
  else none

/-- The layout after a pair of brackets. -/
def leave (l : Layout) : Layout :=
  match l.outerKeys with
  | k :: r => { l with key := k, outerKeys := r }
  | [] => l

/-- The layout after a lone key and its value. -/
def endPair (l : Layout) : Layout :=
  if l.isInPair then { l with isInPair := false, hasTable := false }.push .closeTable else l

end Layout

end Crontab.Yaml
