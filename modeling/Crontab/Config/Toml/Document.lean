import Crontab.Config.Toml.Scalar
import Crontab.Config.Value

/-!
# TOML documents

A document is a list of lines, each a table's header or a key with a value.

* `Node` : what a document has built up so far.  How a table came about decides who may add to it.
* `Node.value?` : the value of a part; a table whose first name is `dateName` is a date.
* `Document.read?` : the fields of a document, or nothing if it is malformed.
-/

set_option autoImplicit false

namespace Crontab.Toml

/-- How a table came about: on the way to a header, by its own header, or by a dotted key. -/
inductive Origin where
  | onTheWay
  | header
  | dotted
deriving DecidableEq, Repr

/-- A part of a document.  Lists between brackets and tables between braces are complete; to other
tables, and to lists of them, later lines may add. -/
inductive Node where
  | scalar (s : Scalar)
  | list (items : List Node)
  | inlineTable (fields : List (String × Node))
  | table (origin : Origin) (fields : List (String × Node))
  | tables (items : List (List (String × Node)))
deriving Inhabited

/-- The fields of a table that is being built. -/
abbrev Fields := List (String × Node)

/-- The fields with one name given a node. -/
def setNode (name : String) (n : Node) : Fields → Fields
  | [] => [(name, n)]
  | (m, o) :: r => if m = name then (m, n) :: r else (m, o) :: setNode name n r

/-! ## Values -/

/-- The name that makes a table a date. -/
def dateName : String := "$__toml_private_datetime"

/-- The node that holds the date, if a table is one.  In the order of its names, `dateName` is then
the first. -/
def dateNode? (fields : Fields) : Option Node :=
  if fields.any fun f => f.1 < dateName then none else fields.lookup dateName

/-- The date that a node holds as a text. -/
def Node.date? : Node → Option Value
  | .scalar (.value (.str s)) => (dateTime? s.toList).map Value.str
  | _ => none

/-- The value of a table whose fields have the given values. -/
def tableValue? (fields : Fields) (values : Option (List (String × Value))) : Option Value :=
  match dateNode? fields with
  | some n => n.date?
  | none => values.map Value.table

mutual

/-- The value of a node. -/
def Node.value? : Node → Option Value
  | .scalar s => some s.toValue
  | .list items => (itemValues? items).map Value.array
  | .inlineTable fields | .table _ fields => tableValue? fields (fieldValues? fields)
  | .tables items => (tableValues? items).map Value.array

/-- The values of the items of a list. -/
def itemValues? : List Node → Option (List Value)
  | [] => some []
  | n :: r =>
    match n.value?, itemValues? r with
    | some v, some vs => some (v :: vs)
    | _, _ => none

/-- The values of fields. -/
def fieldValues? : List (String × Node) → Option (List (String × Value))
  | [] => some []
  | (name, n) :: r =>
    match n.value?, fieldValues? r with
    | some v, some vs => some ((name, v) :: vs)
    | _, _ => none

/-- The values of a list of tables. -/
def tableValues? : List (List (String × Node)) → Option (List Value)
  | [] => some []
  | fields :: r =>
    match tableValue? fields (fieldValues? fields), tableValues? r with
    | some v, some vs => some (v :: vs)
    | _, _ => none

end

/-! ## Headers and keys -/

/-- Applies a change to the last of a list of tables. -/
def changeLast (f : Fields → Option Fields) (items : List Fields) : Option Node :=
  match items.reverse with
  | last :: before => (f last).map fun fs => .tables (before.reverse ++ [fs])
  | [] => none

/-- The fields after the header of a table, which must not have been defined before. -/
def openTable : List String → Fields → Option Fields
  | [], _ => none
  | [k], fields =>
    match fields.lookup k with
    | none => some (setNode k (.table .header []) fields)
    | some (.table .onTheWay fs) => some (setNode k (.table .header fs) fields)
    | some _ => none
  | k :: r, fields =>
    match fields.lookup k with
    | none => (openTable r []).map fun fs => setNode k (.table .onTheWay fs) fields
    | some (.table o fs) => (openTable r fs).map fun fs => setNode k (.table o fs) fields
    | some (.tables items) => (changeLast (openTable r) items).map fun n => setNode k n fields
    | some _ => none

/-- The fields after the header of one more table in a list of tables. -/
def appendTable : List String → Fields → Option Fields
  | [], _ => none
  | [k], fields =>
    match fields.lookup k with
    | none => some (setNode k (.tables [[]]) fields)
    | some (.tables items) => some (setNode k (.tables (items ++ [[]])) fields)
    | some _ => none
  | k :: r, fields =>
    match fields.lookup k with
    | none => (appendTable r []).map fun fs => setNode k (.table .onTheWay fs) fields
    | some (.table o fs) => (appendTable r fs).map fun fs => setNode k (.table o fs) fields
    | some (.tables items) => (changeLast (appendTable r) items).map fun n => setNode k n fields
    | some _ => none

/-- The fields with a node under a dotted key.  `closed` says that the table holding the last part
is one of a list of tables, so that a dotted key must not add to it.  Nor does it add to a table with
a header of its own. -/
def assign (n : Node) : (closed : Bool) → List String → Fields → Option Fields
  | _, [], _ => none
  | closed, [k], fields =>
    if closed then none
    else match fields.lookup k with
      | none => some (setNode k n fields)
      | some _ => none
  | _, k :: r, fields =>
    match fields.lookup k with
    | none => (assign n false r []).map fun fs => setNode k (.table .dotted fs) fields
    | some (.table .dotted fs) =>
      (assign n false r fs).map fun fs => setNode k (.table .dotted fs) fields
    | some (.table .onTheWay fs) =>
      (assign n false r fs).map fun fs => setNode k (.table .onTheWay fs) fields
    | some (.table .header _) => none
    | some (.tables items) => (changeLast (assign n true r) items).map fun m => setNode k m fields
    | some _ => none

/-- The fields with a node under a dotted key in the table of a header. -/
def assignIn (n : Node) (key : List String) : (table : List String) → Fields → Option Fields
  | [], fields => assign n false key fields
  | k :: r, fields =>
    match fields.lookup k with
    | some (.table o fs) => (assignIn n key r fs).map fun fs => setNode k (.table o fs) fields
    | some (.tables items) => (changeLast (assignIn n key r) items).map fun m => setNode k m fields
    | _ => none

/-! ## Reading -/

/-- A text without the blanks at its beginning. -/
def skipBlanks (s : List Char) : List Char := s.dropWhile fun c => c == ' ' || c == '\t'

/-- The rest of a text after a comment, which ends at the line's end. -/
def skipComment? : List Char → Option (List Char)
  | '\n' :: r => some ('\n' :: r)
  | '\r' :: '\n' :: r => some ('\n' :: r)
  | c :: r => if isPlain c then skipComment? r else none
  | [] => some []

/-- The rest of a text after blanks, line breaks and comments. -/
def skipLines? : (fuel : Nat) → List Char → Option (List Char)
  | 0, _ => none
  | fuel + 1, s =>
    match skipBlanks s with
    | '\n' :: r => skipLines? fuel r
    | '\r' :: '\n' :: r => skipLines? fuel r
    | '#' :: r =>
      match skipComment? r with
      | some r => skipLines? fuel r
      | none => none
    | r => some r

/-- The rest of a text after the end of a line. -/
def endLine? (s : List Char) : Option (List Char) :=
  match skipBlanks s with
  | [] => some []
  | '\n' :: r => some r
  | '\r' :: '\n' :: r => some r
  | '#' :: r => (skipComment? r).map fun r => r.drop 1
  | _ => none

/-- The characters of unquoted keys. -/
def isKeyChar (c : Char) : Bool := c.isAlphanum || c == '_' || c == '-'

/-- Reads one part of a key. -/
def keyPart? (s : List Char) : Option (String × List Char) :=
  match s with
  | '"' :: r => (basic? (r.length + 1) [] r).map fun q => (String.ofList q.1, q.2)
  | '\'' :: r => (literal? [] r).map fun q => (String.ofList q.1, q.2)
  | _ =>
    let w := s.takeWhile isKeyChar
    if w = [] then none else some (String.ofList w, s.dropWhile isKeyChar)

/-- The most parts of a key, and the most lists and tables in a value around another. -/
def maxDepth : Nat := 80

/-- Reads a key of at most so many parts, which are set apart by points. -/
def parts? : (limit : Nat) → List Char → Option (List String × List Char)
  | 0, _ => none
  | limit + 1, s =>
    match keyPart? (skipBlanks s) with
    | none => none
    | some (part, r) =>
      match skipBlanks r with
      | '.' :: r => (parts? limit r).map fun q => (part :: q.1, q.2)
      | r => some ([part], r)

/-- Reads a key. -/
def key? (s : List Char) : Option (List String × List Char) := parts? maxDepth s

/-- Reads a key between braces, up to the value after it.  Lines may end before and after the `=`. -/
def inlineKey? (s : List Char) : Option (List String × List Char) :=
  match key? s with
  | none => none
  | some (k, r) =>
    match skipLines? (r.length + 1) r with
    | some ('=' :: r) => (skipLines? (r.length + 1) r).map fun r => (k, r)
    | _ => none

mutual

/-- Reads a value.  `depth` says how many more lists and tables may be in each other. -/
def value? : (fuel depth : Nat) → List Char → Option (Node × List Char)
  | 0, _, _ => none
  | fuel + 1, depth, s =>
    match s with
    | '[' :: r =>
      match depth, skipLines? (r.length + 1) r with
      | 0, _ | _, none => none
      | _ + 1, some (']' :: r) => some (.list [], r)
      | depth + 1, some r => items? fuel depth [] r
    | '\x7b' :: r =>
      match depth, skipLines? (r.length + 1) r with
      | 0, _ | _, none => none
      | _ + 1, some ('\x7d' :: r) => some (.inlineTable [], r)
      | depth + 1, some r => inline? fuel depth [] r
    | '"' :: _ | '\'' :: _ =>
      (quotedText? s).map fun q => (.scalar (.value (.str (String.ofList q.1))), q.2)
    | _ => (word? s).map fun q => (.scalar q.1, q.2)

/-- Reads the items of a list; a comma may follow the last one. -/
def items? : (fuel depth : Nat) → (acc : List Node) → List Char → Option (Node × List Char)
  | 0, _, _, _ => none
  | fuel + 1, depth, acc, s =>
    match value? fuel depth s with
    | none => none
    | some (n, r) =>
      match skipLines? (r.length + 1) r with
      | some (']' :: r) => some (.list (n :: acc).reverse, r)
      | some (',' :: r) =>
        match skipLines? (r.length + 1) r with
        | some (']' :: r) => some (.list (n :: acc).reverse, r)
        | some r => items? fuel depth (n :: acc) r
        | none => none
      | _ => none

/-- Reads the fields of a table between braces; a comma may follow the last one. -/
def inline? : (fuel depth : Nat) → (acc : Fields) → List Char → Option (Node × List Char)
  | 0, _, _, _ => none
  | fuel + 1, depth, acc, s =>
    match inlineKey? s with
    | none => none
    | some (k, r) =>
      match value? fuel depth r with
      | none => none
      | some (n, r) =>
        match assign n false k acc, skipLines? (r.length + 1) r with
        | some acc, some ('\x7d' :: r) => some (.inlineTable acc, r)
        | some acc, some (',' :: r) =>
          match skipLines? (r.length + 1) r with
          | some ('\x7d' :: r) => some (.inlineTable acc, r)
          | some r => inline? fuel depth acc r
          | none => none
        | _, _ => none

end

/-- A document while it is read: its fields, and the table that keys belong to. -/
structure Document where
  fields : Fields
  current : List String

/-- Reads a header that closes with the given text. -/
def header? (close s : List Char) : Option (List String × List Char) :=
  match key? s with
  | some (path, r) =>
    if close.isPrefixOf r then (endLine? (r.drop close.length)).map fun r => (path, r) else none
  | none => none

/-- Reads one line that is not empty. -/
def Document.line? (d : Document) (s : List Char) : Option (Document × List Char) :=
  match s with
  | '[' :: '[' :: r => do
    let (path, r) ← header? [']', ']'] r
    some (⟨← appendTable path d.fields, path⟩, r)
  | '[' :: r => do
    let (path, r) ← header? [']'] r
    some (⟨← openTable path d.fields, path⟩, r)
  | s =>
    match key? s with
    | some (k, '=' :: r) => do
      let (n, r) ← value? (r.length + 1) maxDepth (skipBlanks r)
      let r ← endLine? r
      some ({ d with fields := ← assignIn n k d.current d.fields }, r)
    | _ => none

/-- Reads lines up to the end. -/
def Document.lines? : (fuel : Nat) → Document → List Char → Option Document
  | 0, _, _ => none
  | fuel + 1, d, s =>
    match skipLines? (s.length + 1) s with
    | none => none
    | some [] => some d
    | some s =>
      match d.line? s with
      | some (d, r) => lines? fuel d r
      | none => none

/-- Reads a document.  A mark of the byte order at its beginning does not count. -/
def Document.read? (s : List Char) : Option (List (String × Value)) :=
  let body := match s with
    | '\ufeff' :: r => r
    | s => s
  match Document.lines? (body.length + 1) ⟨[], []⟩ body with
  | none => none
  | some d => if (dateNode? d.fields).isSome then none else fieldValues? d.fields

end Crontab.Toml
