import Crontab.Config.Yaml.Cursor

/-!
# YAML tags

A tag before a node says what it should be.  It is written as a handle and a name, and the handle
stands for the beginning of the whole name; a `%TAG` line before a document says for which one.

* `tag?` : reads a tag.
* `directive?` : reads a line that begins with `%`.
* `Tag.resolve?` : what a tag means under a rule.
-/

set_option autoImplicit false

namespace Crontab.Yaml

open Text

/-! ## The characters of names -/

/-- The characters of whole names. -/
def isUriChar (c : Char) : Bool := c.isAlphanum || "-#;/?:@&=+$,_.!~*'()[]%".contains c

/-- The characters of names after a handle. -/
def isTagChar (c : Char) : Bool := isUriChar c && !isFlowMark c && c != '!'

/-- Reads an octet that is written as `%` and two hexadecimal digits. -/
def octet? : List Char → Option (Nat × List Char)
  | '%' :: a :: b :: r =>
    match hexDigit? a, hexDigit? b with
    | some x, some y => some (16 * x + y, r)
    | _, _ => none
  | _ => none

/-- How many octets follow the first one of a character. -/
def octetsAfter? (first : Nat) : Option Nat :=
  if first < 0x80 then some 0
  else if 0xc0 ≤ first ∧ first < 0xe0 then some 1
  else if 0xe0 ≤ first ∧ first < 0xf0 then some 2
  else if 0xf0 ≤ first ∧ first < 0xf8 then some 3
  else none

/-- Reads some octets after the first one; together they are the digits of a number. -/
def moreOctets? : (count code : Nat) → List Char → Option (Nat × List Char)
  | 0, code, s => some (code, s)
  | count + 1, code, s =>
    match octet? s with
    | some (n, r) => if 0x80 ≤ n ∧ n < 0xc0 then moreOctets? count (0x100 * code + n) r else none
    | none => none

/-- Reads a character that is written as octets, whose number is its code point. -/
def escapedChar? (s : List Char) : Option (Char × List Char) :=
  match octet? s with
  | none => none
  | some (first, r) =>
    match octetsAfter? first with
    | none => none
    | some count =>
      match moreOctets? count first r with
      | some (code, t) => (scalar? code).map fun c => (c, t)
      | none => none

/-- Reads the characters of a name. -/
def uriRun? (p : Char → Bool) : (fuel : Nat) → List Char → Option (List Char × List Char)
  | 0, _ => none
  | _ + 1, [] => some ([], [])
  | fuel + 1, c :: r =>
    if !p c then some ([], c :: r)
    else
      match if c = '%' then escapedChar? (c :: r) else some (c, r) with
      | some (a, s) => (uriRun? p fuel s).map fun q => (a :: q.1, q.2)
      | none => none

/-- Reads the characters of a name; there may be none. -/
def uri? (p : Char → Bool) (s : List Char) : Option (List Char × List Char) :=
  uriRun? p (s.length + 1) s

/-! ## Tags as they are written -/

/-- A tag as it is written.  One with a whole name, and the tag that is a mere `!`, have the empty
handle. -/
structure TagText where
  handle : String
  name : String
deriving DecidableEq, Repr

/-- The handle with a word between its marks. -/
def handleOf (word : List Char) : String := String.ofList ('!' :: word ++ ['!'])

/-- Reads a tag. -/
def tag? : List Char → Option (TagText × List Char)
  | '!' :: '<' :: r =>
    match uri? isUriChar r with
    | some (name, '>' :: s) => some (⟨"", String.ofList name⟩, s)
    | _ => none
  | '!' :: r =>
    let word := r.takeWhile isWordChar
    match r.dropWhile isWordChar with
    | '!' :: s =>
      match uri? isTagChar s with
      | some ([], _) | none => none
      | some (name, t) => some (⟨handleOf word, String.ofList name⟩, t)
    | s =>
      match uri? isTagChar s with
      | none => none
      | some (more, t) =>
        if word = [] ∧ more = [] then some (⟨"", "!"⟩, t)
        else some (⟨"!", String.ofList (word ++ more)⟩, t)
  | _ => none

/-! ## Lines before a document -/

/-- What a handle stands for. -/
structure TagRule where
  handle : String
  beginning : String
deriving DecidableEq, Repr

/-- A line before a document: the version of the format, what a handle stands for, or something
else. -/
inductive Directive where
  | version
  | rule (r : TagRule)
  | other
deriving DecidableEq, Repr

/-- The most digits in a part of a version. -/
def maxVersionDigits : Nat := 9

/-- Reads a part of a version. -/
def versionPart? (s : List Char) : Option (List Char) :=
  let digits := s.takeWhile Char.isDigit
  if digits = [] ∨ maxVersionDigits < digits.length then none else some (s.drop digits.length)

/-- Reads a version, two numbers with a point between them. -/
def version? (s : List Char) : Option (List Char) :=
  match versionPart? s with
  | some ('.' :: r) => versionPart? r
  | _ => none

/-- Reads what a `%TAG` line says. -/
def tagRule? : List Char → Option (TagRule × List Char)
  | '!' :: r =>
    let word := r.takeWhile isWordChar
    let handle? := match r.dropWhile isWordChar with
      | '!' :: s => some (handleOf word, s)
      | s => if word = [] then some ("!", s) else none
    match handle? with
    | none => none
    | some (handle, s) =>
      let s := s.dropWhile isBlank
      let beginning? := match s with
        | '!' :: t => (uri? isUriChar t).map fun q => ('!' :: q.1, q.2)
        | c :: _ => if isTagChar c then uri? isUriChar s else none
        | [] => none
      match beginning? with
      | some (beginning, t) =>
        if endsWord t then some (⟨handle, String.ofList beginning⟩, t) else none
      | none => none
  | _ => none

/-- Reads a line that begins with `%`, up to the blanks and the comment at its end. -/
def directive? (s : List Char) : Option (Directive × List Char) :=
  let name := (s.drop 1).takeWhile isWordChar
  let r := (s.drop 1).dropWhile isWordChar
  if name = [] ∨ endsWord r = false then none
  else
    let t := r.dropWhile isBlank
    match String.ofList name with
    | "YAML" => (version? t).map fun u => (.version, u)
    | "TAG" => (tagRule? t).map fun q => (.rule q.1, q.2)
    | _ => some (.other, t.dropWhile (· ≠ '\n'))

/-! ## What a tag means -/

/-- The beginning of the names of the standard kinds. -/
def standardBeginning : String := "tag:yaml.org,2002:"

/-- What a handle stands for under a rule.  Without a rule for it, `!!` begins the names of the
standard kinds, and no other handle between two marks may be used. -/
def TagText.beginning? (t : TagText) (rule : Option TagRule) : Option String :=
  let declared := match rule with
    | some r => if r.handle = t.handle then some r.beginning else none
    | none => none
  match declared with
  | some b => some b
  | none =>
    if t.handle = "!!" then some standardBeginning
    else if t.handle.length < 2 then some t.handle
    else none

/-- What a tag means under a rule. -/
def Tag.resolve? (rule : Option TagRule) (t : TagText) : Option Tag :=
  (t.beginning? rule).map fun b => if b = standardBeginning then .standard t.name else .custom

end Crontab.Yaml
