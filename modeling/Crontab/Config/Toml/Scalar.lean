import Crontab.Calendar.Date
import Crontab.Config.Value
import Crontab.Decimal.Reader
import Crontab.Text.Radix
import Crontab.Text.Split

/-!
# TOML scalars

Quoted texts, numbers, truth values and dates of TOML documents.  A reader gives back what it read
and the rest of the text, or nothing if the text is malformed.

* `quotedText?` : a text in any of the four kinds of quotes.
* `dateTime?` : a date, a time or both, as a text in normal form.
* `word?` : a number, truth value or date.
-/

set_option autoImplicit false

namespace Crontab.Toml

open Text

/-- Whether a character may stand in quotes and comments as it is. -/
def isPlain (c : Char) : Bool := c == '\t' || (32 ≤ c.toNat && c.toNat != 127)

/-- Reads what follows a backslash. -/
def escape? : List Char → Option (Char × List Char)
  | 'b' :: r => some ('\x08', r)
  | 't' :: r => some ('\t', r)
  | 'n' :: r => some ('\n', r)
  | 'f' :: r => some ('\x0c', r)
  | 'r' :: r => some ('\r', r)
  | '"' :: r => some ('"', r)
  | '\\' :: r => some ('\\', r)
  | 'e' :: r => some ('\x1b', r)
  | 'x' :: r => codePoint? 2 r
  | 'u' :: r => codePoint? 4 r
  | 'U' :: r => codePoint? 8 r
  | _ => none

/-- Reads up to a closing double quote. -/
def basic? : (fuel : Nat) → (acc : List Char) → List Char → Option (List Char × List Char)
  | 0, _, _ => none
  | _ + 1, acc, '"' :: r => some (acc.reverse, r)
  | fuel + 1, acc, '\\' :: r =>
    match escape? r with
    | some (c, r) => basic? fuel (c :: acc) r
    | none => none
  | fuel + 1, acc, c :: r => if isPlain c then basic? fuel (c :: acc) r else none
  | _ + 1, _, [] => none

/-- Reads up to a closing single quote; there are no escapes. -/
def literal? : (acc : List Char) → List Char → Option (List Char × List Char)
  | acc, '\'' :: r => some (acc.reverse, r)
  | acc, c :: r => if isPlain c then literal? (c :: acc) r else none
  | _, [] => none

/-- A text without a line break at its beginning. -/
def dropBreak : List Char → List Char
  | '\n' :: r => r
  | '\r' :: '\n' :: r => r
  | s => s

/-- A text without the blanks and line breaks at its beginning. -/
def dropSpace : List Char → List Char
  | ' ' :: r | '\t' :: r | '\n' :: r | '\r' :: '\n' :: r => dropSpace r
  | s => s

/-- The rest after a backslash at the end of a line: the break and the blanks around it are left
out. -/
def joinLine? (s : List Char) : Option (List Char) :=
  match s.dropWhile fun c => c == ' ' || c == '\t' with
  | '\n' :: r => some (dropSpace r)
  | '\r' :: '\n' :: r => some (dropSpace r)
  | _ => none

/-- Up to two quotes at the end of a text may stand before the three that close it. -/
def closing? (q : Char) : List Char → Option (List Char × List Char)
  | a :: b :: c :: r =>
    if a = q ∧ b = q ∧ c = q then
      match r with
      | d :: e :: r' =>
        if d = q ∧ e = q then some ([q, q], r')
        else if d = q then some ([q], e :: r')
        else some ([], r)
      | [d] => if d = q then some ([q], []) else some ([], [d])
      | [] => some ([], [])
    else none
  | _ => none

/-- Reads up to three closing quotes; only double quotes come with escapes. -/
def multiline? (q : Char) : (fuel : Nat) → (acc : List Char) → List Char →
    Option (List Char × List Char)
  | 0, _, _ => none
  | fuel + 1, acc, s =>
    match closing? q s with
    | some (tail, r) => some (acc.reverse ++ tail, r)
    | none =>
      match s with
      | [] => none
      | '\r' :: '\n' :: r => multiline? q fuel ('\n' :: '\r' :: acc) r
      | '\n' :: r => multiline? q fuel ('\n' :: acc) r
      | '\\' :: r =>
        if q = '"' then
          match joinLine? r with
          | some r => multiline? q fuel acc r
          | none =>
            match escape? r with
            | some (c, r) => multiline? q fuel (c :: acc) r
            | none => none
        else multiline? q fuel ('\\' :: acc) r
      | c :: r => if isPlain c then multiline? q fuel (c :: acc) r else none

/-- Reads a text in quotes. -/
def quotedText? : List Char → Option (List Char × List Char)
  | '"' :: '"' :: '"' :: r => multiline? '"' (r.length + 1) [] (dropBreak r)
  | '\'' :: '\'' :: '\'' :: r => multiline? '\'' (r.length + 1) [] (dropBreak r)
  | '"' :: r => basic? (r.length + 1) [] r
  | '\'' :: r => literal? [] r
  | _ => none

/-! ## Numbers -/

/-- Digits with single underscores between them, without the underscores. -/
def groups? (isDigit : Char → Bool) (s : List Char) : Option (List Char) :=
  let parts := pieces (· == '_') s
  if parts.all fun p => p ≠ [] ∧ p.all isDigit then some parts.flatten else none

/-- Reads a whole number in another base. -/
def based? (base : Nat) (s : List Char) : Option Value :=
  match groups? (fun c => (radixDigit? base c).isSome) s with
  | some digits =>
    match radixDigits? base digits with
    | some n => if n ≤ maxSigned64 then some (.int n) else none
    | none => none
  | none => none

/-- Whether digits begin with a needless zero. -/
def hasLeadingZero : List Char → Bool
  | '0' :: _ :: _ => true
  | _ => false

/-- Reads the digits of a whole number in decimal. -/
def whole? (s : List Char) : Option (List Char) :=
  match groups? Char.isDigit s with
  | some digits => if hasLeadingZero digits then none else some digits
  | none => none

/-- A sign and the text after it. -/
def sign : List Char → List Char × List Char
  | '-' :: r => (['-'], r)
  | '+' :: r => ([], r)
  | r => ([], r)

/-- Reads the exponent of a number; there may be none. -/
def exponent? : List Char → Option (List Char)
  | [] => some []
  | c :: r =>
    if c = 'e' ∨ c = 'E' then
      let (s, digits) := sign r
      (groups? Char.isDigit digits).map fun d => 'e' :: s ++ d
    else none

/-- Reads a fraction or a whole number in decimal. -/
def number? (s : List Char) : Option Value :=
  let (minus, body) := sign s
  let isMark (c : Char) : Bool := c == '.' || c == 'e' || c == 'E'
  match whole? (body.takeWhile fun c => !isMark c) with
  | none => none
  | some digits =>
    match body.dropWhile fun c => !isMark c with
    | [] => (integer64? (minus ++ digits)).map Value.int
    | '.' :: r =>
      match groups? Char.isDigit (r.takeWhile fun c => !isMark c),
          exponent? (r.dropWhile fun c => !isMark c) with
      | some part, some e => finite? (minus ++ digits ++ '.' :: part ++ e)
      | _, _ => none
    | r =>
      match exponent? r with
      | some e => finite? (minus ++ digits ++ e)
      | none => none
where
  /-- The number of a text, which must not be infinite. -/
  finite? (s : List Char) : Option Value :=
    match float? s with
    | some x => if x.isInf then none else some (.float x)
    | none => none

/-! ## Dates -/

/-- The number of exactly `n` digits at the beginning of a text. -/
def fixed? (n : Nat) (s : List Char) : Option (Nat × List Char) :=
  let d := s.take n
  if d.length = n ∧ d.all Char.isDigit then some (digitsValue d, s.drop n) else none

/-- The rest after a given character. -/
def expect? (c : Char) : List Char → Option (List Char)
  | d :: r => if d = c then some r else none
  | [] => none

/-- A number with leading zeros up to two digits. -/
def two (n : Nat) : List Char := if n < 10 then '0' :: Nat.toDigits 10 n else Nat.toDigits 10 n

/-- Reads a date. -/
def date? (s : List Char) : Option (List Char × List Char) := do
  let (year, r) ← fixed? 4 s
  let (month, r) ← fixed? 2 (← expect? '-' r)
  let (day, r) ← fixed? 2 (← expect? '-' r)
  if 1 ≤ month ∧ month ≤ 12 ∧ 1 ≤ day ∧ day ≤ lastDayOfMonth month (isLeap year) then
    some (s.take 10, r)
  else none

/-- Reads a fraction of a second, of which nine digits count.  Trailing zeros do not, but for one. -/
def secondFraction? : List Char → Option (List Char × List Char)
  | '.' :: r =>
    let digits := r.takeWhile Char.isDigit
    let kept := ((digits.take 9).reverse.dropWhile (· == '0')).reverse
    if digits = [] then none
    else some ('.' :: (if kept = [] then ['0'] else kept), r.dropWhile Char.isDigit)
  | r => some ([], r)

/-- Reads the seconds of a time of day; there may be none. -/
def seconds? : List Char → Option (List Char × List Char)
  | ':' :: s => do
    let (second, r) ← fixed? 2 s
    let (part, r) ← secondFraction? r
    if second ≤ 60 then some (':' :: s.take 2 ++ part, r) else none
  | r => some ([], r)

/-- Reads a time of day. -/
def time? (s : List Char) : Option (List Char × List Char) := do
  let (hour, r) ← fixed? 2 s
  let (minute, r) ← fixed? 2 (← expect? ':' r)
  let (seconds, r) ← seconds? r
  if hour ≤ 23 ∧ minute ≤ 59 then some (s.take 5 ++ seconds, r) else none

/-- Reads an offset from UTC. -/
def offset? : List Char → Option (List Char)
  | [] => some []
  | ['z'] | ['Z'] => some ['Z']
  | c :: r => do
    if c ≠ '+' ∧ c ≠ '-' then none
    let (hour, r) ← fixed? 2 r
    let (minute, r) ← fixed? 2 (← expect? ':' r)
    if r = [] ∧ hour ≤ 23 ∧ minute ≤ 59 then
      some ((if hour + minute = 0 then '+' else c) :: two hour ++ ':' :: two minute)
    else none

/-- Whether a character stands between a date and a time. -/
def isDateMark (c : Char) : Bool := c == 'T' || c == 't' || c == ' '

/-- Reads a date, a time or both, as a text in normal form. -/
def dateTime? (s : List Char) : Option String :=
  match date? s with
  | some (d, []) => some (String.ofList d)
  | some (d, c :: r) =>
    if isDateMark c then do
      let (t, r) ← time? r
      let o ← offset? r
      some (String.ofList (d ++ 'T' :: t ++ o))
    else none
  | none =>
    match time? s with
    | some (t, []) => some (String.ofList t)
    | _ => none

/-! ## Words -/

/-- A scalar.  A date is the text of its normal form. -/
inductive Scalar where
  | value (v : Value)
  | date (text : String)
deriving Inhabited

/-- The value of a scalar. -/
def Scalar.toValue : Scalar → Value
  | value v => v
  | date text => .str text

/-- The characters of unquoted scalars. -/
def isWordChar (c : Char) : Bool :=
  c.isAlphanum || c == '+' || c == '-' || c == '_' || c == '.' || c == ':'

/-- Whether a text begins with a blank and an hour, as after a date. -/
def isTimeAhead : List Char → Bool
  | ' ' :: a :: b :: ':' :: _ => a.isDigit && b.isDigit
  | _ => false

/-- An unquoted scalar and the text after it; a date may have a time after a blank. -/
def wordText (s : List Char) : List Char × List Char :=
  let w := s.takeWhile isWordChar
  let r := s.dropWhile isWordChar
  if isTimeAhead r ∧ date? w = some (w, []) then
    (w ++ ' ' :: (r.drop 1).takeWhile isWordChar, (r.drop 1).dropWhile isWordChar)
  else (w, r)

/-- The value of a word that is no date. -/
def wordValue? (w : List Char) : Option Value :=
  let (minus, body) := sign w
  if w = "true".toList then some (.bool true)
  else if w = "false".toList then some (.bool false)
  else if body = "inf".toList ∨ body = "nan".toList then (float? (minus ++ body)).map Value.float
  else match w with
    | '0' :: 'x' :: r => based? 16 r
    | '0' :: 'o' :: r => based? 8 r
    | '0' :: 'b' :: r => based? 2 r
    | _ => number? w

/-- The scalar that a word stands for. -/
def Scalar.ofWord? (w : List Char) : Option Scalar :=
  match wordValue? w with
  | some v => some (value v)
  | none => (dateTime? w).map date

/-- Reads an unquoted scalar. -/
def word? (s : List Char) : Option (Scalar × List Char) :=
  let (w, r) := wordText s
  (Scalar.ofWord? w).map fun v => (v, r)

end Crontab.Toml
