import Crontab.Matcher

/-!
# Matchers in words of 64 bits

The numbers that a matcher accepts are the bits of a word, which is put together by shifts and asked
through masks.  Here this is computed one operation after another, and a shift by 64 places or more
ends the computation.

* `Word.bit?`, `Word.ofList?` : the word of one number and of several.
* `Word.contains?` : whether a number is in a word.
* `Matcher.ofMembers?` : the matcher of the numbers that the text of a field denotes.
* `Matcher.accepts?`, `Matcher.acceptsDay?` : acceptance of a number, and of a day of a month.
-/

set_option autoImplicit false

namespace Crontab

namespace ValueSet.Word

/-- A one, shifted by a number of places. -/
def bit? (v : Nat) : Option (BitVec 64) := if v < 64 then some (1#64 <<< v) else none

/-- The word of the numbers of a list, one bit after another. -/
def ofList? (l : List Nat) : Option (BitVec 64) :=
  l.foldlM (fun bits v => (bit? v).map (bits ||| ·)) 0#64

/-- Whether a number is in a word.  For a number beyond the word there is no mask to ask through. -/
def contains? (bits : BitVec 64) (v : Nat) : Option Bool :=
  if v < 64 then (bit? v).map fun mask => bits &&& mask != 0#64 else some false

end ValueSet.Word

namespace Matcher

open ValueSet

/-- The matcher of the numbers that the text of a field denotes, each put into a word. -/
def ofMembers? (f : Field) (members : List Nat) : Option Matcher :=
  if f = .dayOfMonth then
    (Word.ofList? (members.filter (· ≠ Field.lastDay))).map fun days =>
      .dayOfMonth ⟨days⟩ (members.contains Field.lastDay)
  else (Word.ofList? members).map fun bits => .values ⟨bits⟩

/-- Whether a number is accepted. -/
def accepts? : Matcher → Nat → Option Bool
  | .always, _ => some true
  | .values set, v | .dayOfMonth set _, v => Word.contains? set.bits v

/-- Whether a day of a month is accepted; only a day that is not in the word is compared with the
month's last one. -/
def acceptsDay? : Matcher → (day month : Nat) → (leap : Bool) → Option Bool
  | .dayOfMonth days last, day, month, leap => do
    if ← Word.contains? days.bits day then return true
    return last && day == lastDayOfMonth month leap
  | x, day, _, _ => x.accepts? day

end Matcher

end Crontab
