import Crontab.Tick.Loop

/-!
# The tick loop in words of 64 bits

Times are kept in signed words of 64 bits.  Here the loop computes one operation after another, and
a result that no word holds ends the computation.

* `Word.hold?` : a result, if a word holds it.
* `Word.boundary?`, `Word.valid?`, `Word.duration?` : the arithmetic of a turn.
* `Word.turn?`, `Word.run?` : turns and runs without an overflow.
-/

set_option autoImplicit false

namespace Crontab.Tick.Word

/-- The least and the greatest number that a signed word of 64 bits holds. -/
def least : Int := -0x8000000000000000

@[inherit_doc least]
def greatest : Int := 0x7fffffffffffffff

/-- The result of an operation; one beyond the words is an overflow. -/
def hold? (x : Int) : Option Int := if least ≤ x ∧ x ≤ greatest then some x else none

/-- The first boundary after a time: its period, the next one, and where that begins. -/
def boundary? (reference unit : Int) : Option Int := do
  let current ← hold? (period reference unit)
  let following ← hold? (current + 1)
  hold? (following * unit)

/-- Whether a sleep can come from a clock that has not jumped.  The two units are needed for a
positive sleep only. -/
def valid? (sleep unit : Int) : Option Bool :=
  if 0 < sleep then do
    let longest ← hold? (2 * unit)
    return decide (sleep < longest)
  else some false

/-- A sleep as a number of milliseconds to wait for, of which there is at least one. -/
def duration? (sleep : Int) : Option Nat := if 0 < sleep then some sleep.toNat else none

/-- One turn. -/
def turn? (unit : Int) (clock : Clock) (s : LoopState) : Option Turn := do
  let next ← boundary? s.previous unit
  let sleep ← hold? (next - clock s.reads)
  let reading := clock (s.reads + 1)
  if ← valid? sleep unit then
    let slept ← duration? sleep
    match s.receiver with
    | .waiting =>
      return .tick ⟨max reading next, slept⟩ none ⟨max reading next, s.reads + 2, .waiting⟩
    | .signalled | .abandoned => return .stop none (s.reads + 1)
    | .finished => return .fail .awaitedTwice (s.reads + 1)
  else
    match s.receiver with
    | .signalled => return .stop (some sleep) (s.reads + 1)
    | r => return .tick ⟨reading, 0⟩ (some sleep) ⟨reading, s.reads + 2, r.look⟩

/-- At most `turns` turns, of which the first comes after `n` ticks. -/
def run? (unit : Int) (clock : Clock) (e : Shutdown) : (turns n : Nat) → LoopState → Option Run
  | 0, _, s => some ⟨[], [], s.reads, .running⟩
  | turns + 1, n, s => do
    match ← turn? unit clock s with
    | .stop jump reads => return ⟨[], jump.toList, reads, .stopped⟩
    | .fail fault reads => return ⟨[], [], reads, .failed fault⟩
    | .tick t jump next =>
      let rest ← run? unit clock e turns (n + 1)
        { next with receiver := e.apply (n + 1) next.receiver }
      return rest.cons t jump

end Crontab.Tick.Word
