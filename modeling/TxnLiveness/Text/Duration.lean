import TxnLiveness.Text.Blank
import TxnLiveness.Text.Numeral
/-!
# Durations

Durations are written as numbers with units, added up: `1s 45ms`, `2 hours`, `1.5m`. Blanks may
stand anywhere but inside a unit. The sum is kept in seconds and nanoseconds, no number on the way
may need more than 64 bits, and a fraction has to come out even.
-/

namespace TxnLiveness.Text

/-- Durations that can be counted are below this, in nanoseconds. -/
def durationBound : Nat := wordBound * 1_000_000_000

/-- Why a text cannot be read as a duration. -/
inductive DurationFault
  /-- It is not written as one, or a number in it does not fit. -/
  | malformed
  /-- Parts of a second add up to a second that the sum has no room for. -/
  | overflow
deriving DecidableEq

/-- A number that fits a machine word. -/
def word? (n : Nat) : Option Nat := if n < wordBound then some n else none

/-- What can be read, or else that the text is malformed. -/
def wellFormed {α : Type} (a : Option α) : Except DurationFault α := a.elim (.error .malformed) .ok

/-- What a unit stands for. -/
inductive TimeUnit
  /-- That many nanoseconds, less than a second. -/
  | nanos (n : Nat)
  | seconds (n : Nat)

def timeUnits : List (List String × TimeUnit) :=
  [(["nanos", "nsec", "ns"], .nanos 1),
    (["usec", "us", "µs"], .nanos 1_000),
    (["millis", "msec", "ms"], .nanos 1_000_000),
    (["seconds", "second", "secs", "sec", "s"], .seconds 1),
    (["minutes", "minute", "min", "mins", "m"], .seconds 60),
    (["hours", "hour", "hr", "hrs", "h"], .seconds 3_600),
    (["days", "day", "d"], .seconds 86_400),
    (["weeks", "week", "wk", "wks", "w"], .seconds 604_800),
    (["months", "month", "M"], .seconds 2_630_016),
    (["years", "year", "yr", "yrs", "y"], .seconds 31_557_600)]

def timeUnit? (name : String) : Option TimeUnit :=
  (timeUnits.find? (·.1.contains name)).map (·.2)

/-- A sum of seconds and nanoseconds. -/
structure TimeSum where
  seconds : Nat := 0
  nanos : Nat := 0

namespace TimeSum

def add (t : TimeSum) (seconds nanos : Nat) : Except DurationFault TimeSum := do
  let nanos ← wellFormed (word? (t.nanos + nanos))
  let seconds ← wellFormed (word? (t.seconds + seconds))
  let carry := nanos / 1_000_000_000
  if seconds + carry < wordBound then return ⟨seconds + carry, nanos % 1_000_000_000⟩
  else throw (if nanos = 1_000_000_000 then .overflow else .malformed)

/-- Adds a whole number of units. -/
def addWhole (t : TimeSum) (n : Nat) : TimeUnit → Except DurationFault TimeSum
  | .nanos k => do t.add 0 (← wellFormed (word? (n * k)))
  | .seconds k => do t.add (← wellFormed (word? (n * k))) 0

/-- A fraction `n / d` of `k`, if it is a whole number. -/
def share? (k n d : Nat) : Option Nat := do
  let m ← word? (n * k)
  if m % d = 0 then some (m / d) else none

/-- Adds a fraction of a unit, which has to be a whole number of nanoseconds for units of up to a
minute and of seconds for longer ones. A nanosecond has no fractions. -/
def addFraction (t : TimeSum) (n d : Nat) : TimeUnit → Except DurationFault TimeSum
  | .nanos 1 => throw .malformed
  | .nanos k => do t.add 0 (← wellFormed (share? k n d))
  | .seconds k =>
    if k ≤ 60 then do t.add 0 (← wellFormed (share? (k * 1_000_000_000) n d))
    else do t.add (← wellFormed (share? k n d)) 0

def toNanos (t : TimeSum) : Nat := t.seconds * 1_000_000_000 + t.nanos

end TimeSum

/-- Whether `c` may go on a number: a digit or a blank. -/
def isNumeric (c : Char) : Bool := c.isDigit || isBlank c

def isUnitLetter (c : Char) : Bool := c.isAlpha || c = 'µ'

/-- The digits among the numeric characters at the front of `l`. -/
def digitRun (l : List Char) : List Char := (l.takeWhile isNumeric).filter (·.isDigit)

/-- The fraction after a point at the front of `l`, if there is a point, and what comes after. -/
def fraction? (l : List Char) : Option (Option (Nat × Nat) × List Char) :=
  match l with
  | '.' :: l => do
    let n ← (digits? (digitRun l)).bind word?
    let d ← word? (Nat.pow 10 (digitRun l).length)
    return (some (n, d), l.dropWhile isNumeric)
  | l => some (none, l)

/-- A number with its unit. -/
structure Span where
  whole : Nat
  fraction : Option (Nat × Nat)
  unit : TimeUnit

/-- Reads the number and unit at the front of `l` and returns what comes after. -/
def span? (l : List Char) : Option (Span × List Char) :=
  match l with
  | [] => none
  | c :: l => do
    let whole ← word? (← digitsFrom? (← digit? c) (digitRun l))
    let (fraction, l) ← fraction? (l.dropWhile isNumeric)
    let unit ← timeUnit? (String.ofList (l.takeWhile isUnitLetter))
    return (⟨whole, fraction, unit⟩, l.dropWhile isUnitLetter)

def TimeSum.addSpan (t : TimeSum) (s : Span) : Except DurationFault TimeSum := do
  let t ← t.addWhole s.whole s.unit
  s.fraction.elim (.ok t) fun f => t.addFraction f.1 f.2 s.unit

/-- Adds up the numbers with units that `l` is made of. After a unit there has to be a number, a
blank or the end. -/
def spans (t : TimeSum) (l : List Char) : Except DurationFault TimeSum :=
  match l.dropWhile isBlank with
  | [] => .ok t
  | c :: m =>
    match span? (c :: m) with
    | none => .error .malformed
    | some (s, rest) =>
      if rest.length < l.length ∧ rest.head?.all isNumeric then
        (t.addSpan s).bind fun t => spans t rest
      else .error .malformed
termination_by l.length

/-! ## Reading and writing -/

/-- Reads a duration, in nanoseconds. A bare zero needs no unit. -/
def duration (s : String) : Except DurationFault Nat :=
  if s = "0" then .ok 0
  else if s.toList.all isBlank then .error .malformed
  else (spans {} s.toList).map (·.toNanos)

/-- The digits of a fraction of `10 ^ places`, without zeros at the end. -/
def fractionDigits (places n : Nat) : List Char :=
  let digits := Nat.toDigits 10 n
  let padded := List.replicate (places - digits.length) '0' ++ digits
  (padded.reverse.dropWhile (· = '0')).reverse

/-- A duration in nanoseconds, written in the largest of four units that is not above it. -/
def describeDuration (nanos : Nat) : String :=
  let (places, scale, unit) :=
    if 1_000_000_000 ≤ nanos then (9, 1_000_000_000, "s")
    else if 1_000_000 ≤ nanos then (6, 1_000_000, "ms")
    else if 1_000 ≤ nanos then (3, 1_000, "µs")
    else (0, 1, "ns")
  let fraction := String.ofList (fractionDigits places (nanos % scale))
  toString (nanos / scale) ++ (if fraction.isEmpty then "" else "." ++ fraction) ++ unit

end TxnLiveness.Text
