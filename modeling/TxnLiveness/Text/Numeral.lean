/-!
# Numerals

Unsigned machine integers in decimal: an optional plus sign and at least one digit, leading zeros
allowed, of a value below a bound.
-/

namespace TxnLiveness.Text

/-- The value of a decimal digit. -/
def digit? (c : Char) : Option Nat :=
  if c.isDigit then some (c.toNat - '0'.toNat) else none

/-- Reads digits on from the value `n`, or nothing if another character occurs. -/
def digitsFrom? (n : Nat) : List Char → Option Nat
  | [] => some n
  | c :: l => (digit? c).bind fun d => digitsFrom? (10 * n + d) l

/-- Reads a list of one or more digits. -/
def digits? : List Char → Option Nat
  | [] => none
  | l => digitsFrom? 0 l

/-- How many values a machine word has. -/
def wordBound : Nat := 18_446_744_073_709_551_616

/-- Reads an unsigned integer below `bound`. -/
def unsigned? (bound : Nat) (l : List Char) : Option Nat :=
  let body :=
    match l with
    | '+' :: l => l
    | l => l
  (digits? body).filter (· < bound)

end TxnLiveness.Text
