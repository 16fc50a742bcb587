/-!
# Random numbers

The generator xoshiro256++ with 64-bit words, and draws of a percentage from it.
-/

namespace TxnLiveness.Sim

structure Random where
  a : UInt64
  b : UInt64
  c : UInt64
  d : UInt64

namespace Random

def rotateLeft (x : UInt64) (k : UInt64) : UInt64 := (x <<< k) ||| (x >>> (64 - k))

def next (r : Random) : UInt64 × Random :=
  let value := rotateLeft (r.a + r.d) 23 + r.a
  let c := r.c ^^^ r.a
  let d := r.d ^^^ r.b
  (value,
    { a := r.a ^^^ d
      b := r.b ^^^ c
      c := c ^^^ (r.b <<< 17)
      d := rotateLeft d 45 })

/-- A step of the generator that the state is seeded by, and its output permuted to 32 bits. -/
def seedWord (state : UInt64) : UInt64 × UInt64 :=
  let state := state * 6364136223846793005 + 11634580027462260723
  let mixed := (((state >>> 18) ^^^ state) >>> 27) &&& 0xffffffff
  let turn := state >>> 59
  let word := ((mixed >>> turn) ||| (mixed <<< (32 - turn))) &&& 0xffffffff
  (word, state)

/-- Two words of 32 bits, the lower one first. -/
def seedPair (state : UInt64) : UInt64 × UInt64 :=
  let (low, state) := seedWord state
  let (high, state) := seedWord state
  (low ||| (high <<< 32), state)

def ofSeed (seed : UInt64) : Random :=
  let (a, state) := seedPair seed
  let (b, state) := seedPair state
  let (c, state) := seedPair state
  let (d, _) := seedPair state
  { a, b, c, d }

/-- A number below a hundred, drawn without bias: a draw that falls into the uneven rest is drawn
again. Gives up after so many draws. -/
def percentWithin : Nat → Random → Nat × Random
  | 0, r => (0, r)
  | tries + 1, r =>
    let (value, r) := r.next
    let scaled := (value >>> 32) * 100
    let rest : UInt64 := scaled &&& 0xffffffff
    if rest < (100 : UInt64) <<< 25 then ((scaled >>> 32).toNat, r) else percentWithin tries r

/-- A number below a hundred. A draw is refused less than one time in four, so a thousand of them
never are. -/
def percent (r : Random) : Nat × Random := percentWithin 1000 r

/-- Whether an event of `chance` in a hundred happens. One that cannot happen draws nothing. -/
def roll (r : Random) (chance : Nat) : Bool × Random :=
  if chance = 0 then (false, r)
  else
    let (value, r) := r.percent
    (value < chance, r)

end Random

end TxnLiveness.Sim
