import Herald.Number.Shortest
/-!
# Numbers in JSON text

A number token is an integer as long as it has neither a fraction nor an
exponent and fits a 64-bit word of its sign; minus zero and every other token
is a double. The double is found by one rounding of the leading digits that
fit a 64-bit word and one multiplication or division by a power of ten, so it
need not be the one nearest to the decimal.
-/

namespace Herald.Json

/-- A number: an integer, or a double with its sign. -/
inductive Number where
  | integer (n : Int)
  | double (isNegative : Bool) (magnitude : Binary64)
  deriving DecidableEq, Repr

/-- The largest 64-bit word. -/
def maxWord : Nat := 0xffff_ffff_ffff_ffff

/-- A decimal significand in a 64-bit word, with a power of ten. -/
structure Significand where
  word : Nat
  exponent : Int
  deriving DecidableEq, Repr

namespace Significand

/-- The digits before the point. Once a digit does not fit the word, it and
all after it only raise the power of ten. The flag tells whether that
happened. -/
def whole (word : Nat) : List Char → Significand × Bool
  | [] => (⟨word, 0⟩, false)
  | c :: rest =>
    let next := word * 10 + (Digits.valueOf c).getD 0
    if maxWord < next then (⟨word, (rest.length : Int) + 1⟩, true) else whole next rest

/-- The digits behind the point. From the first digit that does not fit the
word, all are dropped. -/
def fraction (s : Significand) : List Char → Significand
  | [] => s
  | c :: rest =>
    let next := s.word * 10 + (Digits.valueOf c).getD 0
    if maxWord < next then s else fraction ⟨next, s.exponent - 1⟩ rest

/-- The largest power of ten that the exponent counter holds. -/
def maxExponent : Int := 0x7fff_ffff

/-- A power of ten as a double. -/
def powerOfTen (k : Nat) : Binary64 := .ofNat (Nat.pow 10 k)

/-- Division by a power of ten: while the power is beyond `10 ^ 308`, that
much is taken off first, unless nothing is left. -/
def divideBy (x : Binary64) (k : Nat) : Binary64 :=
  if k ≤ 308 then x.div (powerOfTen k)
  else if x.isZero then x
  else divideBy (x.div (powerOfTen 308)) (k - 308)
termination_by k

/-- The double a significand stands for, if it is within range. -/
def toDouble (s : Significand) : Option Binary64 :=
  let x := Binary64.ofNat s.word
  if 0 ≤ s.exponent then
    if s.exponent ≤ 308 then
      let y := x.mul (powerOfTen s.exponent.toNat)
      if y.isInfinite then none else some y
    else if x.isZero then some x
    else none
  else some (divideBy x (-s.exponent).toNat)

end Significand

/-- An explicit power of ten: its sign and its digits. -/
structure Power where
  isNegative : Bool
  digits : List Char

/-- The parts of a number token. -/
structure NumberParts where
  isNegative : Bool
  whole : List Char
  fraction : Option (List Char)
  power : Option Power

namespace NumberParts

/-- The double of a token, if it is within range. A power that overflows its
counter makes a zero of a negative power or a zero significand, and is out of
range otherwise. -/
def double (s : Significand) (isNegative : Bool) (power : Option Power) : Option Number :=
  match power with
  | none => s.toDouble.map (.double isNegative)
  | some p =>
    let e : Int := Digits.read 10 p.digits
    if Significand.maxExponent < e then
      if s.word ≠ 0 ∧ p.isNegative = false then none
      else some (.double isNegative (.ofNat 0))
    else
      let e' := if p.isNegative then s.exponent - e else s.exponent + e
      (Significand.toDouble ⟨s.word, max (-Significand.maxExponent - 1)
        (min Significand.maxExponent e')⟩).map (.double isNegative)

/-- **The number a token stands for**, or nothing when it is too large. -/
def toNumber (p : NumberParts) : Option Number :=
  let (s, overflowed) := Significand.whole 0 p.whole
  match p.fraction, p.power with
  | none, none =>
    if overflowed then double s p.isNegative none
    else if p.isNegative = false then some (.integer s.word)
    else if s.word = 0 ∨ 0x8000_0000_0000_0000 < s.word then some (.double true (.ofNat s.word))
    else some (.integer (-(s.word : Int)))
  | none, some e => double s p.isNegative (some e)
  | some f, e => double (s.fraction f) p.isNegative e

end NumberParts

/-- The text of a number. -/
def Number.text : Number → List Char
  | .integer n => Digits.signedDecimal n
  | .double neg x => (x.text neg).toList

end Herald.Json
