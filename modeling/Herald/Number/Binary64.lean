import Herald.Text.Digits
/-!
# Doubles, exactly

A finite double that is not negative is a whole number of units of
`2 ^ -1074`, and has at most 53 significant bits. Here it is kept as a
mantissa and a scale, and all arithmetic is a rounding of an exact ratio of
units to the nearest double, ties to the even mantissa. Nothing below uses
machine floats, so every result can be reasoned about in `Nat`.
-/

namespace Herald

/-- The whole number nearest to `n / d`; of two equally near ones, the even
one. -/
def roundDiv (n d : Nat) : Nat :=
  let q := n / d
  let r := n % d
  if 2 * r < d then q
  else if d < 2 * r then q + 1
  else q + q % 2

/-- A double: `mantissa * 2 ^ scale` units of `2 ^ -1074`. -/
structure Binary64 where
  mantissa : Nat
  scale : Nat
  deriving DecidableEq, Repr

namespace Binary64

/-- Units in one. -/
def unitsPerOne : Nat := 1 <<< 1074

/-- The value of a double, in units. -/
def units (x : Binary64) : Nat := x.mantissa <<< x.scale

/-- **Rounding.** The double nearest to `n / d` units. The scale is the least
that leaves the mantissa below `2 ^ 53`; a mantissa that is rounded up to
`2 ^ 53` moves one place on. -/
def ofUnits (n d : Nat) : Binary64 :=
  let k := Nat.log2 (n / d) - 52
  let m := roundDiv n (d <<< k)
  if m = 0x20_0000_0000_0000 then ⟨0x10_0000_0000_0000, k + 1⟩ else ⟨m, k⟩

/-- The double nearest to a whole number. -/
def ofNat (n : Nat) : Binary64 := ofUnits (n * unitsPerOne) 1

/-- Sum, rounded. -/
def add (x y : Binary64) : Binary64 := ofUnits (x.units + y.units) 1

/-- Product, rounded. -/
def mul (x y : Binary64) : Binary64 := ofUnits (x.units * y.units) unitsPerOne

/-- Quotient, rounded. -/
def div (x y : Binary64) : Binary64 := ofUnits (x.units * unitsPerOne) y.units

/-- Whether a result is too large to be a double. -/
def isInfinite (x : Binary64) : Bool := decide (2045 < x.scale)

/-- Whether a double is zero. -/
def isZero (x : Binary64) : Bool := x.mantissa == 0

/-- The bit pattern. The scale counts from the subnormal exponent, and a full
mantissa carries its leading bit into the exponent. -/
def toBits (x : Binary64) : Nat := (x.scale <<< 52) + x.mantissa

/-- The last `k` hexadecimal digits of a number, padded with zeros. -/
def hexDigits : Nat → Nat → List Char
  | 0, _ => []
  | k + 1, n => hexDigits k (n / 16) ++ [Digits.digit (n % 16)]

/-- The bit pattern as sixteen hexadecimal digits. -/
def hexBits (x : Binary64) : String := String.ofList (hexDigits 16 x.toBits)

end Binary64

end Herald
