import Herald.Number.Binary64
/-!
# Shortest decimal text of a double

The digits written for a double are the fewest that read back as it, and
among those the nearest to it. Every real number in an interval around the
double rounds to it, with the ends included when its mantissa is even; the
search below asks, for one digit, two digits and so on up to seventeen,
whether one of the double's two neighbours on that decimal grid lies in the
interval.
-/

namespace Herald

namespace Binary64

/-- The interval of reals that round to a double, in quarters of a unit: its
ends, and whether they belong to it. Below a power of two the doubles lie
closer together. -/
def interval (x : Binary64) : Nat × Nat × Bool :=
  let gap := 1 <<< x.scale
  let below := if x.mantissa = 0x10_0000_0000_0000 ∧ 0 < x.scale then gap else 2 * gap
  (4 * x.units - below, 4 * x.units + 2 * gap, x.mantissa % 2 == 0)

/-- A decimal: whole `digits`, and the power of ten they count. -/
structure Decimal where
  digits : Nat
  exponent : Int
  deriving DecidableEq, Repr

/-- A decimal as a ratio of quarters of a unit. -/
def Decimal.quarters (d : Decimal) : Nat × Nat :=
  if 0 ≤ d.exponent then (d.digits * Nat.pow 10 d.exponent.toNat * (4 * unitsPerOne), 1)
  else (d.digits * (4 * unitsPerOne), Nat.pow 10 (-d.exponent).toNat)

/-- Whether a decimal reads back as a double. -/
def Decimal.readsAs (d : Decimal) (x : Binary64) : Bool :=
  let (lo, hi, closed) := x.interval
  let (n, q) := d.quarters
  if closed then decide (lo * q ≤ n ∧ n ≤ hi * q) else decide (lo * q < n ∧ n < hi * q)

/-- How far a decimal is from a double. Distances are counted in the parts a
grid's power of ten makes of a unit, so they compare on one grid. -/
def Decimal.distance (d : Decimal) (x : Binary64) : Nat :=
  let (n, q) := d.quarters
  let v := 4 * x.units * q
  if n ≤ v then v - n else n - v

/-- The power of ten of the leading digit of a double below one: the search
goes down from `-1`. -/
def leadingBelowOne (units : Nat) : Nat → Nat → Int
  | 0, j => -(j : Int)
  | fuel + 1, j =>
    if unitsPerOne ≤ units * Nat.pow 10 j then -(j : Int) else leadingBelowOne units fuel (j + 1)

/-- The power of ten of the leading digit of a double. -/
def leadingExponent (x : Binary64) : Int :=
  if unitsPerOne ≤ x.units then ((toString (x.units / unitsPerOne)).length : Int) - 1
  else leadingBelowOne x.units 330 1

/-- The two neighbours of a double on the grid of a power of ten. -/
def neighbours (x : Binary64) (exponent : Int) : Decimal × Decimal :=
  let d := if 0 ≤ exponent then x.units / (unitsPerOne * Nat.pow 10 exponent.toNat)
    else x.units * Nat.pow 10 (-exponent).toNat / unitsPerOne
  (⟨d, exponent⟩, ⟨d + 1, exponent⟩)

/-- The neighbour on one grid that reads back: the nearer one, if both do. -/
def onGrid (x : Binary64) (exponent : Int) : Option Decimal :=
  let (a, b) := x.neighbours exponent
  match a.readsAs x, b.readsAs x with
  | true, true =>
    if a.distance x < b.distance x then some a
    else if b.distance x < a.distance x then some b
    else if a.digits % 2 = 0 then some a else some b
  | true, false => some a
  | false, true => some b
  | false, false => none

/-- The first grid with a hit, from `n` digits on. -/
def shortestFrom (x : Binary64) (leading : Int) : Nat → Nat → Decimal
  | 0, n => (x.neighbours (leading - n)).1
  | fuel + 1, n =>
    match x.onGrid (leading - n) with
    | some d => d
    | none => shortestFrom x leading fuel (n + 1)

/-- **The shortest decimal** of a double that is not zero. -/
def shortest (x : Binary64) : Decimal := shortestFrom x x.leadingExponent 17 0

/-- A number without the zeros at its end. -/
def dropZeros : List Char → List Char := fun cs =>
  (cs.reverse.dropWhile (· == '0')).reverse

/-- How a decimal is set out: positional while the leading digit stands for a
power of ten from `10 ^ -5` to `10 ^ 15`, always with a point and a digit
behind it; otherwise one digit, a point if more follow, and a signed power. -/
def layout (digits : List Char) (leading : Int) : List Char :=
  if -5 ≤ leading ∧ leading ≤ 15 then
    if leading < 0 then
      ['0', '.'] ++ List.replicate (-leading - 1).toNat '0' ++ digits
    else
      let whole := leading.toNat + 1
      if digits.length ≤ whole then
        digits ++ List.replicate (whole - digits.length) '0' ++ ['.', '0']
      else digits.take whole ++ ['.'] ++ digits.drop whole
  else
    let power := (if leading < 0 then ['-'] else ['+']) ++ (toString leading.natAbs).toList
    match digits with
    | [] => []
    | [d] => d :: 'e' :: power
    | d :: rest => d :: '.' :: rest ++ 'e' :: power

/-- **The text of a double**, with a sign in front of a negative one. -/
def text (isNegative : Bool) (x : Binary64) : String :=
  let sign := if isNegative then ['-'] else []
  if x.isZero then String.ofList (sign ++ ['0', '.', '0'])
  else
    let d := x.shortest
    let all := (toString d.digits).toList
    let leading := d.exponent + (all.length : Int) - 1
    String.ofList (sign ++ layout (dropZeros all) leading)

end Binary64

end Herald
