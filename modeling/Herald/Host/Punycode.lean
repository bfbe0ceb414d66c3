/-!
# Letters beyond ASCII in letters, digits and hyphens

A text is written with its ASCII characters first, as they are, and a hyphen
behind them. Every other character is an insertion into that: a cursor runs
over all places for the first character beyond ASCII, then over all places for
the next one and so on, and an insertion is written as the number of steps the
cursor takes to it. Numbers are written in base 36, lowest digit first, with
digits small enough to tell where a number ends; how small adapts to the size
of the numbers before.
-/

namespace Herald

namespace Punycode

/-- Whether a character is written as it is. -/
def isBasic (c : Char) : Bool := decide (c.toNat < 0x80)

/-- The digit for a value below 36: letters first, then decimal digits. -/
def digit (n : Nat) : Char := if n < 26 then Char.ofNat (97 + n) else Char.ofNat (22 + n)

/-- The value of a digit. -/
def valueOf (c : Char) : Option Nat :=
  if 'a' ≤ c ∧ c ≤ 'z' then some (c.toNat - 97)
  else if '0' ≤ c ∧ c ≤ '9' then some (c.toNat - 22)
  else none

/-- A digit has its value. -/
theorem valueOf_digit : ∀ n < 36, valueOf (digit n) = some n := by decide

/-! ## Numbers -/

/-- From this value on the digit at a place is not the last of its number. -/
def threshold (bias place : Nat) : Nat :=
  if place ≤ bias then 1 else if bias + 26 ≤ place then 26 else place - bias

/-- A number ends at some value. -/
theorem threshold_pos (bias place : Nat) : 1 ≤ threshold bias place := by
  simp only [threshold]
  split
  · omega
  · split <;> omega

/-- A number, from a place on. Places count in steps of 36. -/
def writeNumber (bias place n : Nat) : List Char :=
  let t := threshold bias place
  if n < t then [digit n]
  else digit (t + (n - t) % (36 - t)) :: writeNumber bias (place + 36) ((n - t) / (36 - t))
termination_by n
decreasing_by
  have h1 := threshold_pos bias place
  have h2 := Nat.div_le_self (n - threshold bias place) (36 - threshold bias place)
  omega

/-- The number at the head of a text, from a place of a weight on, and what
follows it. Numbers are kept below 2³². -/
def readNumber (bias place weight n : Nat) : List Char → Option (Nat × List Char)
  | [] => none
  | c :: rest =>
    match valueOf c with
    | none => none
    | some d =>
      let t := threshold bias place
      let n := n + d * weight
      if 0x1_0000_0000 ≤ n then none
      else if d < t then some (n, rest)
      else if 0x1_0000_0000 ≤ weight * (36 - t) then none
      else readNumber bias (place + 36) (weight * (36 - t)) n rest

/-- A number takes up a character at least. -/
theorem length_readNumber {bias place weight n m : Nat} {cs rest : List Char}
    (h : readNumber bias place weight n cs = some (m, rest)) : rest.length < cs.length := by
  fun_induction readNumber bias place weight n cs with
  | case1 => simp at h
  | case2 => simp at h
  | case3 => simp at h
  | case4 =>
    simp only [Option.some.injEq, Prod.mk.injEq] at h
    simp [← h.2]
  | case5 => simp at h
  | case6 _ _ _ _ _ _ _ _ _ _ _ _ ih =>
    have := ih h
    simp only [List.length_cons]
    omega

/-- Divides a distance until it is small, counting places. -/
def settle (place distance : Nat) : Nat × Nat :=
  if 455 < distance then settle (place + 36) (distance / 35) else (place, distance)
termination_by distance
decreasing_by exact Nat.div_lt_self (by omega) (by omega)

/-- The bias after a number, given how many characters there are now. -/
def adapted (distance count : Nat) (isFirst : Bool) : Nat :=
  let d := if isFirst then distance / 700 else distance / 2
  let (place, d) := settle 0 (d + d / count)
  place + 36 * d / (d + 38)

/-! ## The cursor -/

/-- Where the cursor stands: at a place for a character, in a text of so many
characters. -/
structure Cursor where
  /-- The code point of the character. -/
  point : Nat
  place : Nat
  /-- How many characters there are. -/
  count : Nat
  bias : Nat
  isFirst : Bool
  deriving Repr

namespace Cursor

/-- Before the first insertion into some ASCII characters. -/
def start (count : Nat) : Cursor := ⟨0x80, 0, count, 72, true⟩

/-- The steps to an insertion. -/
def distance (k : Cursor) (point place : Nat) : Nat :=
  (point * (k.count + 1) + place) - (k.point * (k.count + 1) + k.place)

/-- The cursor behind the character that it inserts after so many steps. -/
def advance (k : Cursor) (distance : Nat) : Cursor :=
  let total := k.place + distance
  ⟨k.point + total / (k.count + 1), total % (k.count + 1) + 1, k.count + 1,
    adapted distance (k.count + 1) k.isFirst, false⟩

end Cursor

/-! ## Writing -/

/-- The insertions that make up a text, in the order of the cursor: the code
point of each, and how many of the characters before it are there already. -/
def insertions (cs : List Char) : List (Nat × Nat) :=
  ((cs.zipIdx.filter fun p => !isBasic p.1).mergeSort fun p q =>
      decide (p.1.toNat ≤ q.1.toNat)).map fun p =>
    (p.1.toNat, ((cs.take p.2).filter fun c => decide (c.toNat ≤ p.1.toNat)).length)

/-- Insertions, as the cursor comes to them. -/
def writeFrom (k : Cursor) : List (Nat × Nat) → List Char
  | [] => []
  | (point, place) :: rest =>
    let d := k.distance point place
    writeNumber k.bias 36 d ++ writeFrom (k.advance d) rest

/-- **A text in letters, digits and hyphens.** -/
def write (cs : List Char) : List Char :=
  let basic := cs.filter isBasic
  basic ++ (if basic = [] then [] else ['-']) ++ writeFrom (.start basic.length) (insertions cs)

/-! ## Reading -/

/-- Whether a number is the code point of a character. -/
def isPoint (n : Nat) : Bool := decide (n < 0xd800 ∨ (0xdfff < n ∧ n < 0x11_0000))

/-- Insertions into what is there so far. -/
def readFrom (k : Cursor) (done cs : List Char) : Option (List Char) :=
  if cs = [] then some done
  else match h : readNumber k.bias 36 1 0 cs with
    | none => none
    | some (d, rest) =>
      let k' := k.advance d
      if k.place + d < 0x1_0000_0000 ∧ isPoint k'.point then
        readFrom k' (done.insertIdx (k'.place - 1) (Char.ofNat k'.point)) rest
      else none
termination_by cs.length
decreasing_by exact length_readNumber h

/-- **The text that was written so.** A hyphen with nothing before it does not
end the ASCII characters. -/
def read (cs : List Char) : Option (List Char) :=
  let tail := (cs.reverse.takeWhile (· ≠ '-')).reverse
  let basic := cs.take (cs.length - tail.length - 1)
  if basic = [] then readFrom (.start 0) [] cs else readFrom (.start basic.length) basic tail

end Punycode

end Herald
