import Herald.Text.Digits
/-!
# Network addresses

Addresses of both versions and their usual text: dotted decimal for version
4, and for version 6 eight groups in lower-case hexadecimal with the longest
run of zero groups left out. A version 6 address that maps a version 4 one is
written with the dotted form at its end.
-/

namespace Herald

/-- An address: four bytes, or eight 16-bit groups. -/
inductive Address where
  | v4 (a b c d : UInt8)
  | v6 (groups : Vector UInt16 8)
  deriving DecidableEq, Repr

namespace Address

/-! ## Text -/

/-- Four bytes in dotted decimal. -/
def dotted (a b c d : UInt8) : List Char :=
  Digits.decimal a.toNat ++ '.' :: Digits.decimal b.toNat
    ++ '.' :: Digits.decimal c.toNat ++ '.' :: Digits.decimal d.toNat

/-- Groups with colons between them. -/
def colonSeparated : List UInt16 → List Char
  | [] => []
  | [g] => Digits.hexadecimal g.toNat
  | g :: h :: rest => Digits.hexadecimal g.toNat ++ ':' :: colonSeparated (h :: rest)

/-- A run of groups: where it starts and how long it is. -/
structure Run where
  start : Nat
  length : Nat
  deriving DecidableEq, Repr

/-- The longest run of zeros in some groups, the first of several: `best` is
the longest so far, `current` the one that ends at position `i`. -/
def longestZeroRun (best current : Run) (i : Nat) : List UInt16 → Run
  | [] => best
  | g :: rest =>
    if g = 0 then
      let current := if current.length = 0 then ⟨i, 1⟩ else ⟨current.start, current.length + 1⟩
      let best := if best.length < current.length then current else best
      longestZeroRun best current (i + 1) rest
    else longestZeroRun best ⟨0, 0⟩ (i + 1) rest

/-- The text of groups: a run of two zeros or more becomes a double colon. -/
def compressed (groups : List UInt16) : List Char :=
  let run := longestZeroRun ⟨0, 0⟩ ⟨0, 0⟩ 0 groups
  if 1 < run.length then
    colonSeparated (groups.take run.start) ++ ':' :: ':'
      :: colonSeparated (groups.drop (run.start + run.length))
  else colonSeparated groups

/-- The high byte of a group. -/
def highByte (g : UInt16) : UInt8 := (g / 256).toUInt8

/-- The low byte of a group. -/
def lowByte (g : UInt16) : UInt8 := g.toUInt8

/-- The group of two bytes. -/
def groupOf (hi lo : UInt8) : UInt16 := hi.toUInt16 * 256 + lo.toUInt16

/-- The text of eight groups. -/
def groupsText : List UInt16 → List Char
  | [0, 0, 0, 0, 0, 0xffff, g, h] =>
    [':', ':', 'f', 'f', 'f', 'f', ':']
      ++ dotted (highByte g) (lowByte g) (highByte h) (lowByte h)
  | groups => compressed groups

/-- **The text of an address.** -/
def text : Address → List Char
  | .v4 a b c d => dotted a b c d
  | .v6 groups => groupsText groups.toList

/-- The text of an address, as a string. -/
def render (a : Address) : String := String.ofList a.text

/-! ## Reading -/

/-- The value of a digit in a base. -/
def digitIn (base : Nat) (c : Char) : Option Nat :=
  (Digits.valueOf c).filter fun d => decide (d < base)

/-- A number of one to `most` digits at the head of a text. All digits there
belong to it, so more than `most` of them are no number. -/
def readNumber (base most : Nat) (cs : List Char) : Option (List Char × Nat × List Char) :=
  let ds := cs.takeWhile fun c => (digitIn base c).isSome
  if ds ≠ [] ∧ ds.length ≤ most then
    some (ds, Digits.read base ds, cs.drop ds.length)
  else none

/-- A byte in decimal: at most 255, without a leading zero. -/
def readByte (cs : List Char) : Option (UInt8 × List Char) :=
  match readNumber 10 3 cs with
  | some (ds, n, rest) =>
    if (ds.head? = some '0' ∧ 1 < ds.length) ∨ 255 < n then none
    else some (.ofNat n, rest)
  | none => none

/-- A character that has to come next. -/
def readChar (c : Char) : List Char → Option (List Char)
  | x :: rest => if x = c then some rest else none
  | [] => none

/-- Four bytes in dotted decimal. -/
def readDotted (cs : List Char) : Option ((UInt8 × UInt8 × UInt8 × UInt8) × List Char) := do
  let (a, cs) ← readByte cs
  let cs ← readChar '.' cs
  let (b, cs) ← readByte cs
  let cs ← readChar '.' cs
  let (c, cs) ← readByte cs
  let cs ← readChar '.' cs
  let (d, cs) ← readByte cs
  return ((a, b, c, d), cs)

/-- A colon, unless the group to be read is the first of its part. -/
def readSeparator (isFirst : Bool) (cs : List Char) : Option (List Char) :=
  if isFirst then some cs else readChar ':' cs

/-- One part of a version 6 address: at most `limit` groups with colons
between them, the last two possibly in dotted decimal. A group that cannot be
read ends the part in front of its colon. The flag tells of a dotted end. -/
def readGroups (isFirst : Bool) (cs : List Char) : Nat → List UInt16 × Bool × List Char
  | 0 => ([], false, cs)
  | limit + 1 =>
    match (if 0 < limit then readSeparator isFirst cs >>= readDotted else none) with
    | some ((a, b, c, d), rest) => ([groupOf a b, groupOf c d], true, rest)
    | none =>
      match readSeparator isFirst cs >>= readNumber 16 4 with
      | some (_, n, rest) =>
        let (gs, dotted, rest') := readGroups false rest limit
        (UInt16.ofNat n :: gs, dotted, rest')
      | none => ([], false, cs)

/-- Groups as the eight of an address. -/
def ofGroups (gs : List UInt16) : Option Address :=
  if h : gs.length = 8 then some (.v6 ⟨gs.toArray, by simpa using h⟩) else none

/-- A version 6 address at the head of a text: eight groups, or two parts
with a double colon for the zeros between them. The first part has no dotted
end then, and the double colon stands for one group at least. -/
def readV6 (cs : List Char) : Option (Address × List Char) :=
  let (front, dotted, rest) := readGroups true cs 8
  if front.length = 8 then (ofGroups front).map fun a => (a, rest)
  else if dotted then none
  else do
    let rest ← readChar ':' rest
    let rest ← readChar ':' rest
    let (back, _, rest) := readGroups true rest (7 - front.length)
    let zeros := List.replicate (8 - front.length - back.length) 0
    (ofGroups (front ++ zeros ++ back)).map fun a => (a, rest)

/-- **The address a text stands for.** The whole text has to be taken. -/
def ofText (cs : List Char) : Option Address :=
  match readDotted cs with
  | some ((a, b, c, d), rest) => if rest = [] then some (.v4 a b c d) else none
  | none =>
    match readV6 cs with
    | some (a, rest) => if rest = [] then some a else none
    | none => none

/-- The message for a text that is no address. -/
def errorMessage : String := "invalid IP address syntax"

end Address

end Herald
