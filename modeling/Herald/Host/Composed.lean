import Herald.Host.Combining
import Herald.Host.Composites
/-!
# Composed text

One letter with its marks can be written in several ways. The composed form
is the one with as few characters as can be: every character is taken apart,
marks that follow each other are put in the order of their classes, and then
characters are put together as far as they go.
-/

namespace Herald

namespace Composed

/-! ## Taking apart -/

/-- The letters of a Korean syllable: two or three, by its number. -/
def syllableLetters (number : Nat) : List Char :=
  [Char.ofNat (0x1100 + number / 588), Char.ofNat (0x1161 + number % 588 / 28)]
    ++ if number % 28 = 0 then [] else [Char.ofNat (0x11a7 + number % 28)]

/-- The characters that one is made of, as far as one step goes. -/
def split (c : Char) : List Char :=
  if 0xac00 ≤ c.toNat ∧ c.toNat < 0xac00 + 11172 then syllableLetters (c.toNat - 0xac00)
  else match Composites.parts? c with
    | some (a, b) => [a, b]
    | none => [c]

/-- A text taken apart. No character is made of others in more than two
steps. -/
def apart (cs : List Char) : List Char := (cs.flatMap split).flatMap split

/-! ## Order of marks -/

/-- Adds a character to a text whose last character comes first: a mark goes
before the marks of higher classes at the end. -/
def insertMark (c : Char) : List Char → List Char
  | [] => [c]
  | d :: rest =>
    if combiningClass c ≠ 0 ∧ combiningClass c < combiningClass d then d :: insertMark c rest
    else c :: d :: rest

/-- A text with its marks in order. -/
def ordered (cs : List Char) : List Char := (cs.foldl (fun done c => insertMark c done) []).reverse

/-! ## Putting together -/

/-- What two characters make together. The letters of a Korean syllable join
in their order. -/
def joined? (a b : Char) : Option Char :=
  let m := a.toNat
  let n := b.toNat
  if 0x1100 ≤ m ∧ m < 0x1113 ∧ 0x1161 ≤ n ∧ n < 0x1176 then
    some (Char.ofNat (0xac00 + ((m - 0x1100) * 21 + (n - 0x1161)) * 28))
  else if 0xac00 ≤ m ∧ m < 0xac00 + 11172 ∧ (m - 0xac00) % 28 = 0 ∧ 0x11a7 < n ∧ n < 0x11c3 then
    some (Char.ofNat (m + (n - 0x11a7)))
  else Composites.listed? a b

/-- Whether a character can reach the one that keeps its place across the
marks between them, the last of which comes first. -/
def isClear (marks : List Char) (c : Char) : Bool :=
  match marks with
  | [] => true
  | m :: _ => decide (combiningClass m < combiningClass c)

/-- Puts a text together, behind a character that keeps its place and the
marks on it that did not join, the last of them first. -/
def together (base : Char) (marks : List Char) : List Char → List Char
  | [] => base :: marks.reverse
  | c :: rest =>
    match if isClear marks c then joined? base c else none with
    | some d => together d marks rest
    | none =>
      if combiningClass c = 0 then base :: marks.reverse ++ together c [] rest
      else together base (c :: marks) rest

/-- Puts a text together from its first character that keeps its place. -/
def assembled : List Char → List Char
  | [] => []
  | c :: rest => if combiningClass c = 0 then together c [] rest else c :: assembled rest

/-- **The composed form of a text.** -/
def compose (cs : List Char) : List Char := assembled (ordered (apart cs))

end Composed

end Herald
