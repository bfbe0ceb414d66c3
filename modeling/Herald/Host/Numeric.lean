import Herald.Notice.Address
import Herald.Text.Parts
/-!
# Numeric hosts

A host whose last part is a number is an address of version 4, in up to four
parts: each in decimal, in octal behind a zero, or in hexadecimal behind `0x`.
Every part but the last is a byte, and the last one fills the bytes that
remain.
-/

namespace Herald

namespace NumericHost

/-- The number of a part. -/
def number? (cs : List Char) : Option Nat :=
  let within (base : Nat) (ds : List Char) : Option Nat :=
    if ds.all fun c => (Address.digitIn base c).isSome then some (Digits.read base ds) else none
  match cs with
  | [] => none
  | '0' :: 'x' :: ds => within 16 ds
  | '0' :: d :: ds => within 8 (d :: ds)
  | ds => within 10 ds

/-- The parts of a host, if its last part is a number. One dot may stand at
the end. -/
def parts? (host : List Char) : Option (List (List Char)) :=
  let parts := partsAt '.' host
  let parts := if 1 < parts.length ∧ parts.getLast? = some [] then parts.dropLast else parts
  match parts.getLast? with
  | some last =>
    if last ≠ [] ∧ (last.all Digits.isDecimal ∨ (number? last).isSome) then some parts else none
  | none => none

/-- The address of some parts. -/
def address? (parts : List (List Char)) : Option Address := do
  let ns ← parts.mapM number?
  let last ← ns.getLast?
  let front := ns.dropLast
  if 3 < front.length ∨ front.any (255 < ·) ∨ 1 <<< (8 * (4 - front.length)) ≤ last then none
  else
    let n := ((front.foldl (fun n b => n * 256 + b) 0) <<< (8 * (4 - front.length))) + last
    let byte (k : Nat) : UInt8 := .ofNat (n >>> (8 * k))
    some (.v4 (byte 3) (byte 2) (byte 1) (byte 0))

end NumericHost

end Herald
