import Herald.Text.Digits
import Herald.Text.Parts
/-!
# Form bodies

A list of named fields as the body of a posted form: names and values with
equals signs between them, fields with ampersands between them. In a name or
value letters, digits and `*-._` stand for themselves, a space is a plus, and
every other byte of the text is a percent sign and two digits. `decode` reads
a body by the rules that its readers use.
-/

namespace Herald

namespace Form

/-- Whether a byte stands for itself. -/
def isPlain (b : UInt8) : Bool :=
  let n := b.toNat
  decide ((48 ≤ n ∧ n ≤ 57) ∨ (65 ≤ n ∧ n ≤ 90) ∨ (97 ≤ n ∧ n ≤ 122)
    ∨ n = 42 ∨ n = 45 ∨ n = 46 ∨ n = 95)

/-- How one byte is written. -/
def encodeByte (b : UInt8) : List Char :=
  if isPlain b then [Char.ofNat b.toNat]
  else if b = 32 then ['+']
  else ['%', Digits.upperDigit (b.toNat / 16), Digits.upperDigit (b.toNat % 16)]

/-- The bytes of a text. -/
def bytes (s : String) : List UInt8 := s.toUTF8.toList

/-- A name or value. -/
def encodeText (s : String) : List Char := (bytes s).flatMap encodeByte

/-- A field. -/
def encodeField (f : String × String) : List Char := encodeText f.1 ++ '=' :: encodeText f.2

/-- The fields of a body, as characters. -/
def encodeFields : List (String × String) → List Char
  | [] => []
  | [f] => encodeField f
  | f :: g :: rest => encodeField f ++ '&' :: encodeFields (g :: rest)

/-- **The body of a form.** -/
def encode (fields : List (String × String)) : String := String.ofList (encodeFields fields)

/-! ## Reading a body -/

/-- The bytes of a name or value. -/
def decodeBytes : List Char → Option (List UInt8)
  | [] => some []
  | '+' :: rest => (decodeBytes rest).map (32 :: ·)
  | '%' :: a :: b :: rest => do
    let hi ← Digits.valueOf a
    let lo ← Digits.valueOf b
    (decodeBytes rest).map (UInt8.ofNat (hi * 16 + lo) :: ·)
  | '%' :: _ => none
  | c :: rest => (decodeBytes rest).map (String.utf8EncodeChar c ++ ·)

/-- A name or value. -/
def decodeText (cs : List Char) : Option String := do
  let bs ← decodeBytes cs
  String.fromUTF8? ⟨bs.toArray⟩

/-- A field: its name ends at the first equals sign. -/
def decodeField (cs : List Char) : Option (String × String) := do
  let name ← decodeText (cs.takeWhile (· ≠ '='))
  let value ← decodeText ((cs.dropWhile (· ≠ '=')).drop 1)
  return (name, value)

/-- **The fields a body stands for.** Empty parts are no fields. -/
def decode (body : String) : Option (List (String × String)) :=
  ((partsAt '&' body.toList).filter (· ≠ [])).mapM decodeField

end Form

end Herald
