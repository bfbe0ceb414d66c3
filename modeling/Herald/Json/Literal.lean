import Herald.Text.Digits
/-!
# String literals

The inside of a JSON string, from behind its opening quote. Scanning splits
it into characters and escaped 16-bit units and finds its end; joining makes
a string of the pieces and fails on a surrogate without its partner. A
literal that is only skipped is scanned and not joined. In the other
direction `quote` escapes quotes, backslashes and controls.
-/

namespace Herald.Json

/-- Why text is not what was expected. -/
inductive Fault where
  /-- A character that cannot stand where it stands. -/
  | malformed
  /-- The text ends too early. -/
  | endsEarly
  deriving DecidableEq, Repr

/-- A part of a string literal. -/
inductive Piece where
  /-- A character, as itself or by a short escape. -/
  | char (c : Char)
  /-- A unit written with four hexadecimal digits. -/
  | unit (n : Nat)
  deriving DecidableEq, Repr

namespace Literal

/-- The characters with a short escape. -/
def shortEscape : Char → Option Char
  | '\x22' => some '\x22'
  | '\x5c' => some '\x5c'
  | '/' => some '/'
  | 'b' => some '\x08'
  | 'f' => some '\x0c'
  | 'n' => some '\n'
  | 'r' => some '\r'
  | 't' => some '\t'
  | _ => none

/-- The number of four hexadecimal digits. -/
def unitOf (a b c d : Char) : Option Nat := do
  let a ← Digits.valueOf a
  let b ← Digits.valueOf b
  let c ← Digits.valueOf c
  let d ← Digits.valueOf d
  return ((a * 16 + b) * 16 + c) * 16 + d

/-- The fault of an escape with fewer than four characters behind its `u`:
early end, unless they make up four bytes. -/
def shortUnitFault (cs : List Char) : Fault :=
  if 4 ≤ (String.ofList cs).utf8ByteSize then .malformed else .endsEarly

/-- **The pieces of a literal**, up to its end or its first fault, and what
follows the closing quote. -/
def scan : List Char → List Piece × Except Fault (List Char)
  | [] => ([], .error .endsEarly)
  | '\x22' :: rest => ([], .ok rest)
  | '\x5c' :: 'u' :: a :: b :: c :: d :: rest =>
    match unitOf a b c d with
    | some n => let (ps, e) := scan rest; (.unit n :: ps, e)
    | none => ([], .error .malformed)
  | '\x5c' :: 'u' :: rest => ([], .error (shortUnitFault rest))
  | '\x5c' :: c :: rest =>
    match shortEscape c with
    | some c' => let (ps, e) := scan rest; (.char c' :: ps, e)
    | none => ([], .error .malformed)
  | '\x5c' :: [] => ([], .error .endsEarly)
  | c :: rest =>
    if c.toNat < 0x20 then ([], .error .malformed)
    else let (ps, e) := scan rest; (.char c :: ps, e)

/-- Whether a unit is the first of a pair. -/
def isHigh (n : Nat) : Bool := decide (0xD800 ≤ n ∧ n ≤ 0xDBFF)

/-- Whether a unit is the second of a pair. -/
def isLow (n : Nat) : Bool := decide (0xDC00 ≤ n ∧ n ≤ 0xDFFF)

/-- The character of a pair. -/
def paired (hi lo : Nat) : Char := Char.ofNat (((hi - 0xD800) * 1024 + (lo - 0xDC00)) + 0x10000)

/-- **The characters of some pieces.** A first unit wants a second one right
behind it; where the pieces break off instead, the fault is the one that
broke them off, if there was one. -/
def join (stop : Option Fault) : List Piece → Except Fault (List Char)
  | [] => match stop with
    | none => .ok []
    | some f => .error f
  | .char c :: rest => (join stop rest).map (c :: ·)
  | .unit n :: rest =>
    if isLow n then .error .malformed
    else if isHigh n then
      match rest with
      | .unit m :: rest' =>
        if isLow m then (join stop rest').map (paired n m :: ·) else .error .malformed
      | .char _ :: _ => .error .malformed
      | [] => .error (stop.getD .malformed)
    else (join stop rest).map (Char.ofNat n :: ·)

/-- A control character by its code. -/
def controlEscape (c : Char) : List Char :=
  ['\x5c', 'u', '0', '0', Digits.digit (c.toNat / 16), Digits.digit (c.toNat % 16)]

/-- How one character is written. -/
def escape (c : Char) : List Char :=
  if c = '\x22' then ['\x5c', '\x22']
  else if c = '\x5c' then ['\x5c', '\x5c']
  else if c = '\x08' then ['\x5c', 'b']
  else if c = '\x0c' then ['\x5c', 'f']
  else if c = '\n' then ['\x5c', 'n']
  else if c = '\r' then ['\x5c', 'r']
  else if c = '\t' then ['\x5c', 't']
  else if c.toNat < 0x20 then controlEscape c
  else [c]

/-- **A string literal**, quotes included. -/
def quote (cs : List Char) : List Char := '\x22' :: cs.flatMap escape ++ ['\x22']

end Literal

end Herald.Json
