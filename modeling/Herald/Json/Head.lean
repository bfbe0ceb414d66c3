import Herald.Json.Value
import Herald.Text.Quoted
/-!
# What a value is, seen from its head

The first token of a value tells its kind, and for a scalar all of it. Typed
readers judge a value by its head alone, whether it comes as a value or as
the tokens of a text, and so give the same verdict on both ways.
-/

namespace Herald.Json

/-- The head of a value. -/
inductive Head where
  | null
  | bool (b : Bool)
  | number (n : Number)
  | string (s : String)
  | array
  | object

/-- The head of a value. -/
def Value.head : Value → Head
  | .null => .null
  | .bool b => .bool b
  | .number n => .number n
  | .string s => .string s
  | .array _ => .array
  | .object _ => .object

/-- A truth value is its head. -/
theorem Value.head_eq_bool {v : Value} {b : Bool} : v.head = .bool b ↔ v = .bool b := by
  cases v <;> simp [head]

/-- A number is its head. -/
theorem Value.head_eq_number {v : Value} {n : Number} : v.head = .number n ↔ v = .number n := by
  cases v <;> simp [head]

/-- A string is its head. -/
theorem Value.head_eq_string {v : Value} {s : String} : v.head = .string s ↔ v = .string s := by
  cases v <;> simp [head]

/-- The head of the value that starts with a token. -/
def Token.head : Token → Except Fault Head
  | .null => .ok .null
  | .bool b => .ok (.bool b)
  | .number v => v.map .number
  | .string v => v.map fun s => .string (String.ofList s)
  | .openArray => .ok .array
  | .openObject => .ok .object
  | .brokenString read _ => .error read
  | .broken read _ => .error read
  | _ => .error .malformed

/-- What a head is called in messages. -/
def Head.describe : Head → String
  | .null => "null"
  | .bool true => "boolean `true`"
  | .bool false => "boolean `false`"
  | .number (.integer n) => "integer `" ++ String.ofList (Digits.signedDecimal n) ++ "`"
  | .number (.double neg x) => "floating point `" ++ x.text neg ++ "`"
  | .string s => "string " ++ Quoted.quote s
  | .array => "sequence"
  | .object => "map"

/-- Why a well-formed value is not the data that was asked for. -/
inductive Mismatch where
  /-- A value of another kind. -/
  | wrongKind (found : Head) (expected : String)
  /-- An integer out of range. -/
  | outOfRange (n : Int) (expected : String)
  /-- An array with more elements than there are fields. -/
  | tooLong (length : Nat)
  /-- A field that has been given already. -/
  | duplicate (field : String)

/-- The text of a mismatch. -/
def Mismatch.message : Mismatch → String
  | .wrongKind h e => "invalid type: " ++ h.describe ++ ", expected " ++ e
  | .outOfRange n e => "invalid value: integer `" ++ String.ofList (Digits.signedDecimal n)
      ++ "`, expected " ++ e
  | .tooLong n => "invalid length " ++ String.ofList (Digits.decimal n)
      ++ ", expected fewer elements in array"
  | .duplicate f => "duplicate field `" ++ f ++ "`"

/-- Why reading typed data from a text failed. -/
inductive ReadError where
  /-- The text is not JSON, as far as it was read. -/
  | text (fault : Fault)
  /-- The text is not the data asked for. -/
  | data (cause : Mismatch)

namespace Head

/-- A truth value. -/
def toBool : Head → Except Mismatch Bool
  | .bool b => .ok b
  | h => .error (.wrongKind h "a boolean")

/-- A string. -/
def toString : Head → Except Mismatch String
  | .string s => .ok s
  | h => .error (.wrongKind h "a string")

/-- An unsigned 32-bit word. -/
def toUInt32 : Head → Except Mismatch UInt32
  | .number (.integer n) =>
    if 0 ≤ n ∧ n < 0x1_0000_0000 then .ok (.ofNat n.toNat) else .error (.outOfRange n "u32")
  | h => .error (.wrongKind h "u32")

/-- A signed 32-bit word. -/
def toInt32 : Head → Except Mismatch Int32
  | .number (.integer n) =>
    if -0x8000_0000 ≤ n ∧ n < 0x8000_0000 then .ok (.ofInt n) else .error (.outOfRange n "i32")
  | h => .error (.wrongKind h "i32")

/-- The head that is read as a truth value. -/
theorem toBool_eq_ok {h : Head} {b : Bool} : h.toBool = .ok b ↔ h = .bool b := by
  cases h <;> simp [toBool]

/-- The head that is read as a string. -/
theorem toString_eq_ok {h : Head} {s : String} : h.toString = .ok s ↔ h = .string s := by
  cases h <;> simp [toString]

/-- **The head that is read as an unsigned word**: the integer of its value. -/
theorem toUInt32_eq_ok {h : Head} {n : UInt32} :
    h.toUInt32 = .ok n ↔ h = .number (.integer n.toNat) := by
  have hn := n.toNat_lt
  fun_cases toUInt32 h with
  | case1 m hm =>
    simp only [Except.ok.injEq, number.injEq, Number.integer.injEq]
    constructor
    · rintro rfl
      rw [UInt32.toNat_ofNat']
      omega
    · rintro rfl
      simp
  | case2 m hm =>
    simp only [reduceCtorEq, number.injEq, Number.integer.injEq, false_iff]
    omega
  | case3 h hh =>
    simp only [reduceCtorEq, false_iff]
    exact hh n.toNat

/-- Every integer in range is. -/
theorem toUInt32_of_le {n : Int} (h0 : 0 ≤ n) (h1 : n < 0x1_0000_0000) :
    (number (.integer n)).toUInt32 = .ok (.ofNat n.toNat) := if_pos ⟨h0, h1⟩

/-- **The head that is read as a signed word.** -/
theorem toInt32_eq_ok {h : Head} {n : Int32} :
    h.toInt32 = .ok n ↔ h = .number (.integer n.toInt) := by
  have hlo := n.le_toInt
  have hhi := n.toInt_lt
  fun_cases toInt32 h with
  | case1 m hm =>
    simp only [Except.ok.injEq, number.injEq, Number.integer.injEq]
    constructor
    · rintro rfl
      rw [Int32.toInt_ofInt_of_le (by omega) (by omega)]
    · rintro rfl
      simp
  | case2 m hm =>
    simp only [reduceCtorEq, number.injEq, Number.integer.injEq, false_iff]
    omega
  | case3 h hh =>
    simp only [reduceCtorEq, false_iff]
    exact hh n.toInt

/-- Every integer in range is. -/
theorem toInt32_of_le {n : Int} (h0 : -0x8000_0000 ≤ n) (h1 : n < 0x8000_0000) :
    (number (.integer n)).toInt32 = .ok (.ofInt n) := if_pos ⟨h0, h1⟩

end Head

end Herald.Json
