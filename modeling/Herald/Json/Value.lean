import Herald.Json.Token
/-!
# JSON values

A value, its compact text, and its reading from tokens. Reading goes one
token at a time and stops at the first problem: a token that cannot stand
where it stands is malformed text, and a missing one is text that ends too
early. Containers may be nested 127 deep. Skipping follows the same grammar
and makes no value, so it does not mind numbers out of range, unpaired
surrogates or deep nesting.

Each loop carries a bound on its steps. A token costs two steps at most, one
as an element and one as a value, so `stepBound` of the tokens at hand is
never used up.
-/

namespace Herald.Json

/-- A JSON value. The members of an object keep their order. -/
inductive Value where
  | null
  | bool (b : Bool)
  | number (n : Number)
  | string (s : String)
  | array (elements : List Value)
  | object (members : List (String × Value))

namespace Value

/-- A whole number as a value. -/
def ofNat (n : Nat) : Value := .number (.integer n)

/-! ## Text -/

mutual

/-- The compact text of a value. -/
def text : Value → List Char
  | .null => ['n', 'u', 'l', 'l']
  | .bool true => ['t', 'r', 'u', 'e']
  | .bool false => ['f', 'a', 'l', 's', 'e']
  | .number n => n.text
  | .string s => Literal.quote s.toList
  | .array vs => '[' :: elementsText vs ++ [']']
  | .object ms => '\x7b' :: membersText ms ++ ['\x7d']

/-- Elements with commas between them. -/
def elementsText : List Value → List Char
  | [] => []
  | [v] => v.text
  | v :: w :: rest => v.text ++ ',' :: elementsText (w :: rest)

/-- Members with commas between them. -/
def membersText : List (String × Value) → List Char
  | [] => []
  | [(k, v)] => Literal.quote k.toList ++ ':' :: v.text
  | (k, v) :: m :: rest =>
    Literal.quote k.toList ++ ':' :: v.text ++ ',' :: membersText (m :: rest)

end

/-- The compact text of a value, as a string. -/
def render (v : Value) : String := String.ofList v.text

/-! ## Members in order of their names -/

/-- Puts a member among members in ascending order of names, in the place of
one with its name. -/
def insertMember (k : String) (v : Value) : List (String × Value) → List (String × Value)
  | [] => [(k, v)]
  | (k', v') :: rest =>
    if k = k' then (k, v) :: rest
    else if k < k' then (k, v) :: (k', v') :: rest
    else (k', v') :: insertMember k v rest

/-- An object of some members: sorted by name, and of several members with
one name the last. -/
def ofMembers (ms : List (String × Value)) : Value :=
  .object (ms.foldl (fun acc m => insertMember m.1 m.2 acc) [])

/-- The member of an object with a name. -/
def member? (v : Value) (name : String) : Option Value :=
  match v with
  | .object ms => (ms.find? fun m => m.1 == name).map Prod.snd
  | _ => none

end Value

/-! ## Reading -/

/-- Steps that are enough for some tokens. -/
def stepBound (ts : List Token) : Nat := 2 * ts.length + 2

/-- The deepest nesting of containers. -/
def maxDepth : Nat := 127

/-- The value that a token is by itself. A token that opens a container is
none, and a broken one has the fault it has when it is read. -/
def Token.scalar : Token → Except Fault Value
  | .null => .ok .null
  | .bool b => .ok (.bool b)
  | .number v => v.map .number
  | .string v => v.map fun s => .string (String.ofList s)
  | .brokenString read _ => .error read
  | .broken read _ => .error read
  | _ => .error .malformed

/-- A name and the colon behind it, where a member has to start. -/
def readName : List Token → Except Fault (List Char × List Token)
  | [] => .error .endsEarly
  | .string (.error f) :: _ => .error f
  | .string (.ok k) :: .colon :: rest => .ok (k, rest)
  | .string (.ok _) :: [] => .error .endsEarly
  | .string (.ok _) :: _ => .error .malformed
  | .brokenString read _ :: _ => .error read
  | _ => .error .malformed

mutual

/-- A value at the head of some tokens. -/
def readValue : Nat → Nat → List Token → Except Fault (Value × List Token)
  | 0, _, _ => .error .endsEarly
  | _ + 1, _, [] => .error .endsEarly
  | _ + 1, 0, .openArray :: _ => .error .malformed
  | _ + 1, _ + 1, .openArray :: .closeArray :: rest => .ok (.array [], rest)
  | bound + 1, depth + 1, .openArray :: rest =>
    (readElements bound depth rest).map fun p => (.array p.1, p.2)
  | _ + 1, 0, .openObject :: _ => .error .malformed
  | _ + 1, _ + 1, .openObject :: .closeObject :: rest => .ok (.object [], rest)
  | bound + 1, depth + 1, .openObject :: rest =>
    (readMembers bound depth rest).map fun p => (.ofMembers p.1, p.2)
  | _ + 1, _, t :: rest => t.scalar.map fun v => (v, rest)

/-- One element or more, up to the end of their array. -/
def readElements : Nat → Nat → List Token → Except Fault (List Value × List Token)
  | 0, _, _ => .error .endsEarly
  | bound + 1, depth, ts =>
    match readValue bound depth ts with
    | .error f => .error f
    | .ok (v, .closeArray :: rest) => .ok ([v], rest)
    | .ok (v, .comma :: rest) =>
      (readElements bound depth rest).map fun p => (v :: p.1, p.2)
    | .ok (_, []) => .error .endsEarly
    | .ok _ => .error .malformed

/-- One member or more, up to the end of their object. -/
def readMembers : Nat → Nat → List Token → Except Fault (List (String × Value) × List Token)
  | 0, _, _ => .error .endsEarly
  | bound + 1, depth, ts =>
    match readName ts with
    | .error f => .error f
    | .ok (k, rest) =>
      match readValue bound depth rest with
      | .error f => .error f
      | .ok (v, .closeObject :: rest) => .ok ([(String.ofList k, v)], rest)
      | .ok (v, .comma :: rest) =>
        (readMembers bound depth rest).map fun p => ((String.ofList k, v) :: p.1, p.2)
      | .ok (_, []) => .error .endsEarly
      | .ok _ => .error .malformed

end

/-- Nothing but the end of the text may follow. -/
def readEnd : List Token → Except Fault Unit
  | [] => .ok ()
  | _ => .error .malformed

/-- **The value a text stands for.** -/
def Value.ofText (cs : List Char) : Except Fault Value := do
  let ts := lex cs
  let (v, rest) ← readValue (stepBound ts) maxDepth ts
  readEnd rest
  return v

/-! ## Skipping -/

/-- Whether a token is a value by itself, when it is passed over. -/
def Token.skip : Token → Except Fault Unit
  | .null => .ok ()
  | .bool _ => .ok ()
  | .number _ => .ok ()
  | .string _ => .ok ()
  | .brokenString _ skip => .error skip
  | .broken _ skip => .error skip
  | _ => .error .malformed

/-- A name and the colon behind it, passed over. -/
def skipName : List Token → Except Fault (List Token)
  | [] => .error .endsEarly
  | .string _ :: .colon :: rest => .ok rest
  | .string _ :: [] => .error .endsEarly
  | .string _ :: _ => .error .malformed
  | .brokenString _ skip :: _ => .error skip
  | _ => .error .malformed

mutual

/-- A value at the head of some tokens, passed over. -/
def skipValue : Nat → List Token → Except Fault (List Token)
  | 0, _ => .error .endsEarly
  | _ + 1, [] => .error .endsEarly
  | _ + 1, .openArray :: .closeArray :: rest => .ok rest
  | bound + 1, .openArray :: rest => skipElements bound rest
  | _ + 1, .openObject :: .closeObject :: rest => .ok rest
  | bound + 1, .openObject :: rest => skipMembers bound rest
  | _ + 1, t :: rest => t.skip.map fun _ => rest

/-- One element or more, passed over with the end of their array. -/
def skipElements : Nat → List Token → Except Fault (List Token)
  | 0, _ => .error .endsEarly
  | bound + 1, ts =>
    match skipValue bound ts with
    | .error f => .error f
    | .ok (.closeArray :: rest) => .ok rest
    | .ok (.comma :: rest) => skipElements bound rest
    | .ok [] => .error .endsEarly
    | .ok _ => .error .malformed

/-- One member or more, passed over with the end of their object. -/
def skipMembers : Nat → List Token → Except Fault (List Token)
  | 0, _ => .error .endsEarly
  | bound + 1, ts =>
    match skipName ts with
    | .error f => .error f
    | .ok rest =>
      match skipValue bound rest with
      | .error f => .error f
      | .ok (.closeObject :: rest) => .ok rest
      | .ok (.comma :: rest) => skipMembers bound rest
      | .ok [] => .error .endsEarly
      | .ok _ => .error .malformed

end

end Herald.Json
