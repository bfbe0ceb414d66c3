import Herald.Json.Head
/-!
# Records

A record is data with named fields in a fixed order, each with a default. It
is read from an object, by the names of its members, or from an array, by
their positions. Members of other names are passed over, missing fields keep
their defaults, and a field given twice is refused. A `RecordShape` says how
one field is read; the readers here do the rest, once from a value and once
straight from the tokens of a text.
-/

namespace Herald.Json

/-- How records of type `ρ` are read, field by field. A field is read on its
own, from the value or the tokens it stands at, and gives a change of the
record. -/
structure RecordShape (ρ φ : Type) where
  /-- What the record is called in messages. -/
  title : String
  /-- The fields in order. -/
  fields : List φ
  /-- The name of a field. -/
  name : φ → String
  /-- The record of all defaults. -/
  default : ρ
  /-- A field's change, read from a value. -/
  ofValue : φ → Value → Except Mismatch (ρ → ρ)
  /-- A field's change, read from tokens, and the tokens behind it. -/
  ofTokens : φ → List Token → Except ReadError ((ρ → ρ) × List Token)

namespace RecordShape

variable {ρ φ : Type} [DecidableEq φ] (shape : RecordShape ρ φ)

/-- The field of a name. -/
def field? (name : String) : Option φ := shape.fields.find? fun f => shape.name f == name

/-! ## From values -/

/-- Members in order; `seen` are the fields given before. -/
def membersOfValue (seen : List φ) (r : ρ) : List (String × Value) → Except Mismatch ρ
  | [] => .ok r
  | (k, v) :: rest =>
    match shape.field? k with
    | none => membersOfValue seen r rest
    | some f =>
      if f ∈ seen then .error (.duplicate (shape.name f))
      else do
        let change ← shape.ofValue f v
        membersOfValue (f :: seen) (change r) rest

/-- Elements against the fields, as far as both go. -/
def elementsOfValue (r : ρ) : List φ → List Value → Except Mismatch ρ
  | f :: fs, v :: vs => do
    let change ← shape.ofValue f v
    elementsOfValue (change r) fs vs
  | _, _ => .ok r

/-- **The record a value stands for.** An array may be shorter than the
fields, but not longer. -/
def readValue : Value → Except Mismatch ρ
  | .object ms => shape.membersOfValue [] shape.default ms
  | .array vs => do
    let r ← shape.elementsOfValue shape.default shape.fields vs
    if shape.fields.length < vs.length then throw (.tooLong vs.length)
    return r
  | v => .error (.wrongKind v.head shape.title)

/-! ## From tokens -/

/-- The name of a member. -/
def memberName : List Token → Except ReadError (String × List Token)
  | [] => .error (.text .endsEarly)
  | .string v :: rest => (v.map fun k => (String.ofList k, rest)).mapError .text
  | .brokenString read _ :: _ => .error (.text read)
  | _ => .error (.text .malformed)

/-- The colon behind a name. -/
def readColon : List Token → Except Fault (List Token)
  | [] => .error .endsEarly
  | .colon :: rest => .ok rest
  | _ => .error .malformed

/-- What stands behind the name of a member: for a field its change, and
nothing for a member of another name. A field that was given before is
refused by its name alone. -/
def memberOfTokens (seen : List φ) (name : String) (ts : List Token) :
    Except ReadError (Option (φ × (ρ → ρ)) × List Token) :=
  match shape.field? name with
  | none =>
    (((readColon ts).bind fun rest => skipValue (stepBound rest) rest).mapError .text).map
      fun rest => (none, rest)
  | some f =>
    if f ∈ seen then .error (.data (.duplicate (shape.name f)))
    else
      ((readColon ts).mapError .text).bind fun rest =>
        (shape.ofTokens f rest).map fun p => (some (f, p.1), p.2)

/-- One member or more, up to the end of their object; `seen` are the fields
given before. -/
def membersOfTokens (seen : List φ) (r : ρ) : Nat → List Token →
    Except ReadError (ρ × List Token)
  | 0, _ => .error (.text .endsEarly)
  | bound + 1, ts =>
    match memberName ts with
    | .error e => .error e
    | .ok (name, rest) =>
      match shape.memberOfTokens seen name rest with
      | .error e => .error e
      | .ok (change, rest) =>
        let r := change.elim r fun c => c.2 r
        match rest with
        | .closeObject :: rest => .ok (r, rest)
        | .comma :: rest =>
          membersOfTokens (change.elim seen fun c => c.1 :: seen) r bound rest
        | [] => .error (.text .endsEarly)
        | _ => .error (.text .malformed)

/-- One element or more against the fields, up to the end of their array. -/
def elementsOfTokens (r : ρ) : List φ → List Token → Except ReadError (ρ × List Token)
  | [], _ => .error (.text .malformed)
  | f :: fs, ts =>
    match shape.ofTokens f ts with
    | .error e => .error e
    | .ok (change, .closeArray :: rest) => .ok (change r, rest)
    | .ok (change, .comma :: rest) => elementsOfTokens (change r) fs rest
    | .ok (_, []) => .error (.text .endsEarly)
    | .ok _ => .error (.text .malformed)

/-- The record at the head of some tokens, and the tokens behind it. -/
def readTokens (ts : List Token) : Except ReadError (ρ × List Token) :=
  match ts with
  | [] => .error (.text .endsEarly)
  | .openObject :: .closeObject :: rest => .ok (shape.default, rest)
  | .openObject :: rest => shape.membersOfTokens [] shape.default (stepBound rest) rest
  | .openArray :: .closeArray :: rest => .ok (shape.default, rest)
  | .openArray :: rest => shape.elementsOfTokens shape.default shape.fields rest
  | t :: _ =>
    match t.head with
    | .error f => .error (.text f)
    | .ok h => .error (.data (.wrongKind h shape.title))

/-- **The record a text stands for.** -/
def readText (cs : List Char) : Except ReadError ρ := do
  let (r, rest) ← shape.readTokens (lex cs)
  (readEnd rest).mapError .text
  return r

end RecordShape

/-! ## Fields that are scalars -/

/-- A scalar at the head of some tokens, by its head. A head that suits is
that of a scalar, which is one token. -/
def scalarOfTokens {α : Type} (judge : Head → Except Mismatch α) :
    List Token → Except ReadError (α × List Token)
  | [] => .error (.text .endsEarly)
  | t :: rest =>
    match t.head with
    | .error f => .error (.text f)
    | .ok h => ((judge h).map fun a => (a, rest)).mapError .data

end Herald.Json
