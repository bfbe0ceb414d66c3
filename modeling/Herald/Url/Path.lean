import Herald.Text.Parts
import Herald.Text.Percent
import Herald.Url.Escape
import Herald.Url.Scheme
/-!
# Paths

A path is a list of segments. A segment of one dot goes nowhere and one of two
dots goes back a segment, whether the dots are escaped or not. In paths of
files a segment may be the letter of a drive: a path never goes back beyond
one, and at the start of the path it is written with a colon.
-/

namespace Herald

namespace UrlPath

/-- Whether a character is passed over where it stands inside of an address. -/
def isIgnored (c : Char) : Bool := c == '\t' || c == '\n' || c == '\r'

/-- The characters of a text that count. -/
def counted (cs : List Char) : List Char := cs.filter (!isIgnored ·)

/-! ## Segments -/

/-- Whether a segment is a single dot, escaped or not. -/
def isDot (seg : List Char) : Bool := seg.map Ascii.lower ∈ [['.'], ['%', '2', 'e']]

/-- Whether a segment is two dots, escaped or not. -/
def isDotDot (seg : List Char) : Bool :=
  seg.map Ascii.lower ∈ [['.', '.'], ['.', '%', '2', 'e'], ['%', '2', 'e', '.'],
    ['%', '2', 'e', '%', '2', 'e']]

/-- Whether a segment is the letter of a drive. -/
def isDrive : List Char → Bool
  | [c, d] => Ascii.isLetter c && (d == ':' || d == '|')
  | _ => false

/-- Whether a segment cannot be left by going back: a drive, or one that goes
on with a backslash. -/
def isBarrier : List Char → Bool
  | c :: d :: rest =>
    Ascii.isLetter c && (d == ':' || d == '|') && (rest == [] || rest.head? == some '\x5c')
  | _ => false

/-- The letter of a drive in front of a segment, if something is passed over
behind its colon, and what is left of the segment. -/
def splitDrive? (raw : List Char) : Option (List Char × List Char) :=
  match raw.dropWhile isIgnored with
  | c :: rest =>
    match rest.dropWhile isIgnored with
    | ':' :: rest =>
      if Ascii.isLetter c ∧ rest.head?.any isIgnored ∧ counted rest ≠ [] then
        some ([c, ':'], counted rest)
      else none
    | _ => none
  | [] => none

/-! ## Resolving -/

/-- Where a path stands: the segments passed, the last one first, and whether
it started with a drive. -/
structure Trail where
  passed : List (List Char)
  hasDrive : Bool
  deriving Repr

namespace Trail

/-- Goes back a segment, if that is possible. -/
def back (t : Trail) : Trail :=
  match t.passed with
  | [] => t
  | seg :: rest => if isBarrier seg then t else { t with passed := rest }

/-- Passes a segment. -/
def pass (t : Trail) (seg : List Char) : Trail :=
  { t with passed := Percent.escape Escape.pathSet seg :: t.passed }

/-- Passes the first segment of the path of a file: a drive is written with a
colon, and what was set apart from it is a segment as it is. -/
def passFirst (t : Trail) (raw : List Char) : Trail :=
  match splitDrive? raw with
  | some (drive, rest) => (t.pass drive).pass rest
  | none =>
    let seg := counted raw
    if isDrive seg then { (t.pass (seg.take 1 ++ [':'])) with hasDrive := true } else t.pass seg

/-- Goes along a segment; at the end of a path dots leave an empty one. -/
def step (l : Layout) (isLast : Bool) (t : Trail) (raw : List Char) : Trail :=
  let seg := counted raw
  if l = .file ∧ t.passed = [] ∧ (splitDrive? raw).isSome then t.passFirst raw
  else if isDotDot seg then if isLast then t.back.pass [] else t.back
  else if isDot seg then if isLast then t.pass [] else t
  else if l = .file ∧ t.passed = [] then t.passFirst raw
  else t.pass seg

/-- Goes along the segments of a path. -/
def along (l : Layout) (t : Trail) : List (List Char) → Trail
  | [] => t
  | [seg] => t.step l true seg
  | seg :: next :: rest => along l (t.step l false seg) (next :: rest)

/-- The text of a path. -/
def text (t : Trail) : List Char := (t.passed.reverse.map ('/' :: ·)).flatten

end Trail

/-- **Goes along a path**, less the slash in front of it. -/
def resolve (l : Layout) (cs : List Char) : Trail :=
  let segments := partsAt '/' (cs.map fun c => if l.isSlash c then '/' else c)
  Trail.along l ⟨[], false⟩ segments

/-- The text of the path of a file, which has one slash in front. -/
def fileText (t : Trail) : List Char := '/' :: t.text.dropWhile (· == '/')

end UrlPath

end Herald
