import Herald.Host.Composed
import Herald.Host.Folding
import Herald.Host.Marks
import Herald.Host.Punycode
/-!
# Labels

The parts of a host's name between its dots. A label beyond ASCII is shown in
its own letters and written in ASCII, behind a mark that tells the two apart.
-/

namespace Herald

/-- A label. -/
structure Label where
  /-- In its own letters. -/
  shown : List Char
  /-- In ASCII. -/
  written : List Char
  deriving Repr

namespace Label

/-- The mark in front of a label that stands for one beyond ASCII. -/
def marker : List Char := ['x', 'n', '-', '-']

/-- Text that means nothing but itself, in its composed form. -/
def isStable (cs : List Char) : Bool :=
  (cs.all fun c => Folding.text? c == some [c]) && Composed.compose cs == cs

/-- The label that is written behind the mark so. It does not end with a
hyphen, so it has a letter beyond ASCII. -/
def ofCode? (code : List Char) : Option Label := do
  if code = [] ∨ code.getLast? = some '-' ∨ !code.all Punycode.isBasic ∨ 2000 < code.length then
    none
  else
    let shown ← Punycode.read code
    if isStable shown then some ⟨shown, marker ++ code⟩ else none

/-- **The label of a text** in which every character stands for itself. -/
def ofText? (cs : List Char) : Option Label :=
  if marker.isPrefixOf cs then ofCode? (cs.drop marker.length)
  else if cs.all Punycode.isBasic then some ⟨cs, cs⟩
  else some ⟨cs, marker ++ Punycode.write cs⟩

/-- What may not occur in the name of a host: controls, the space, and what
has a meaning elsewhere in an address. -/
def isDenied (c : Char) : Bool :=
  decide (c.toNat ≤ 0x20 ∨ c.toNat = 0x7f
    ∨ c ∈ ['%', '#', '/', ':', '<', '>', '?', '@', '[', '\x5c', ']', '^', '|'])

/-- Whether a label is short enough to be written in ASCII. -/
def isShort (cs : List Char) : Bool := cs.all Punycode.isBasic || decide (cs.length ≤ 1000)

/-- **Whether a label is sound**: nothing denied occurs in it, it does not
start with a mark, its joiners have their place, and it is not too long. -/
def isSound (l : Label) : Bool :=
  !l.shown.any isDenied && !l.shown.head?.any isMark && Joining.fits l.shown && isShort l.shown

end Label

end Herald
