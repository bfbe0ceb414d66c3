/-!
# ASCII letters

Their cases, for text in which case carries no meaning.
-/

namespace Herald

namespace Ascii

/-- Whether a character is an ASCII letter. -/
def isLetter (c : Char) : Bool := decide (('a' ≤ c ∧ c ≤ 'z') ∨ ('A' ≤ c ∧ c ≤ 'Z'))

/-- An ASCII letter in lower case; other characters are kept. -/
def lower (c : Char) : Char := if 'A' ≤ c ∧ c ≤ 'Z' then Char.ofNat (c.toNat + 32) else c

end Ascii

end Herald
