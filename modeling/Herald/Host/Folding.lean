import Herald.Host.Expansions
import Herald.Host.Joining
import Herald.Host.Variants
import Herald.Text.Ascii
import Herald.Text.Unprintable
/-!
# What a character means in the name of a host

Names that look alike or differ in case only are one name. So each character
stands for a plain text, mostly for itself; some count for nothing; and some
may not occur at all.
-/

namespace Herald

namespace Folding

/-- The characters that count for nothing. -/
def ignoredRanges : List (Nat × Nat) :=
  [(0xad, 0xad), (0x34f, 0x34f), (0x115f, 0x1160), (0x17b4, 0x17b5), (0x180b, 0x180f),
  (0x200b, 0x200b), (0x2060, 0x2064), (0x206a, 0x206f), (0x3164, 0x3164), (0xfe00, 0xfe0f),
  (0xfeff, 0xfeff), (0xffa0, 0xffa0), (0x1bca0, 0x1bca3), (0x1d173, 0x1d17a), (0xe0100, 0xe01ef)]

/-- Characters that can be printed and may not occur all the same: those that
hold a dot, and those that describe other characters or stand in for them. -/
def excludedRanges : List (Nat × Nat) :=
  [(0x2024, 0x2026), (0x2488, 0x249b), (0x2ff0, 0x2fff), (0x31ef, 0x31ef), (0x33c2, 0x33c2),
  (0x33c7, 0x33c7), (0x33d8, 0x33d8), (0xfe12, 0xfe12), (0xfe19, 0xfe19), (0xfe30, 0xfe30),
  (0xfe52, 0xfe52), (0xfffc, 0xfffd), (0x1f100, 0x1f100)]

/-- Whether a character beyond ASCII that stands for itself may occur. What
cannot be printed may not, joiners aside. -/
def isAllowed (c : Char) : Bool :=
  c == Joining.joiner || c == Joining.nonJoiner
    || !(isUnprintable c || inRanges c.toNat excludedRanges)

/-- **The text a character stands for**, unless it may not occur. -/
def text? (c : Char) : Option (List Char) :=
  if c.toNat < 0x80 then some [Ascii.lower c]
  else if inRanges c.toNat ignoredRanges then some []
  else match Variants.of? c with
    | some d => some [d]
    | none =>
      match Expansions.of? c with
      | some ds => some ds
      | none => if isAllowed c then some [c] else none

/-- The ranges ascend. -/
theorem ascendFrom_ranges :
    ∀ rs ∈ [ignoredRanges, excludedRanges], ascendFrom 0 rs = true := by decide +kernel

end Folding

end Herald
