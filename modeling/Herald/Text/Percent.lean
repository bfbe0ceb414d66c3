import Herald.Text.Digits
/-!
# Percent escapes

The bytes of a character that may not stand as it is are written as a percent
sign and two digits each. Controls and characters beyond ASCII never stand as
they are; which others do not is up to the place.
-/

namespace Herald

namespace Percent

/-- A character as escapes of its bytes. -/
def ofChar (c : Char) : List Char :=
  (String.utf8EncodeChar c).flatMap fun b =>
    ['%', Digits.upperDigit (b.toNat / 16), Digits.upperDigit (b.toNat % 16)]

/-- **Escapes** controls, characters beyond ASCII, and those of a set. -/
def escape (set cs : List Char) : List Char :=
  cs.flatMap fun c =>
    if c.toNat < 0x20 ∨ 0x7e < c.toNat ∨ c ∈ set then ofChar c else [c]

/-- The bytes that a text stands for. A percent sign without two digits stands
for itself. -/
def bytes : List Char → List UInt8
  | '%' :: a :: b :: rest =>
    match Digits.valueOf a, Digits.valueOf b with
    | some hi, some lo => .ofNat (hi * 16 + lo) :: bytes rest
    | _, _ => 37 :: bytes (a :: b :: rest)
  | c :: rest => String.utf8EncodeChar c ++ bytes rest
  | [] => []

/-- **The text without escapes**, if its bytes are a text. -/
def undo? (cs : List Char) : Option (List Char) :=
  (String.fromUTF8? ⟨(bytes cs).toArray⟩).map String.toList

/-- Nothing is escaped in a text of plain characters. -/
theorem escape_eq_self {set cs : List Char}
    (h : ∀ c ∈ cs, 0x20 ≤ c.toNat ∧ c.toNat ≤ 0x7e ∧ c ∉ set) : escape set cs = cs := by
  induction cs with
  | nil => rfl
  | cons c rest ih =>
    obtain ⟨h1, h2, h3⟩ := h c List.mem_cons_self
    have hc : ¬(c.toNat < 0x20 ∨ 0x7e < c.toNat ∨ c ∈ set) := by
      rintro (h | h | h)
      · omega
      · omega
      · exact h3 h
    simp only [escape, List.flatMap_cons, if_neg hc]
    exact congrArg (c :: ·) (ih fun d hd => h d (List.mem_cons_of_mem _ hd))

end Percent

end Herald
