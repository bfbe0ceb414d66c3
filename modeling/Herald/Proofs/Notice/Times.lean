import Herald.Notice.Reading
import Mathlib.Order.Basic
/-!
# The text of a time

What a timestamp is written as reads back to the second it is shown as, and a leap
second at the end of a minute to the leap second it is (`Timestamp.read?_text`). A
leap second anywhere else is written as the second behind it, and cannot be told from
that: `Timestamp.shown` is the timestamp with such a second counted on. The calendar is
where reading could go wrong: the year of a day is a quotient that has to come out right
at both ends of every year. It does not decrease from day to day
(`Date.yearOfEra_mono`), so that looking at the first and the last day of each of the
400 years is enough (`Date.yearOfEra_ends`).
-/

namespace Herald

namespace Date

/-! ## The calendar -/

/-- The year of a day of an era. -/
def yearOfEra (day : Nat) : Nat :=
  (day - day / 1460 + day / 36524 - day / 146096) / 365

/-- The first day of a year of an era. -/
def firstDay (year : Nat) : Nat := 365 * year + year / 4 - year / 100 + year / 400

/-- The years follow the days. -/
theorem yearOfEra_mono {d e : Nat} (h : d ≤ e) (he : e ≤ 146096) : yearOfEra d ≤ yearOfEra e :=
  Nat.div_le_div_right (by omega)

/-- **The first and the last day of a year** have that year, and it is no longer
than 366 days. -/
theorem yearOfEra_ends : ∀ year < 400, yearOfEra (firstDay year) = year
    ∧ yearOfEra (firstDay (year + 1) - 1) = year
    ∧ firstDay year < firstDay (year + 1) ∧ firstDay (year + 1) ≤ firstDay year + 366
    ∧ firstDay (year + 1) ≤ 146097 := by
  decide +kernel

/-- **The year of a day** is the one in which it lies. -/
theorem yearOfEra_spec {day : Nat} (h : day ≤ 146096) :
    yearOfEra day < 400 ∧ firstDay (yearOfEra day) ≤ day ∧
      day < firstDay (yearOfEra day + 1) := by
  have hyear : yearOfEra day < 400 := by
    have hlast : yearOfEra 146096 = 399 := by decide
    have hmono := yearOfEra_mono h (Nat.le_refl _)
    omega
  refine ⟨hyear, ?_, ?_⟩
  · -- a day before the first of the year would have a year before it
    rcases hzero : yearOfEra day with _ | year
    · exact Nat.zero_le day
    · obtain ⟨-, hends, -, -, hle⟩ := yearOfEra_ends year (by omega)
      by_contra hlt
      have hmono := yearOfEra_mono (d := day) (e := firstDay (year + 1) - 1) (by omega) (by omega)
      omega
  · -- and a day behind its last one a year behind it
    obtain ⟨-, -, -, -, hle⟩ := yearOfEra_ends _ hyear
    by_contra hlt
    rcases Nat.lt_or_ge (yearOfEra day + 1) 400 with hnext | hlast
    · obtain ⟨hfirst, -⟩ := yearOfEra_ends _ hnext
      have hmono := yearOfEra_mono (Nat.le_of_not_lt hlt) h
      omega
    · have hend : firstDay 400 = 146097 := by decide
      have hyear' : yearOfEra day + 1 = 400 := by omega
      rw [hyear', hend] at hlt
      omega

/-- The day of a year is that of its month again. -/
theorem month_spec {day : Nat} (h : day ≤ 365) :
    let shifted := (5 * day + 2) / 153
    let month := if shifted < 10 then shifted + 3 else shifted - 9
    (if 2 < month then month - 3 else month + 9) = shifted
      ∧ (153 * shifted + 2) / 5 ≤ day := by
  intro shifted month
  refine ⟨?_, ?_⟩
  · simp only [month]
    split <;> split <;> omega
  · omega

/-- The day of a date that is put together from a year of an era, a month counted
from March and a day. -/
theorem toDays_mk {year month shifted : Nat} (hyear : year < 400)
    (hshifted : (if 2 < month then month - 3 else month + 9) = shifted) (era : Int) (day : Nat) :
    toDays ⟨if month ≤ 2 then year + era * 400 + 1 else year + era * 400, month, day⟩
      = era * 146097
        + (year * 365 + year / 4 - year / 100 + ((153 * shifted + 2) / 5 + day - 1) : Nat)
        - 719468 := by
  have hmarch : (if month ≤ 2 then
      (if month ≤ 2 then year + era * 400 + 1 else year + era * 400) - 1
      else if month ≤ 2 then year + era * 400 + 1 else year + era * 400) = year + era * 400 := by
    split <;> simp
  have hcycle : (((year : Int) + era * 400) % 400).toNat = year := by omega
  have hera : ((year : Int) + era * 400) / 400 = era := by omega
  simp only [toDays, hmarch, hcycle, hera, hshifted]

/-- **The date of a day tells the day.** -/
theorem toDays_ofDays (days : Int) : (ofDays days).toDays = days := by
  simp only [ofDays]
  -- the parts of the day, as the calendar takes them off
  obtain ⟨era, hera⟩ : ∃ era, (days + 719468) / 146097 = era := ⟨_, rfl⟩
  obtain ⟨dayOfEra, hdayOfEra⟩ : ∃ d, ((days + 719468) % 146097).toNat = d := ⟨_, rfl⟩
  rw [hera, hdayOfEra]
  obtain ⟨year, hyear⟩ : ∃ y, yearOfEra dayOfEra = y := ⟨_, rfl⟩
  rw [show (dayOfEra - dayOfEra / 1460 + dayOfEra / 36524 - dayOfEra / 146096) / 365 = year
    from hyear]
  obtain ⟨dayOfYear, hdayOfYear⟩ : ∃ d, dayOfEra - (365 * year + year / 4 - year / 100) = d :=
    ⟨_, rfl⟩
  rw [hdayOfYear]
  obtain ⟨hlt, hfirst, hlast⟩ := yearOfEra_spec (show dayOfEra ≤ 146096 by omega)
  rw [hyear] at hlt hfirst hlast
  obtain ⟨-, -, -, hlength, -⟩ := yearOfEra_ends year hlt
  have hstart : 365 * year + year / 4 - year / 100 = firstDay year := by
    unfold firstDay
    omega
  obtain ⟨hshifted, hday⟩ := month_spec (show dayOfYear ≤ 365 by omega)
  -- and put together again
  rw [toDays_mk hlt hshifted]
  omega

end Date

namespace Timestamp

/-! ## Reading back -/

/-- Characters that are no decimal digits are not in a number. -/
theorem notMem_padded {c : Char} (hc : Digits.isDecimal c = false) (width n : Nat) :
    c ∉ Digits.padded width n := fun h => by
  rw [Digits.isDecimal_of_mem_padded h] at hc
  cases hc

/-- Numbers with a character between them, each filled up to a width. -/
def numbersText (sep : Char) (ns : List (Nat × Nat)) : List Char :=
  joinWith sep (ns.map fun n => Digits.padded n.1 n.2)

/-- **Numbers read back** from their text. -/
theorem readNumbers?_numbersText {sep : Char} (hsep : Digits.isDecimal sep = false)
    {ns : List (Nat × Nat)} (hne : ns ≠ []) :
    readNumbers? sep (numbersText sep ns) = some (ns.map Prod.snd) := by
  have hparts : partsAt sep (numbersText sep ns) = ns.map fun n => Digits.padded n.1 n.2 :=
    partsAt_joinWith (by simpa using hne) fun p hp => by
      obtain ⟨n, -, rfl⟩ := List.mem_map.1 hp
      exact notMem_padded hsep n.1 n.2
  rw [readNumbers?, hparts]
  clear hparts hne
  induction ns with
  | nil => rfl
  | cons n ns ih => simp [List.mapM_cons, Digits.readDecimal?_padded, ih]

/-- A character that is neither a digit nor between the numbers is not in the text. -/
theorem notMem_numbersText {sep c : Char} (hc : Digits.isDecimal c = false) (hne : c ≠ sep)
    (ns : List (Nat × Nat)) : c ∉ numbersText sep ns := fun h => by
  rcases mem_joinWith h with h | ⟨p, hp, h⟩
  · exact hne h
  · obtain ⟨n, -, rfl⟩ := List.mem_map.1 hp
    exact notMem_padded hc n.1 n.2 h

/-- The text of a timestamp behind the sign of its year. -/
def unsignedText (t : Timestamp) : List Char :=
  let d := t.date
  let s := t.secondOfDay
  numbersText '-' [(4, d.year.natAbs), (2, d.month), (2, d.day)] ++ 'T'
    :: (numbersText ':' [(2, s / 3600), (2, s / 60 % 60), (2, s % 60 + if t.isLeap then 1 else 0)]
      ++ ['Z'])

/-- The sign of a year. -/
def signText (y : Int) : List Char :=
  if 0 ≤ y ∧ y ≤ 9999 then [] else if y < 0 then ['-'] else ['+']

theorem text_eq (t : Timestamp) : t.text = signText t.date.year ++ t.unsignedText := by
  simp only [text, yearText, signText, unsignedText, numbersText, joinWith, List.map_cons,
    List.map_nil]
  split
  · simp
  · split <;> simp

/-- A text that starts with a digit has no sign. -/
theorem readSign_of_head {c : Char} {cs : List Char} (h : Digits.isDecimal c = true) :
    readSign (c :: cs) = (1, c :: cs) := by
  unfold readSign
  split
  · next heq =>
    obtain ⟨rfl, -⟩ := List.cons.inj heq
    cases h
  · next heq =>
    obtain ⟨rfl, -⟩ := List.cons.inj heq
    cases h
  · rfl

/-- **The sign comes off.** -/
theorem readSign_text (t : Timestamp) :
    readSign t.text = (if t.date.year < 0 then -1 else 1, t.unsignedText) := by
  rw [text_eq, signText]
  split
  · next h =>
    -- there is none, and the text starts with a digit of the year
    rcases hyear : Digits.padded 4 t.date.year.natAbs with _ | ⟨c, cs⟩
    · exact absurd hyear (Digits.padded_ne_nil _ _)
    · have hc : Digits.isDecimal c = true :=
        Digits.isDecimal_of_mem_padded (hyear ▸ List.mem_cons_self)
      have htext : ∃ rest, t.unsignedText = c :: rest := by
        simp [unsignedText, numbersText, joinWith, hyear]
      obtain ⟨rest, htext⟩ := htext
      rw [List.nil_append, htext, readSign_of_head hc, if_neg (by omega)]
  · split <;> rfl

/-! ## What a timestamp is shown as -/

/-- **A leap second, if any, ends a minute.** -/
def IsRegular (t : Timestamp) : Prop := t.isLeap = true → t.seconds % 60 = 59

instance (t : Timestamp) : Decidable t.IsRegular := inferInstanceAs (Decidable (_ → _))

/-- What is made of a second and its nanoseconds is regular. -/
theorem isRegular_of_of? {seconds : Int} {nanos : Nat} {t : Timestamp}
    (h : of? seconds nanos = some t) : t.IsRegular := by
  unfold of? at h
  split at h
  · next hrange =>
    obtain rfl := Option.some.inj h
    simp only [IsRegular, isLeap, decide_eq_true_eq]
    omega
  · nomatch h

/-- **The timestamp as it is shown**: a leap second within a minute is counted as the
second behind it. -/
def shown (t : Timestamp) : Timestamp :=
  if h : t.IsRegular then t
  else
    have hlatest : t.seconds + 1 ≤ 8210266876799 := by
      -- the latest second of all ends a minute, and this one does not
      have := t.latest
      simp only [IsRegular, Classical.not_imp] at h
      omega
    have hnanos : t.nanos - 1_000_000_000 < 2_000_000_000 := by
      have := t.nanos_lt
      omega
    ⟨t.seconds + 1, t.nanos - 1_000_000_000, Int.le_add_one t.earliest, hlatest, hnanos⟩

/-- A regular timestamp is shown as what it is. -/
theorem shown_of_isRegular {t : Timestamp} (h : t.IsRegular) : t.shown = t := dif_pos h

/-- One that is not lies within a minute, and is shown as the second behind. -/
theorem shown_of_not_isRegular {t : Timestamp} (h : ¬ t.IsRegular) :
    (t.isLeap = true ∧ t.seconds % 60 ≠ 59) ∧
      t.shown.seconds = t.seconds + 1 ∧ t.shown.isLeap = false := by
  have hshown : t.shown.seconds = t.seconds + 1 ∧ t.shown.nanos = t.nanos - 1_000_000_000 := by
    rw [shown, dif_neg h]
    exact ⟨rfl, rfl⟩
  refine ⟨by simpa only [IsRegular, Classical.not_imp] using h, hshown.1, ?_⟩
  have := t.nanos_lt
  rw [isLeap, hshown.2, decide_eq_false_iff_not]
  omega

/-- **What is shown is regular.** -/
theorem isRegular_shown (t : Timestamp) : t.shown.IsRegular := by
  by_cases h : t.IsRegular
  · rwa [shown_of_isRegular h]
  · obtain ⟨-, -, hleap⟩ := shown_of_not_isRegular h
    simp [IsRegular, hleap]

/-- **A timestamp has the text of what it is shown as.** -/
theorem text_shown (t : Timestamp) : t.shown.text = t.text := by
  by_cases h : t.IsRegular
  · rw [shown_of_isRegular h]
  · obtain ⟨⟨hleap, hwithin⟩, hseconds, hleap'⟩ := shown_of_not_isRegular h
    -- the second behind lies in the same minute
    have hday : (t.seconds + 1) / 86400 = t.seconds / 86400 := by omega
    have hhour : ((t.seconds + 1) % 86400).toNat / 3600 = (t.seconds % 86400).toNat / 3600 := by
      omega
    have hminute : ((t.seconds + 1) % 86400).toNat / 60 % 60
        = (t.seconds % 86400).toNat / 60 % 60 := by
      omega
    have hsecond : ((t.seconds + 1) % 86400).toNat % 60 = (t.seconds % 86400).toNat % 60 + 1 := by
      omega
    simp only [text, date, secondOfDay, hseconds, hday, hhour, hminute, hsecond, hleap, hleap',
      if_true, Bool.false_eq_true, if_false, Nat.add_zero]

/-- A second 60 is written for a leap second at the end of a minute and for nothing
else. -/
theorem second_spec {t : Timestamp} (h : t.IsRegular) :
    let second := t.secondOfDay % 60 + if t.isLeap then 1 else 0
    (second = 60 ↔ t.isLeap = true) ∧ min second 59 = t.secondOfDay % 60 := by
  intro second
  cases hleap : t.isLeap with
  | false =>
    have hsecond : second = t.secondOfDay % 60 := by simp [second, hleap]
    exact ⟨⟨fun h => by omega, nofun⟩, by omega⟩
  | true =>
    have hsecond : second = t.secondOfDay % 60 + 1 := by simp [second, hleap]
    have hlast : t.secondOfDay % 60 = 59 := by
      have := h hleap
      unfold secondOfDay
      omega
    exact ⟨⟨fun _ => rfl, fun _ => by omega⟩, by omega⟩

/-- A regular timestamp's text reads back to its second, and a leap second to the leap
second it is. -/
theorem read?_text_of_isRegular {t : Timestamp} (h : t.IsRegular) :
    read? t.text = some (t.seconds, t.isLeap) := by
  have hdate : 'T' ∉ numbersText '-'
      [(4, t.date.year.natAbs), (2, t.date.month), (2, t.date.day)] :=
    notMem_numbersText rfl (by decide) _
  have htime : ∀ ns, 'T' ∉ numbersText ':' ns ++ ['Z'] := fun ns h => by
    rcases List.mem_append.1 h with h | h
    · exact notMem_numbersText rfl (by decide) _ h
    · simp at h
  rw [read?, readSign_text]
  simp only [unsignedText]
  rw [partsAt_append hdate, partsAt_of_notMem (htime _)]
  simp only [List.getLast?_append, List.getLast?_singleton, List.dropLast_concat, Option.some_or]
  rw [readNumbers?_numbersText rfl (by simp), readNumbers?_numbersText rfl (by simp)]
  obtain ⟨hleap, hsecond⟩ := second_spec h
  have hyear : (if t.date.year < 0 then -1 else 1) * (t.date.year.natAbs : Int) = t.date.year := by
    split <;> omega
  have hdays : t.date.toDays = t.seconds / 86400 := Date.toDays_ofDays _
  have hsum : t.seconds / 86400 * 86400
      + (t.secondOfDay / 3600 * 3600 + t.secondOfDay / 60 % 60 * 60 + t.secondOfDay % 60 : Nat)
      = t.seconds := by
    unfold secondOfDay
    omega
  simp only [List.map_cons, List.map_nil, hyear, hdays, hsecond, hsum, hleap, Bool.decide_eq_true]

/-- **A timestamp's text reads back** to the second it is shown as. -/
theorem read?_text (t : Timestamp) : read? t.text = some (t.shown.seconds, t.shown.isLeap) := by
  rw [← text_shown, read?_text_of_isRegular t.isRegular_shown]

/-- **A timestamp is told by its text** as far as it is shown, but for the
nanoseconds. -/
theorem text_inj {t u : Timestamp} :
    t.text = u.text ↔ t.shown.seconds = u.shown.seconds ∧ t.shown.isLeap = u.shown.isLeap := by
  constructor
  · intro h
    have hread := congrArg read? h
    rw [read?_text, read?_text] at hread
    simpa using hread
  · rintro ⟨hseconds, hleap⟩
    rw [← text_shown t, ← text_shown u]
    simp only [text, date, secondOfDay, hseconds, hleap]

/-- The text of a timestamp stands on one line. -/
theorem notMem_text (t : Timestamp) : '\n' ∉ t.text := fun h => by
  rw [text_eq, unsignedText] at h
  rcases List.mem_append.1 h with h | h
  · revert h
    unfold signText
    split
    · simp
    · split <;> simp
  · rcases List.mem_append.1 h with h | h
    · exact notMem_numbersText rfl (by decide) _ h
    · rcases List.mem_cons.1 h with h | h
      · cases h
      · rcases List.mem_append.1 h with h | h
        · exact notMem_numbersText rfl (by decide) _ h
        · simp at h

end Timestamp

end Herald
