import Herald.Proofs.Notice.Times
import Mathlib.Data.Int.ConditionallyCompleteOrder
import Mathlib.Data.Prod.Lex
import Mathlib.Order.Monotone.Basic
import Mathlib.Tactic.IntervalCases
/-!
# The calendar

The date of a day is worked out with years that begin in March, so that a leap day ends
its year, and the months then have lengths that a quotient tells. Here the calendar is
said as it is used: twelve months, a leap day in one year of four but for three hundreds
of four, and after each date the next one (`Date.next`). That the dates worked out are
those follows from one equation, `Date.ofDays_eq`: a day that is so far into a month
that is so far into a year has the date these say. Dates come in the order of their
days (`Date.strictMono_key_ofDays`).
-/

namespace Herald

namespace Date

/-! ## Dates as they are used -/

/-- **A leap year** is one of four, but of the full hundreds only one of four again. -/
def isLeapYear (year : Int) : Bool :=
  decide (year % 4 = 0 ∧ (year % 100 ≠ 0 ∨ year % 400 = 0))

/-- How many days a month has. -/
def daysOfMonth (year : Int) (month : Nat) : Nat :=
  if month = 2 then (if isLeapYear year then 29 else 28)
  else if month = 4 ∨ month = 6 ∨ month = 9 ∨ month = 11 then 30
  else 31

/-- **The next date**: of the same month while it lasts, else of the next one, and else
of the next year. -/
def next (d : Date) : Date :=
  if d.day < daysOfMonth d.year d.month then ⟨d.year, d.month, d.day + 1⟩
  else if d.month < 12 then ⟨d.year, d.month + 1, 1⟩
  else ⟨d.year + 1, 1, 1⟩

/-- **A date there is.** -/
structure IsValid (d : Date) : Prop where
  one_le_month : 1 ≤ d.month
  month_le : d.month ≤ 12
  one_le_day : 1 ≤ d.day
  day_le : d.day ≤ daysOfMonth d.year d.month

/-- A month has at least 28 days and at most 31. -/
theorem daysOfMonth_bounds (year : Int) (month : Nat) :
    28 ≤ daysOfMonth year month ∧ daysOfMonth year month ≤ 31 := by
  unfold daysOfMonth
  split
  · split <;> omega
  · split <;> omega

/-! ## Years and months from March on -/

/-- The first of March of a year, counted from that of the year zero. -/
def yearStart (year : Int) : Int := 365 * year + year / 4 - year / 100 + year / 400

/-- The first day of a month, counted from the first of March. -/
def monthStart (shifted : Nat) : Nat := (153 * shifted + 2) / 5

/-- The number of a month that is so many months after March. -/
def monthAt (shifted : Nat) : Nat := if shifted < 10 then shifted + 3 else shifted - 9

/-- The year it belongs to. -/
def yearAt (year : Int) (shifted : Nat) : Int :=
  if monthAt shifted ≤ 2 then year + 1 else year

/-- How many days it has. -/
def monthLength (year : Int) (shifted : Nat) : Nat :=
  daysOfMonth (yearAt year shifted) (monthAt shifted)

/-- No month is empty. -/
theorem monthLength_pos (year : Int) (shifted : Nat) : 0 < monthLength year shifted :=
  Nat.lt_of_lt_of_le (by omega) (daysOfMonth_bounds _ _).1

/-- The last one has the leap day of the year that begins before it does. -/
theorem monthLength_eleven (year : Int) :
    monthLength year 11 = if isLeapYear (year + 1) then 29 else 28 := rfl

/-- **A month ends where the next one begins**, but for the last one. -/
theorem monthStart_succ (year : Int) :
    ∀ shifted < 11, monthStart (shifted + 1) = monthStart shifted + monthLength year shifted := by
  intro shifted h
  unfold monthStart monthLength daysOfMonth monthAt
  interval_cases shifted <;> rfl

/-- **The last month ends where the next year begins.** -/
theorem yearStart_succ (year : Int) :
    yearStart (year + 1) = yearStart year + monthStart 11 + monthLength year 11 := by
  have hstart : monthStart 11 = 337 := rfl
  rw [monthLength_eleven, hstart]
  unfold yearStart isLeapYear
  split <;> simp only [decide_eq_true_eq] at * <;> omega

/-- No month is longer than the months before the next one leave room for. -/
theorem monthLength_le (year : Int) {shifted : Nat} (h : shifted < 12) :
    monthStart shifted + monthLength year shifted ≤ monthStart (shifted + 1) := by
  rcases Nat.lt_or_ge shifted 11 with hlt | hge
  · rw [monthStart_succ year shifted hlt]
  · obtain rfl : shifted = 11 := by omega
    have hstart : monthStart 11 = 337 := rfl
    have hend : monthStart 12 = 367 := rfl
    rw [monthLength_eleven, hstart, hend]
    split <;> omega

/-! ## The date of a day -/

/-- A day of an era that lies in a year has that year. -/
theorem yearOfEra_eq {year day : Nat} (hyear : year < 400) (hfirst : firstDay year ≤ day)
    (hlast : day < firstDay (year + 1)) : yearOfEra day = year := by
  obtain ⟨hstart, hend, -, -, hle⟩ := yearOfEra_ends year hyear
  have hlow := yearOfEra_mono hfirst (by omega)
  have hhigh := yearOfEra_mono (d := day) (e := firstDay (year + 1) - 1) (by omega) (by omega)
  omega

/-- The years of an era begin where the eras before it and the years of it end. -/
theorem yearStart_eq (year : Int) :
    yearStart year = year / 400 * 146097 + firstDay (year % 400).toNat ∧
      yearStart (year + 1) = year / 400 * 146097 + firstDay ((year % 400).toNat + 1) := by
  unfold yearStart firstDay
  omega

/-- A day of a month is a day of its year. -/
theorem lt_yearStart_succ {year : Int} {shifted k : Nat} (hshifted : shifted < 12)
    (hk : k < monthLength year shifted) :
    yearStart year + monthStart shifted + k < yearStart (year + 1) := by
  have hlast := yearStart_succ year
  rcases Nat.lt_or_ge shifted 11 with hlt | hge
  · have hnext := monthStart_succ year shifted hlt
    have hmonths : monthStart (shifted + 1) ≤ monthStart 11 := by
      unfold monthStart
      omega
    omega
  · obtain rfl : shifted = 11 := by omega
    omega

/-- **So far into a month that is so far into a year** a day has the date that says
this. -/
theorem ofDays_eq {days year : Int} {shifted k : Nat} (hshifted : shifted < 12)
    (hk : k < monthLength year shifted)
    (hdays : days + 719468 = yearStart year + monthStart shifted + k) :
    ofDays days = ⟨yearAt year shifted, monthAt shifted, k + 1⟩ := by
  have hlast := lt_yearStart_succ hshifted hk
  have hmonth := monthLength_le year hshifted
  obtain ⟨hstart, hend⟩ := yearStart_eq year
  obtain ⟨y, hy⟩ : ∃ y, (year % 400).toNat = y := ⟨_, rfl⟩
  rw [hy] at hstart hend
  have hy400 : y < 400 := by omega
  obtain ⟨-, -, -, -, hera⟩ := yearOfEra_ends y hy400
  obtain ⟨dayOfEra, hsum⟩ : ∃ d, firstDay y + monthStart shifted + k = d := ⟨_, rfl⟩
  -- the parts of the day are taken off one by one
  have hcycle : (days + 719468) / 146097 = year / 400 := by omega
  have hdayOfEra : ((days + 719468) % 146097).toNat = dayOfEra := by omega
  have hdayOfYear : dayOfEra - (365 * y + y / 4 - y / 100) = monthStart shifted + k := by
    unfold firstDay at hsum
    omega
  have hshift : (5 * (monthStart shifted + k) + 2) / 153 = shifted := by
    unfold monthStart at *
    omega
  have hday : monthStart shifted + k - (153 * shifted + 2) / 5 + 1 = k + 1 := by
    unfold monthStart
    omega
  have hnumber : (y : Int) + year / 400 * 400 = year := by omega
  have hyear : (dayOfEra - dayOfEra / 1460 + dayOfEra / 36524 - dayOfEra / 146096) / 365 = y :=
    yearOfEra_eq hy400 (by omega) (by omega)
  simp only [ofDays, hcycle, hdayOfEra, hyear, hdayOfYear, hshift, hday, hnumber]
  rfl

/-- **Every day is somewhere in a month of a year.** -/
theorem exists_parts (days : Int) : ∃ (year : Int) (shifted k : Nat), shifted < 12 ∧
    k < monthLength year shifted ∧
    days + 719468 = yearStart year + monthStart shifted + k := by
  obtain ⟨era, hera⟩ : ∃ era, (days + 719468) / 146097 = era := ⟨_, rfl⟩
  obtain ⟨day, hday⟩ : ∃ d, ((days + 719468) % 146097).toNat = d := ⟨_, rfl⟩
  obtain ⟨hy400, hfirst, hlast⟩ := yearOfEra_spec (show day ≤ 146096 by omega)
  obtain ⟨y, hy⟩ : ∃ y, yearOfEra day = y := ⟨_, rfl⟩
  rw [hy] at hy400 hfirst hlast
  obtain ⟨hstart, hend⟩ := yearStart_eq (y + era * 400)
  have hcycle : (((y : Int) + era * 400) % 400).toNat = y := by omega
  have hnumber : ((y : Int) + era * 400) / 400 = era := by omega
  rw [hcycle, hnumber] at hstart hend
  obtain ⟨dayOfYear, hdayOfYear⟩ : ∃ d, day - firstDay y = d := ⟨_, rfl⟩
  obtain ⟨shifted, hshifted⟩ : ∃ s, (5 * dayOfYear + 2) / 153 = s := ⟨_, rfl⟩
  obtain ⟨-, -, -, hlength, -⟩ := yearOfEra_ends y hy400
  have hmonth : monthStart shifted ≤ dayOfYear ∧ dayOfYear < monthStart (shifted + 1) := by
    unfold monthStart
    omega
  have hlt12 : shifted < 12 := by omega
  refine ⟨y + era * 400, shifted, dayOfYear - monthStart shifted, hlt12, ?_, by omega⟩
  rcases Nat.lt_or_ge shifted 11 with hlt | hge
  · have hnext := monthStart_succ (y + era * 400) shifted hlt
    omega
  · obtain rfl : shifted = 11 := by omega
    have hyearEnd := yearStart_succ (y + era * 400)
    omega

/-! ## The calendar -/

/-- The calendar is counted from the first of January 1970. -/
theorem ofDays_zero : ofDays 0 = ⟨1970, 1, 1⟩ := rfl

/-- After the last day of a month comes the first of the next one, of the next year if
the month is December. -/
theorem next_of_full {year : Int} {shifted k : Nat} (hshifted : shifted < 11)
    (hfull : k + 1 = monthLength year shifted) :
    next ⟨yearAt year shifted, monthAt shifted, k + 1⟩
      = ⟨yearAt year (shifted + 1), monthAt (shifted + 1), 1⟩ := by
  have hover : ¬ k + 1 < daysOfMonth (yearAt year shifted) (monthAt shifted) := by
    change ¬ k + 1 < monthLength year shifted
    omega
  simp only [next, if_neg hover]
  clear hover hfull
  interval_cases shifted <;> rfl

/-- **The date of the next day is the next date.** -/
theorem ofDays_succ (days : Int) : ofDays (days + 1) = (ofDays days).next := by
  obtain ⟨year, shifted, k, hshifted, hk, hdays⟩ := exists_parts days
  rw [ofDays_eq hshifted hk hdays]
  rcases Nat.lt_or_ge (k + 1) (monthLength year shifted) with hmore | hfull
  · -- the month goes on
    rw [ofDays_eq hshifted hmore (by omega)]
    exact (if_pos hmore).symm
  have hwhole : k + 1 = monthLength year shifted := by omega
  rcases Nat.lt_or_ge shifted 11 with hlt | hge
  · -- it is over, and the year that began in March goes on
    have hnext := monthStart_succ year shifted hlt
    have hpos := monthLength_pos year (shifted + 1)
    rw [ofDays_eq (by omega) hpos (by omega), next_of_full hlt hwhole]
  · -- so is the year
    obtain rfl : shifted = 11 := by omega
    have hyearEnd := yearStart_succ year
    have hpos := monthLength_pos (year + 1) 0
    have hzero : monthStart 0 = 0 := rfl
    rw [ofDays_eq (by omega) hpos (by omega)]
    exact (if_neg (Nat.not_lt.2 hfull)).symm

/-- **Every day has a date there is.** -/
theorem isValid_ofDays (days : Int) : (ofDays days).IsValid := by
  obtain ⟨year, shifted, k, hshifted, hk, hdays⟩ := exists_parts days
  rw [ofDays_eq hshifted hk hdays]
  have hmonth : 1 ≤ monthAt shifted ∧ monthAt shifted ≤ 12 := by
    unfold monthAt
    split <;> omega
  exact ⟨hmonth.1, hmonth.2, Nat.succ_pos k, hk⟩

/-! ## The order of dates -/

/-- What dates are compared by: the year, then the month, then the day. -/
def key (d : Date) : Int ×ₗ Nat ×ₗ Nat := toLex (d.year, toLex (d.month, d.day))

/-- The next date is a later one. -/
theorem key_lt_key_next (d : Date) : d.key < d.next.key := by
  unfold next key
  split
  · simp [Prod.Lex.toLex_lt_toLex]
  · split
    · simp [Prod.Lex.toLex_lt_toLex]
    · simp [Prod.Lex.toLex_lt_toLex]

/-- **Dates come in the order of their days.** -/
theorem strictMono_key_ofDays : StrictMono fun days => (ofDays days).key :=
  strictMono_int_of_lt_succ fun days => by
    rw [ofDays_succ]
    exact key_lt_key_next _

end Date

end Herald
