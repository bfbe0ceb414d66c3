import Herald.Proofs.Notice.Calendar
import Herald.Proofs.Notice.Readable
import Herald.Proofs.Text.Ordering
/-!
# Times in the order of their texts

The last line of a message tells the second it is about, whatever the lines in front of
it say (`Timestamp.readMessage?_bodyText`). A text of a time is made of numbers of fixed
widths as long as the year has four digits, so that texts are compared as these numbers
are, one by one (`Timestamp.numbersText_lt_iff`): first the year, the month and the day,
which come in the order of the days, and then the time of the day, where a leap second
comes behind the second it goes on from. All this is said of regular timestamps first,
and a text is always that of a regular one (`Timestamp.text_shown`).
-/

namespace Herald

namespace Timestamp

variable {t u : Timestamp}

/-! ## Numbers between separators -/

/-- Two numbers that fit a width. -/
structure Fit (f : Nat × Nat × Nat) : Prop where
  pos : 0 < f.1
  left : f.2.1 < 10 ^ f.1
  right : f.2.2 < 10 ^ f.1

/-- **Numbers of the same widths are compared one by one**, as their text is. -/
theorem numbersText_lt_iff (sep : Char) {fields : List (Nat × Nat × Nat)}
    (h : ∀ f ∈ fields, Fit f) :
    numbersText sep (fields.map fun f => (f.1, f.2.1))
        < numbersText sep (fields.map fun f => (f.1, f.2.2))
      ↔ fields.map (·.2.1) < fields.map (·.2.2) := by
  induction fields with
  | nil => simp [numbersText, joinWith]
  | cons f fields ih =>
    obtain ⟨⟨hpos, hleft, hright⟩, hfields⟩ := List.forall_mem_cons.1 h
    have hrest := ih hfields
    rcases fields with _ | ⟨g, fields⟩
    · simp [numbersText, joinWith, Digits.padded_lt_padded_iff hpos hleft hright,
        List.cons_lt_cons_iff]
    · simp only [numbersText, List.map_cons, joinWith] at hrest ⊢
      rw [Digits.padded_append_lt_iff hpos hleft hright, List.cons_lt_cons_self, hrest]
      exact List.cons_lt_cons_iff.symm

/-- Texts of numbers of the same widths are equally long. -/
theorem length_numbersText (sep : Char) {fields : List (Nat × Nat × Nat)}
    (h : ∀ f ∈ fields, Fit f) :
    (numbersText sep (fields.map fun f => (f.1, f.2.1))).length
      = (numbersText sep (fields.map fun f => (f.1, f.2.2))).length := by
  induction fields with
  | nil => rfl
  | cons f fields ih =>
    obtain ⟨⟨hpos, hleft, hright⟩, hfields⟩ := List.forall_mem_cons.1 h
    have hrest := ih hfields
    have hfirst : (Digits.padded f.1 f.2.1).length = (Digits.padded f.1 f.2.2).length :=
      Digits.length_padded_eq hpos hleft hright
    rcases fields with _ | ⟨g, fields⟩
    · exact hfirst
    · simp only [numbersText, List.map_cons, joinWith, List.length_append, List.length_cons]
        at hrest ⊢
      rw [hfirst, hrest]

/-! ## The order of the texts -/

/-- **One timestamp lies in an earlier second than another.** A leap second is a second
of its own, behind the one it goes on from. -/
def IsBefore (t u : Timestamp) : Prop :=
  t.seconds < u.seconds ∨ (t.seconds = u.seconds ∧ t.isLeap = false ∧ u.isLeap = true)

instance (t u : Timestamp) : Decidable (t.IsBefore u) := inferInstanceAs (Decidable (_ ∨ _))

/-- Whether the year is written with four digits and no sign. -/
def HasPlainYear (t : Timestamp) : Prop := 0 ≤ t.date.year ∧ t.date.year ≤ 9999

instance (t : Timestamp) : Decidable t.HasPlainYear := inferInstanceAs (Decidable (_ ∧ _))

/-- The text of the date. -/
def dateText (t : Timestamp) : List Char :=
  numbersText '-' [(4, t.date.year.natAbs), (2, t.date.month), (2, t.date.day)]

/-- The second of the minute as it is shown. -/
def secondShown (t : Timestamp) : Nat := t.secondOfDay % 60 + if t.isLeap then 1 else 0

/-- The text of the time of day. -/
def timeText (t : Timestamp) : List Char :=
  numbersText ':' [(2, t.secondOfDay / 3600), (2, t.secondOfDay / 60 % 60), (2, t.secondShown)]
    ++ ['Z']

theorem text_eq_of_plain (h : t.HasPlainYear) : t.text = t.dateText ++ 'T' :: t.timeText := by
  have hsign : signText t.date.year = [] := if_pos h
  rw [text_eq, hsign]
  rfl

/-- The numbers of the dates of two timestamps, with their widths. -/
def dateFields (t u : Timestamp) : List (Nat × Nat × Nat) :=
  [(4, t.date.year.natAbs, u.date.year.natAbs), (2, t.date.month, u.date.month),
    (2, t.date.day, u.date.day)]

/-- The numbers of dates fit their widths. -/
theorem fit_dateFields (ht : t.HasPlainYear) (hu : u.HasPlainYear) :
    ∀ f ∈ dateFields t u, Fit f := by
  have hyear : ∀ {t : Timestamp}, t.HasPlainYear → t.date.year.natAbs < 10 ^ 4 :=
    fun ⟨hlow, hhigh⟩ => by omega
  have hmonth : ∀ t : Timestamp, t.date.month < 10 ^ 2 := fun t => by
    have hle := (Date.isValid_ofDays (t.seconds / 86400)).month_le
    exact Nat.lt_of_le_of_lt hle (by omega)
  have hday : ∀ t : Timestamp, t.date.day < 10 ^ 2 := fun t => by
    have hle := (Date.isValid_ofDays (t.seconds / 86400)).day_le
    exact Nat.lt_of_le_of_lt (Nat.le_trans hle (Date.daysOfMonth_bounds _ _).2) (by omega)
  simp only [dateFields, List.forall_mem_cons, List.not_mem_nil, false_implies, implies_true,
    and_true]
  exact ⟨⟨by omega, hyear ht, hyear hu⟩, ⟨by omega, hmonth t, hmonth u⟩,
    ⟨by omega, hday t, hday u⟩⟩

/-- **Dates are compared as the days are.** -/
theorem dateText_lt_iff (ht : t.HasPlainYear) (hu : u.HasPlainYear) :
    t.dateText < u.dateText ↔ t.seconds / 86400 < u.seconds / 86400 := by
  have hnumbers : t.dateText < u.dateText ↔
      [t.date.year.natAbs, t.date.month, t.date.day]
        < [u.date.year.natAbs, u.date.month, u.date.day] :=
    numbersText_lt_iff '-' (fit_dateFields ht hu)
  have hdays : t.date.key < u.date.key ↔ t.seconds / 86400 < u.seconds / 86400 :=
    Date.strictMono_key_ofDays.lt_iff_lt
  obtain ⟨ht0, -⟩ := ht
  obtain ⟨hu0, -⟩ := hu
  rw [hnumbers, ← hdays]
  simp only [List.cons_lt_cons_iff, List.not_lt_nil, and_false, or_false, Date.key,
    Prod.Lex.toLex_lt_toLex]
  omega

/-- The texts of two dates are the same only for one day. -/
theorem dateText_inj (ht : t.HasPlainYear) (hu : u.HasPlainYear) :
    t.dateText = u.dateText ↔ t.seconds / 86400 = u.seconds / 86400 := by
  refine ⟨fun h => ?_, fun h => by simp only [dateText, date, h]⟩
  have hread := congrArg (readNumbers? '-') h
  unfold dateText at hread
  rw [readNumbers?_numbersText rfl (by simp), readNumbers?_numbersText rfl (by simp)] at hread
  simp only [List.map_cons, List.map_nil, Option.some.injEq, List.cons.injEq, and_true] at hread
  obtain ⟨hyear, hmonth, hday⟩ := hread
  have hyear' : t.date.year = u.date.year := by
    obtain ⟨ht0, -⟩ := ht
    obtain ⟨hu0, -⟩ := hu
    omega
  have hkey : t.date.key = u.date.key := by rw [Date.key, Date.key, hyear', hmonth, hday]
  exact Date.strictMono_key_ofDays.injective hkey

/-- The numbers of the times of day of two timestamps, with their widths. -/
def timeFields (t u : Timestamp) : List (Nat × Nat × Nat) :=
  [(2, t.secondOfDay / 3600, u.secondOfDay / 3600),
    (2, t.secondOfDay / 60 % 60, u.secondOfDay / 60 % 60), (2, t.secondShown, u.secondShown)]

/-- **The second shown** is that of the minute, and 60 for the leap second behind second
59. -/
theorem secondShown_cases (h : t.IsRegular) :
    (t.isLeap = false ∧ t.secondShown = t.secondOfDay % 60) ∨
      (t.isLeap = true ∧ t.secondOfDay % 60 = 59 ∧ t.secondShown = 60) := by
  obtain ⟨hshown, hlast⟩ := second_spec h
  rcases hleap : t.isLeap with _ | _
  · exact .inl ⟨rfl, by simp [secondShown, hleap]⟩
  · have hsixty : t.secondShown = 60 := hshown.2 hleap
    refine .inr ⟨rfl, ?_, hsixty⟩
    rw [← hlast]
    change min t.secondShown 59 = 59
    omega

/-- The second shown has two digits. -/
theorem secondShown_lt (t : Timestamp) : t.secondShown < 10 ^ 2 := by
  unfold secondShown
  split <;> omega

/-- The numbers of times of day fit their widths. -/
theorem fit_timeFields (t u : Timestamp) : ∀ f ∈ timeFields t u, Fit f := by
  have hlast : ∀ t : Timestamp, t.secondOfDay < 86400 := fun t => by
    unfold secondOfDay
    omega
  have hhour : ∀ t : Timestamp, t.secondOfDay / 3600 < 10 ^ 2 := fun t => by
    have := hlast t
    omega
  have hminute : ∀ t : Timestamp, t.secondOfDay / 60 % 60 < 10 ^ 2 := fun t => by omega
  simp only [timeFields, List.forall_mem_cons, List.not_mem_nil, false_implies, implies_true,
    and_true]
  exact ⟨⟨by omega, hhour t, hhour u⟩, ⟨by omega, hminute t, hminute u⟩,
    ⟨by omega, t.secondShown_lt, u.secondShown_lt⟩⟩

/-- **Times of day are compared as their seconds are**, the leap second last. -/
theorem timeText_lt_iff (ht : t.IsRegular) (hu : u.IsRegular) :
    t.timeText < u.timeText ↔ t.secondOfDay < u.secondOfDay
      ∨ (t.secondOfDay = u.secondOfDay ∧ t.isLeap = false ∧ u.isLeap = true) := by
  have hlength := length_numbersText ':' (fit_timeFields t u)
  have hnumbers := numbersText_lt_iff ':' (fit_timeFields t u)
  simp only [timeFields, List.map_cons, List.map_nil] at hlength hnumbers
  unfold timeText
  rw [append_lt_append_iff hlength, hnumbers]
  simp only [List.cons_lt_cons_iff, and_false, or_false, Std.Irrefl.irrefl]
  clear hlength hnumbers
  rcases secondShown_cases ht with ⟨ht, hshown⟩ | ⟨ht, hlast, hshown⟩ <;>
    rcases secondShown_cases hu with ⟨hu, hshown'⟩ | ⟨hu, hlast', hshown'⟩ <;>
    simp only [ht, hu, hshown, hshown', Bool.false_eq_true, Bool.true_eq_false, and_true, and_false,
      and_self, or_false] <;>
    omega

/-- Texts of regular times come in the order of the seconds. -/
theorem text_lt_text_iff_of_isRegular (ht : t.IsRegular) (hu : u.IsRegular)
    (hplain : t.HasPlainYear) (hplain' : u.HasPlainYear) : t.text < u.text ↔ t.IsBefore u := by
  have hlength : t.dateText.length = u.dateText.length :=
    length_numbersText '-' (fit_dateFields hplain hplain')
  rw [text_eq_of_plain hplain, text_eq_of_plain hplain', append_lt_append_iff hlength,
    dateText_lt_iff hplain hplain', dateText_inj hplain hplain', List.cons_lt_cons_self,
    timeText_lt_iff ht hu]
  unfold IsBefore secondOfDay
  by_cases hleap : t.isLeap = false ∧ u.isLeap = true
  · simp only [hleap, and_self, and_true]
    omega
  · simp only [hleap, and_false, or_false]
    omega

/-- A timestamp is shown on its day. -/
theorem date_shown (t : Timestamp) : t.shown.date = t.date := by
  by_cases h : t.IsRegular
  · rw [shown_of_isRegular h]
  · obtain ⟨⟨-, hwithin⟩, hseconds, -⟩ := shown_of_not_isRegular h
    have hday : (t.seconds + 1) / 86400 = t.seconds / 86400 := by omega
    rw [date, date, hseconds, hday]

/-- **Texts of times come in the order of the seconds shown.** -/
theorem text_lt_text_iff (ht : t.HasPlainYear) (hu : u.HasPlainYear) :
    t.text < u.text ↔ t.shown.IsBefore u.shown := by
  have hplain : ∀ {t : Timestamp}, t.HasPlainYear → t.shown.HasPlainYear := fun {t} h => by
    rwa [HasPlainYear, t.date_shown]
  rw [← t.text_shown, ← u.text_shown]
  exact text_lt_text_iff_of_isRegular t.isRegular_shown u.isRegular_shown (hplain ht) (hplain hu)

/-! ## Leap seconds -/

/-- The second shown stands at the end of the text. -/
theorem exists_text_eq (t : Timestamp) :
    ∃ front, t.text = front ++ ':' :: (Digits.padded 2 t.secondShown ++ ['Z']) := by
  refine ⟨signText t.date.year ++ (t.dateText ++ 'T' ::
    numbersText ':' [(2, t.secondOfDay / 3600), (2, t.secondOfDay / 60 % 60)]), ?_⟩
  rw [text_eq]
  simp [unsignedText, dateText, numbersText, joinWith, secondShown]

/-- A second 60 is shown for a leap second of a regular time and for nothing else. -/
theorem isLeap_iff_suffix_of_isRegular (h : t.IsRegular) :
    t.isLeap = true ↔ ":60Z".toList <:+ t.text := by
  have hsixty : ":60Z".toList = ':' :: (Digits.padded 2 60 ++ ['Z']) := by
    simp [Digits.padded, Digits.decimal, Digits.write, Digits.digit]
  have hshown : t.secondShown = 60 ↔ t.isLeap = true := (second_spec h).1
  obtain ⟨front, hfront⟩ := t.exists_text_eq
  have hlength : (Digits.padded 2 60).length = (Digits.padded 2 t.secondShown).length :=
    Digits.length_padded_eq (by omega) (by omega) t.secondShown_lt
  rw [← hshown, hsixty, hfront]
  refine ⟨fun h => h ▸ List.suffix_append _ _, fun h => ?_⟩
  have hsame := List.suffix_of_suffix_length_le h (List.suffix_append front _) (by simp [hlength])
  have heq := hsame.eq_of_length (by simp [hlength])
  have hdigits := List.append_cancel_right (List.cons.inj heq).2
  exact (Digits.padded_inj.1 hdigits).symm

/-- **A second 60 is shown for a leap second at the end of a minute** and for nothing
else. -/
theorem isLeap_iff_suffix (t : Timestamp) : t.shown.isLeap = true ↔ ":60Z".toList <:+ t.text := by
  rw [isLeap_iff_suffix_of_isRegular t.isRegular_shown, text_shown]

/-! ## The last line -/

/-- The last line of a message is that of its time. -/
theorem afterLast_bodyText (n : Notice) :
    afterLast '\n' n.bodyText = "Time: ".toList ++ n.time.text := by
  have hlines : ∃ front, n.bodyText = front ++ '\n' :: ("Time: ".toList ++ n.time.text) := by
    rw [Notice.bodyText_eq]
    generalize "Domain: ".toList = domain, "Client: ".toList = client, "Time: ".toList = time
    exact ⟨domain ++ (n.domain.toList ++ '\n' :: (client ++ n.clientText)), by simp⟩
  obtain ⟨front, hlines⟩ := hlines
  rw [hlines, afterLast_append n.notMem_timeLine]

/-- **A message tells the second it shows**, whatever it says of the domain and the
client. -/
theorem readMessage?_bodyText (n : Notice) :
    readMessage? n.bodyText = some (n.time.shown.seconds, n.time.shown.isLeap) := by
  have hlabel : "Time: ".toList.isPrefixOf ("Time: ".toList ++ n.time.text) = true :=
    List.isPrefixOf_iff_prefix.2 (List.prefix_append _ _)
  rw [readMessage?, afterLast_bodyText]
  simp only [hlabel, if_true]
  rw [List.drop_left' String.length_toList, read?_text]

end Timestamp

/-- **The time line of a message tells the second.** The last line of a message is the
text of its time behind a label, and is read back as the second shown, whatever the
domain and the client are. Every text of a time reads back to the second shown, before
the year zero and behind the year 9999 as well, and a leap second to itself: it is shown
as a second 60, and so has a text of its own. Of years of four digits the texts, compared
as strings, come in the order of the seconds shown. What is shown of a time is all of it,
unless it is a leap second within a minute: that is shown as the second behind. None such
comes of a second and its nanoseconds. The calendar behind this is the one in use: it
begins with 1970-01-01, and every day has the date that follows that of the day
before. -/
theorem time_lines_tell_seconds :
    (∀ n : Notice, afterLast '\n' n.body.toList = "Time: ".toList ++ n.time.text ∧
        Timestamp.readMessage? n.body.toList
          = some (n.time.shown.seconds, n.time.shown.isLeap)) ∧
      (∀ t : Timestamp, Timestamp.read? t.text = some (t.shown.seconds, t.shown.isLeap) ∧
        (t.shown.isLeap = true ↔ ":60Z".toList <:+ t.text)) ∧
      (∀ t u : Timestamp, t.text = u.text
        ↔ t.shown.seconds = u.shown.seconds ∧ t.shown.isLeap = u.shown.isLeap) ∧
      (∀ t u : Timestamp, t.HasPlainYear → u.HasPlainYear →
        (String.ofList t.text < String.ofList u.text ↔ t.shown.IsBefore u.shown)) ∧
      (∀ t : Timestamp, (t.IsRegular → t.shown = t) ∧
        (¬ t.IsRegular → t.shown.seconds = t.seconds + 1 ∧ t.shown.isLeap = false)) ∧
      (∀ seconds nanos t, Timestamp.of? seconds nanos = some t → t.IsRegular) ∧
      Date.ofDays 0 = ⟨1970, 1, 1⟩ ∧ ∀ days, Date.ofDays (days + 1) = (Date.ofDays days).next := by
  refine ⟨fun n => ?_, fun t => ⟨t.read?_text, t.isLeap_iff_suffix⟩, fun t u =>
    Timestamp.text_inj, fun t u ht hu => ?_, fun t => ⟨Timestamp.shown_of_isRegular, fun h =>
    (Timestamp.shown_of_not_isRegular h).2⟩, fun _ _ _ => Timestamp.isRegular_of_of?,
    Date.ofDays_zero, Date.ofDays_succ⟩
  · rw [Notice.body, String.toList_ofList]
    exact ⟨Timestamp.afterLast_bodyText n, Timestamp.readMessage?_bodyText n⟩
  · rw [String.lt_iff, String.toList_ofList, String.toList_ofList]
    exact Timestamp.text_lt_text_iff ht hu

/-- The leap second at the end of 2016 comes behind 23:59:59 and before the next year,
and all of that behind the first second there is a plain text for. -/
theorem time_lines_tell_seconds_around_a_leap_second :
    let first : Timestamp := ⟨-62167219200, 0, by decide, by decide, by decide⟩
    let before : Timestamp := ⟨1483228799, 999_999_999, by decide, by decide, by decide⟩
    let leap : Timestamp := ⟨1483228799, 1_500_000_000, by decide, by decide, by decide⟩
    let next : Timestamp := ⟨1483228800, 0, by decide, by decide, by decide⟩
    (first.HasPlainYear ∧ before.HasPlainYear ∧ leap.HasPlainYear ∧ next.HasPlainYear) ∧
      String.ofList first.text < String.ofList before.text ∧
      String.ofList before.text < String.ofList leap.text ∧
      String.ofList leap.text < String.ofList next.text ∧ leap.text ≠ before.text ∧
      leap.IsRegular ∧ Timestamp.read? leap.text = some (1483228799, true) := by
  intro first before leap next
  obtain ⟨-, hread, hinj, horder, hshown, -⟩ := time_lines_tell_seconds
  have hplain : first.HasPlainYear ∧ before.HasPlainYear ∧ leap.HasPlainYear
      ∧ next.HasPlainYear := by decide
  obtain ⟨hfirst, hbefore, hleap, hnext⟩ := hplain
  have hregular : leap.IsRegular := by decide
  refine ⟨⟨hfirst, hbefore, hleap, hnext⟩, (horder first before hfirst hbefore).2 (by decide),
    (horder before leap hbefore hleap).2 (by decide), (horder leap next hleap hnext).2 (by decide),
    mt (hinj leap before).1 (by decide), hregular, ?_⟩
  have htext := (hread leap).1
  rwa [(hshown leap).1 hregular] at htext

/-- A leap second within a minute reads back as the second behind it, and shows no
second 60. -/
theorem time_lines_lose_a_leap_second_within_a_minute :
    let leap : Timestamp := ⟨1709994605, 1_500_000_000, by decide, by decide, by decide⟩
    leap.isLeap = true ∧ Timestamp.read? leap.text = some (1709994606, false) ∧
      ¬ ":60Z".toList <:+ leap.text := by
  intro leap
  have hshown : leap.shown.seconds = 1709994606 ∧ leap.shown.isLeap = false := by decide
  refine ⟨rfl, ?_, ?_⟩
  · rw [leap.read?_text, hshown.1, hshown.2]
  · rw [← leap.isLeap_iff_suffix, hshown.2]
    exact Bool.false_ne_true

end Herald
