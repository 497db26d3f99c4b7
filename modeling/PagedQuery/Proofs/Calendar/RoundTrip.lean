import Mathlib
import PagedQuery.Calendar.Text
import PagedQuery.Proofs.Text.Digits

/-!
# Dates and timestamps survive being written

A date or a timestamp that is written is read back as it was (`Date.parse?_text`,
`Timestamp.parse?_text`). A number is taken off a text as it was put there if it is as long as
numbers in its place may be, or if something other than a digit follows it (`takeNumber_append`);
the parts of a date and of a time of day fill their places, and behind a year stands a minus.
-/

namespace PagedQuery

open Text

namespace Calendar

/-! ## Padded numbers -/

theorem allDigits_padded (width n : ℕ) : AllDigits (padded width n) :=
  allDigits_append.2 ⟨allDigits_replicate_zero _, allDigits_naturalText n⟩

theorem padded_ne_nil (width n : ℕ) : padded width n ≠ [] :=
  List.append_ne_nil_of_right_ne_nil _ (naturalText_ne_nil n)

theorem ofDigitChars_padded (width n : ℕ) : Nat.ofDigitChars 10 (padded width n) 0 = n := by
  rw [padded, List.leftpad, Nat.ofDigitChars_append, Nat.ofDigitChars_replicate_zero, Nat.mul_zero,
    ofDigitChars_naturalText]

theorem length_padded {width n : ℕ} (hwidth : 0 < width) (hn : n < 10 ^ width) :
    (padded width n).length = width := by
  have hle : (naturalText n).length ≤ width := (Nat.length_toDigits_le_iff (by decide) hwidth).2 hn
  rw [padded, List.length_leftpad, Nat.max_eq_left hle]

/-! ## Taking numbers -/

theorem startsOff_take {cs : List Char} (h : StartsOff cs) (n : ℕ) : StartsOff (cs.take n) := by
  intro c hc
  rw [List.head?_take] at hc
  split at hc
  · cases hc
  · exact h c hc

theorem takeNumber_append {most : ℕ} {ds rest : List Char} (h : AllDigits ds) (hne : ds ≠ [])
    (hmost : ds.length ≤ most) (hrest : ds.length = most ∨ StartsOff rest) :
    takeNumber most (ds ++ rest) = some (Nat.ofDigitChars 10 ds 0, rest) := by
  have hstop : (rest.take (most - ds.length)).takeWhile Char.isDigit = [] := by
    rcases hrest with hfull | hoff
    · rw [hfull, Nat.sub_self, List.take_zero, List.takeWhile_nil]
    · exact (startsOff_take hoff _).takeWhile
  -- What is left of the room behind the digits holds no digit, whichever of the two ends them.
  have hdigits : ((ds ++ rest).take most).takeWhile Char.isDigit = ds := by
    rw [List.take_append, List.take_of_length_le hmost, List.takeWhile_append_of_pos h, hstop,
      List.append_nil]
  rw [takeNumber, hdigits, if_neg (by simpa using hne), List.drop_left]

/-- Trimming takes nothing off a text that starts with a digit. -/
theorem trimStart_append {ds : List Char} (h : AllDigits ds) (hne : ds ≠ []) (rest : List Char) :
    trimStart (ds ++ rest) = ds ++ rest := by
  cases ds with
  | nil => exact absurd rfl hne
  | cons d ds => exact trimStart_cons (isBlank_of_isDigit (h d List.mem_cons_self)) _

theorem takePart_padded {n : ℕ} (hn : n < 100) (rest : List Char) :
    takePart (padded 2 n ++ rest) = some (n, rest) := by
  have hlength : (padded 2 n).length = 2 := length_padded (by decide) hn
  rw [takePart, trimStart_append (allDigits_padded 2 n) (padded_ne_nil 2 n),
    takeNumber_append (allDigits_padded 2 n) (padded_ne_nil 2 n) hlength.le (.inl hlength),
    ofDigitChars_padded]

/-- A year that starts with a digit has no sign. -/
theorem takeYear_append {ds : List Char} (h : AllDigits ds) (hne : ds ≠ []) (rest : List Char) :
    takeYear (ds ++ rest) = (takeNumber 4 (ds ++ rest)).map fun (n, rest) => ((n : ℤ), rest) := by
  rw [takeYear, trimStart_append h hne]
  cases ds with
  | nil => exact absurd rfl hne
  | cons d ds =>
    have hd := h d List.mem_cons_self
    split
    · next heq => exact absurd (List.cons.inj heq).1 (ne_of_isDigit hd rfl)
    · next heq => exact absurd (List.cons.inj heq).1 (ne_of_isDigit hd rfl)
    · rfl

theorem takeYear_yearText (year : ℤ) {rest : List Char} (hrest : StartsOff rest) :
    takeYear (yearText year ++ rest) = some (year, rest) := by
  have htake : ∀ most, (padded 4 year.natAbs).length ≤ most →
      takeNumber most (padded 4 year.natAbs ++ rest) = some (year.natAbs, rest) := by
    intro most hmost
    rw [takeNumber_append (allDigits_padded 4 _) (padded_ne_nil 4 _) hmost (.inr hrest),
      ofDigitChars_padded]
  have hsigned := htake (padded 4 year.natAbs ++ rest).length (by simp)
  rw [yearText]
  -- With a sign a year takes all digits there are; without one it takes four, which is all it has.
  split
  · next hneg =>
    have hcast : -((year.natAbs : ℕ) : ℤ) = year := by omega
    rw [List.cons_append, takeYear, trimStart_cons rfl]
    show (takeNumber _ _).map _ = _
    rw [hsigned]
    exact congrArg (fun year => some (year, rest)) hcast
  · next hnonneg =>
    have hcast : ((year.natAbs : ℕ) : ℤ) = year := by omega
    split
    · rw [List.cons_append, takeYear, trimStart_cons rfl]
      show (takeNumber _ _).map _ = _
      rw [hsigned]
      exact congrArg (fun year => some (year, rest)) hcast
    · next hfour =>
      have hlength : (padded 4 year.natAbs).length = 4 := length_padded (by decide) (by omega)
      rw [takeYear_append (allDigits_padded 4 _) (padded_ne_nil 4 _), htake 4 hlength.le]
      exact congrArg (fun year => some (year, rest)) hcast

theorem takeFraction_padded {width n : ℕ} (hwidth : 0 < width) (hnine : width ≤ 9)
    (hn : n < 10 ^ width) :
    takeFraction ('.' :: padded width n) = some (n * 10 ^ (9 - width), []) := by
  have hlength := length_padded hwidth hn
  have hkept : (padded width n).take 9 = padded width n := List.take_of_length_le (by omega)
  rw [takeFraction, (allDigits_padded width n).takeWhile,
    if_neg (by simpa using padded_ne_nil width n), hkept, List.drop_length]
  simp only [hlength, ofDigitChars_padded, Nat.pow_eq]

theorem takeFraction_fractionText {n : ℕ} (hn : n < 1000000000) :
    takeFraction (fractionText n) = some (n, []) := by
  rw [fractionText]
  split
  · next hzero =>
    rw [hzero]
    rfl
  · split
    · rw [takeFraction_padded (by decide) (by decide) (by omega)]
      congr 2
      omega
    · split
      · rw [takeFraction_padded (by decide) (by decide) (by omega)]
        congr 2
        omega
      · rw [takeFraction_padded (by decide) (by decide) (by omega)]
        congr 2
        omega

/-! ## Dates and times of day -/

theorem takeChar_cons (c : Char) (cs : List Char) : takeChar c (c :: cs) = some cs :=
  if_pos rfl

theorem daysInMonth_lt (year : ℤ) (month : ℕ) : daysInMonth year month < 100 := by
  unfold daysInMonth
  split
  · split <;> decide
  all_goals decide

theorem takeDate_text (d : Date) (rest : List Char) :
    takeDate (d.text ++ rest) = some (d, rest) := by
  obtain ⟨year, month, day, isDate⟩ := d
  have hmonth : month < 100 := isDate.2.1.2.trans_lt (by decide)
  have hday : day < 100 := isDate.2.2.2.trans_lt (daysInMonth_lt year month)
  have hparts : Date.text ⟨year, month, day, isDate⟩ ++ rest =
      yearText year ++ ('-' :: (padded 2 month ++ ('-' :: (padded 2 day ++ rest)))) := by
    simp [Date.text]
  have hdate : Date.ofParts? year month day = some ⟨year, month, day, isDate⟩ := dif_pos isDate
  rw [takeDate, hparts, takeYear_yearText year (startsOff_cons rfl _)]
  simp only [Option.bind_eq_bind, Option.bind_some, takeChar_cons, takePart_padded hmonth,
    takePart_padded hday, hdate]
  rfl

theorem timeText_eq (t : ClockTime) : t.text = padded 2 t.hour ++
    (':' :: (padded 2 t.minute ++ (':' :: (padded 2 t.second ++ fractionText t.nanosecond)))) := by
  simp [ClockTime.text]

theorem takeTime_text (t : ClockTime) : takeTime t.text = some (t, []) := by
  obtain ⟨hour, minute, second, nanosecond⟩ := t
  have htime : ClockTime.ofParts? hour minute second nanosecond =
      some ⟨hour, minute, second, nanosecond⟩ :=
    dif_pos ⟨hour.isLt, minute.isLt, second.isLt, nanosecond.isLt⟩
  have hhour : (hour : ℕ) < 100 := by omega
  have hminute : (minute : ℕ) < 100 := by omega
  have hsecond : (second : ℕ) < 100 := by omega
  rw [takeTime, timeText_eq, takePart_padded hhour]
  simp only [Option.bind_eq_bind, Option.bind_some, takeChar_cons, takePart_padded hminute,
    takePart_padded hsecond, takeFraction_fractionText nanosecond.isLt, htime]
  rfl

theorem trimStart_timeText (t : ClockTime) : trimStart (' ' :: t.text) = t.text := by
  rw [timeText_eq]
  exact trimStart_append (allDigits_padded 2 _) (padded_ne_nil 2 _) _

/-! ## White space -/

theorem isBlank_of_mem_padded {width n : ℕ} {c : Char} (hc : c ∈ padded width n) :
    isBlank c = false :=
  isBlank_of_isDigit (allDigits_padded width n c hc)

theorem isBlank_of_mem_cons_padded {mark : Char} (hmark : isBlank mark = false) {width n : ℕ}
    {c : Char} (hc : c ∈ mark :: padded width n) : isBlank c = false := by
  rcases List.mem_cons.1 hc with rfl | hc
  · exact hmark
  · exact isBlank_of_mem_padded hc

theorem isBlank_of_mem_yearText {year : ℤ} {c : Char} (hc : c ∈ yearText year) :
    isBlank c = false := by
  rw [yearText] at hc
  split_ifs at hc
  · exact isBlank_of_mem_cons_padded rfl hc
  · exact isBlank_of_mem_cons_padded rfl hc
  · exact isBlank_of_mem_padded hc

theorem isBlank_of_mem_fractionText {n : ℕ} {c : Char} (hc : c ∈ fractionText n) :
    isBlank c = false := by
  rw [fractionText] at hc
  split_ifs at hc
  · cases hc
  all_goals exact isBlank_of_mem_cons_padded rfl hc

theorem isBlank_of_mem_dateText {d : Date} {c : Char} (hc : c ∈ d.text) : isBlank c = false := by
  simp only [Date.text, List.mem_append, List.mem_cons] at hc
  obtain (hc | rfl | hc) | rfl | hc := hc
  · exact isBlank_of_mem_yearText hc
  · rfl
  · exact isBlank_of_mem_padded hc
  · rfl
  · exact isBlank_of_mem_padded hc

theorem isBlank_of_mem_timeText {t : ClockTime} {c : Char} (hc : c ∈ t.text) :
    isBlank c = false := by
  simp only [timeText_eq, List.mem_append, List.mem_cons] at hc
  obtain hc | rfl | hc | rfl | hc | hc := hc
  · exact isBlank_of_mem_padded hc
  · rfl
  · exact isBlank_of_mem_padded hc
  · rfl
  · exact isBlank_of_mem_padded hc
  · exact isBlank_of_mem_fractionText hc

end Calendar

open Calendar

/-- A date that is written is read back. -/
theorem Date.parse?_text (d : Date) : Date.parse? d.text = some d := by
  have htake := takeDate_text d []
  rw [List.append_nil] at htake
  rw [Date.parse?, htake]

theorem Date.trim_text (d : Date) : trim d.text = d.text :=
  trim_eq_self fun _ => isBlank_of_mem_dateText

/-- A timestamp that is written is read back. -/
theorem Timestamp.parse?_text (t : Timestamp) : Timestamp.parse? t.text = some t := by
  have hfirst : dateAndTime? (fun cs => some (trimStart cs)) t.text = some t := by
    rw [dateAndTime?, Timestamp.text, takeDate_text]
    simp only [Option.bind_eq_bind, Option.bind_some, trimStart_timeText, takeTime_text]
  rw [Timestamp.parse?, hfirst]
  rfl

/-- The one blank in a timestamp stands between the day and the time. -/
theorem Timestamp.trim_text (t : Timestamp) : trim t.text = t.text := by
  have hdate : t.date.text ≠ [] := by simp [Date.text]
  have htime : t.time.text ≠ [] := by simp [ClockTime.text]
  refine trim_eq_self_of_ends (fun c hc => ?_) fun c hc => ?_
  · rw [Timestamp.text, List.head?_append_of_ne_nil _ hdate] at hc
    exact isBlank_of_mem_dateText (List.mem_of_head? hc)
  · rw [Timestamp.text, List.append_cons, List.getLast?_append_of_ne_nil _ htime] at hc
    exact isBlank_of_mem_timeText (List.mem_of_getLast? hc)

end PagedQuery
