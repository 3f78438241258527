import BuildYard.Time.Instant
import Mathlib.Tactic.IntervalCases
/-!
# Numbers and dates

The date with a number is a date of the calendar, and its number is the one that it was made from
(`isValid_ofDay`, `toDay_ofDay`). Both go through the year that starts on 1 March: its number is found
without a table (`marchYear_bounds`), and so is the month of a day in it.

A date is known to be in its year from its number (`year_toDay_bounds`), which bounds the years in which
there are instants.
-/

namespace BuildYard

namespace Date

/-! ## Years from 1 March -/

theorem isLeapYear_iff {year : Int} :
    isLeapYear year = true ↔ year % 4 = 0 ∧ (year % 100 ≠ 0 ∨ year % 400 = 0) := by
  simp only [isLeapYear, Bool.and_eq_true, Bool.or_eq_true, beq_iff_eq, bne_iff_ne]

/-- A year from 1 March is as long as the calendar year that it ends in. -/
theorem daysToMarch_succ (year : Int) :
    daysToMarch (year + 1) = daysToMarch year + if isLeapYear (year + 1) then 366 else 365 := by
  by_cases hleap : isLeapYear (year + 1) = true
  · rw [if_pos hleap]
    rw [isLeapYear_iff] at hleap
    unfold daysToMarch
    omega
  · rw [if_neg hleap]
    rw [isLeapYear_iff] at hleap
    unfold daysToMarch
    omega

theorem daysToMarch_mono {year year' : Int} (h : year ≤ year') :
    daysToMarch year ≤ daysToMarch year' := by
  unfold daysToMarch
  omega

/-- A day is in the year that is found for it. -/
theorem marchYear_bounds (n : Int) :
    daysToMarch (marchYear n) ≤ n ∧ n < daysToMarch (marchYear n + 1) := by
  unfold marchYear
  dsimp only
  have hmean : n * 400 / 146097 * 146097 ≤ n * 400 ∧ n * 400 < (n * 400 / 146097 + 1) * 146097 := by
    omega
  generalize n * 400 / 146097 = year at hmean
  -- up to any year, the days are less than one more than in years of the mean length, and more than
  -- two fewer
  split
  · rename_i hnext
    refine ⟨hnext, ?_⟩
    unfold daysToMarch
    omega
  · rename_i hnext
    refine ⟨?_, not_le.1 hnext⟩
    unfold daysToMarch
    omega

/-- The date that is so many days after the 1 March of a year. -/
def inMarchYear (year : Int) (dayOfYear : Nat) : Date :=
  let index := (5 * dayOfYear + 2) / 153
  let day := dayOfYear - daysToMonth index + 1
  if index < 10 then ⟨year, index + 3, day⟩ else ⟨year + 1, index - 9, day⟩

/-- The date with a number is in the year that is found for it. -/
theorem exists_ofDay_eq_inMarchYear (day : Int) :
    ∃ (year : Int) (dayOfYear : Nat), ofDay day = inMarchYear year dayOfYear ∧
      day + daysToEpoch = daysToMarch year + dayOfYear ∧
      dayOfYear < if isLeapYear (year + 1) then 366 else 365 := by
  obtain ⟨hfrom, hto⟩ := marchYear_bounds (day + daysToEpoch)
  obtain ⟨dayOfYear, hday⟩ := Int.eq_ofNat_of_zero_le (Int.sub_nonneg_of_le hfrom)
  refine ⟨marchYear (day + daysToEpoch), dayOfYear, ?_, by omega, ?_⟩
  · rw [ofDay, hday, inMarchYear]
    rfl
  · rw [daysToMarch_succ] at hto
    by_cases hleap : isLeapYear (marchYear (day + daysToEpoch) + 1) = true
    · rw [if_pos hleap] at hto ⊢
      omega
    · rw [if_neg hleap] at hto ⊢
      omega

/-! ## Months of such a year -/

theorem daysToMonth_le (dayOfYear : Nat) :
    daysToMonth ((5 * dayOfYear + 2) / 153) ≤ dayOfYear := by
  unfold daysToMonth
  omega

theorem lt_daysToMonth_succ (dayOfYear : Nat) :
    dayOfYear < daysToMonth ((5 * dayOfYear + 2) / 153 + 1) := by
  unfold daysToMonth
  omega

/-- The months from March to December end where the next one starts. -/
theorem daysInMonth_add_three {index : Nat} (h : index < 10) (year : Int) :
    daysInMonth year (index + 3) = daysToMonth (index + 1) - daysToMonth index := by
  interval_cases index <;> rfl

theorem isValid_iff {d : Date} :
    d.isValid = true ↔
      1 ≤ d.month ∧ d.month ≤ 12 ∧ 1 ≤ d.day ∧ d.day ≤ daysInMonth d.year d.month := by
  simp only [isValid, Bool.and_eq_true, decide_eq_true_eq, and_assoc]

theorem isValid_inMarchYear {year : Int} {dayOfYear : Nat}
    (h : dayOfYear < if isLeapYear (year + 1) then 366 else 365) :
    (inMarchYear year dayOfYear).isValid = true := by
  have hfrom := daysToMonth_le dayOfYear
  have hto := lt_daysToMonth_succ dayOfYear
  have hindex : (5 * dayOfYear + 2) / 153 < 12 := by split at h <;> omega
  unfold inMarchYear
  generalize (5 * dayOfYear + 2) / 153 = index at hfrom hto hindex
  dsimp only
  split
  · rename_i hlt
    have hlength := daysInMonth_add_three hlt year
    rw [isValid_iff]
    dsimp only
    omega
  · rename_i hge
    rw [isValid_iff]
    -- January ends where February starts, and February with the year
    obtain rfl | rfl : index = 10 ∨ index = 11 := by omega
    · have hlength : daysInMonth (year + 1) (10 - 9) = 31 := rfl
      have hstart : daysToMonth 10 = 306 := rfl
      have hend : dayOfYear < 337 := hto
      dsimp only
      omega
    · have hlength : daysInMonth (year + 1) (11 - 9) = if isLeapYear (year + 1) then 29 else 28 := rfl
      have hstart : daysToMonth 11 = 337 := rfl
      dsimp only
      by_cases hleap : isLeapYear (year + 1) = true
      · rw [if_pos hleap] at h hlength
        omega
      · rw [if_neg hleap] at h hlength
        omega

theorem toDay_inMarchYear {year : Int} {dayOfYear : Nat} (h : dayOfYear < 366) :
    toDay (inMarchYear year dayOfYear) = daysToMarch year + dayOfYear - daysToEpoch := by
  have hfrom := daysToMonth_le dayOfYear
  have hindex : (5 * dayOfYear + 2) / 153 < 12 := by omega
  unfold inMarchYear
  generalize (5 * dayOfYear + 2) / 153 = index at hfrom hindex
  dsimp only
  split
  · have hafter : ¬ index + 3 ≤ 2 := by omega
    rw [toDay, if_neg hafter, Nat.add_sub_cancel]
    dsimp only
    omega
  · have hbefore : index - 9 ≤ 2 := by omega
    have hmarch : index - 9 + 9 = index := by omega
    rw [toDay, if_pos hbefore, hmarch, Int.add_sub_cancel]
    dsimp only
    omega

/-! ## The date with a number -/

/-- The number of the date with a number is that number. -/
theorem toDay_ofDay (day : Int) : toDay (ofDay day) = day := by
  obtain ⟨year, dayOfYear, hdate, hday, hlt⟩ := exists_ofDay_eq_inMarchYear day
  have hyear : dayOfYear < 366 := by split at hlt <;> omega
  rw [hdate, toDay_inMarchYear hyear, ← hday, Int.add_sub_cancel]

/-- There is a date with every number. -/
theorem isValid_ofDay (day : Int) : (ofDay day).isValid = true := by
  obtain ⟨year, dayOfYear, hdate, -, hlt⟩ := exists_ofDay_eq_inMarchYear day
  rw [hdate]
  exact isValid_inMarchYear hlt

/-! ## Calendar years -/

/-- A date is in its calendar year, which starts 306 days after a 1 March. -/
theorem year_toDay_bounds {d : Date} (h : d.isValid = true) :
    daysToMarch (d.year - 1) + 306 ≤ d.toDay + daysToEpoch ∧
      d.toDay + daysToEpoch < daysToMarch d.year + 306 := by
  obtain ⟨year, month, day⟩ := d
  obtain ⟨hmonth, hmonths, hday, hdays⟩ := isValid_iff.1 h
  have hyear := daysToMarch_succ (year - 1)
  rw [Int.sub_add_cancel] at hyear
  have hlength : 365 ≤ (if isLeapYear year then 366 else 365 : Int) := by split <;> decide
  dsimp only at hmonth hmonths hday hdays ⊢
  by_cases hbefore : month ≤ 2
  · have hmonthLength : daysInMonth year month ≤ 31 := by
      unfold daysInMonth
      split_ifs <;> omega
    have hstart : 306 ≤ daysToMonth (month + 9) ∧ daysToMonth (month + 9) ≤ 337 := by
      unfold daysToMonth
      omega
    rw [toDay, if_pos hbefore]
    dsimp only
    constructor <;> omega
  · obtain ⟨index, rfl⟩ : ∃ index, month = index + 3 := ⟨month - 3, by omega⟩
    have hmonthLength := daysInMonth_add_three (by omega : index < 10) year
    have hend : daysToMonth (index + 1) ≤ 306 := by
      unfold daysToMonth
      omega
    rw [toDay, if_neg hbefore, Nat.add_sub_cancel]
    dsimp only
    constructor <;> omega

end Date

namespace Instant

/-- The date of an instant has its number. -/
theorem toDay_date (t : Instant) : t.date.toDay = t.seconds / 86400 := Date.toDay_ofDay _

theorem isValid_date (t : Instant) : t.date.isValid = true := Date.isValid_ofDay _

/-- The years in which there are instants. -/
theorem year_bounds {t : Instant} {d : Date} (hvalid : d.isValid = true)
    (hday : d.toDay = t.seconds / 86400) : -262143 ≤ d.year ∧ d.year ≤ 262142 := by
  obtain ⟨hfrom, hto⟩ := Date.year_toDay_bounds hvalid
  obtain ⟨hfirst, hlast, -⟩ := t.represented
  have hbefore : Date.daysToMarch (-262144) = -95746130 := by decide
  have hafter : Date.daysToMarch 262142 = 95745399 := by decide
  simp only [Date.daysToEpoch, firstSecond, lastSecond] at hfrom hto hfirst hlast
  constructor
  · refine Int.not_lt.1 fun hlt => ?_
    have hmono : Date.daysToMarch d.year ≤ Date.daysToMarch (-262144) :=
      Date.daysToMarch_mono (by omega)
    omega
  · refine Int.not_lt.1 fun hlt => ?_
    have hmono : Date.daysToMarch 262142 ≤ Date.daysToMarch (d.year - 1) :=
      Date.daysToMarch_mono (by omega)
    omega

end Instant

end BuildYard
