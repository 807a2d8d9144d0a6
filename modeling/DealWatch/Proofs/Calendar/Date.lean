import DealWatch.Calendar.Timestamp

/-!
# Days and dates

Years are counted from March, and 400 of them make a century of the calendar. A day is known by its
century, its year in it and its day of that year.

* `Date.yearAt_spec` says that the year of a day is the one between whose start and end it lies;
* `Date.monthAt_spec` says the same of the month, and that it is long enough;
* `Date.isValid_ofDays` and `Date.toDays_ofDays` conclude that a day is taken to a date that exists
  and that is taken back to the day.

The quotients that give the year of a day are right for the first and the last day of each of the
400 years, which is checked for all of them (`Date.yearAt_ends`). They do not decrease from one day
to the next (`Date.yearAt_mono`), so they are right for the days between. The days of one year are
few enough to check the months for each.
-/

namespace DealWatch

namespace Date

/-! ### Years -/

/-- The days of a century before a year. -/
def yearStart (year : Int) : Int := 365 * year + year / 4 - year / 100 + year / 400

/-- The year of a day of a century. -/
def yearAt (day : Int) : Int := (day - day / 1460 + day / 36524 - day / 146096) / 365

theorem yearAt_succ (day : Int) : yearAt day ≤ yearAt (day + 1) := by
  refine Int.ediv_le_ediv (by decide) ?_
  -- a day that is left out of every fourth century is the last one of that century
  have hcentury (x : Int) : x / 146096 = x / 36524 / 4 := by
    rw [Int.ediv_ediv_of_nonneg (by decide)]
    rfl
  have hleap : (day + 1) / 1460 ≤ day / 1460 + 1 := by omega
  have hlow : day / 36524 ≤ (day + 1) / 36524 := by omega
  have hhigh : (day + 1) / 36524 ≤ day / 36524 + 1 := by omega
  rw [hcentury, hcentury]
  generalize day / 36524 = before at *
  generalize (day + 1) / 36524 = after at *
  omega

theorem yearAt_mono {a b : Int} (h : a ≤ b) : yearAt a ≤ yearAt b := by
  obtain ⟨n, rfl⟩ := Int.le.dest h
  induction n with
  | zero => simp only [Int.natCast_zero, Int.add_zero, Int.le_refl]
  | succ n ih =>
    rw [Int.natCast_succ, ← Int.add_assoc]
    exact Int.le_trans (ih (by omega)) (yearAt_succ _)

/-- The first day and the last day of a year are in it. -/
theorem yearAt_ends : ∀ n < 400, yearAt (yearStart (n : Nat)) = n ∧
    yearAt (yearStart ((n : Nat) + 1) - 1) = n := by
  decide +kernel

/-- A day lies between the start and the end of its year. -/
theorem yearAt_spec {day : Int} (hlow : 0 ≤ day) (hhigh : day < 146097) :
    0 ≤ yearAt day ∧ yearAt day < 400 ∧ yearStart (yearAt day) ≤ day ∧
      day < yearStart (yearAt day + 1) := by
  have hfirst : (0 : Int) ≤ yearAt day := yearAt_mono hlow
  have hlast : yearAt day ≤ 399 := yearAt_mono (Int.le_sub_one_of_lt hhigh)
  generalize hyear : yearAt day = year at *
  obtain ⟨n, rfl⟩ := Int.eq_ofNat_of_zero_le hfirst
  refine ⟨hfirst, by omega, ?_, ?_⟩
  · refine Int.not_lt.1 fun hlt => ?_
    -- the day would be in the year before
    cases n with
    | zero => exact absurd hlow (Int.not_le.2 hlt)
    | succ n =>
      have hbefore := (yearAt_ends n (by omega)).2
      have hmono := yearAt_mono (Int.le_sub_one_of_lt hlt)
      rw [hyear, Int.natCast_succ, hbefore] at hmono
      omega
  · refine Int.not_le.1 fun hle => ?_
    -- the day would be in the next year, if there is one
    by_cases hn : n + 1 < 400
    · have hafter := (yearAt_ends (n + 1) hn).1
      have hmono := yearAt_mono hle
      rw [hyear, ← Int.natCast_succ, hafter] at hmono
      omega
    · obtain rfl : n = 399 := by omega
      exact absurd hle (Int.not_le.2 hhigh)

/-! ### Months -/

/-- The month of a day of a year. -/
def monthAt (day : Int) : Int := (5 * day + 2) / 153

/-- The days of a year before a month. -/
def monthStart (month : Int) : Int := (153 * month + 2) / 5

/-- The number of a month that is counted from March. -/
def civilMonth (month : Int) : Int := if month < 10 then month + 3 else month - 9

/-- The day of the month, counted from one. -/
def dayAt (day : Int) : Int := day - monthStart (monthAt day) + 1

/-- A day of a year is in a month that is long enough, and only the last day of a leap year is a
leap day. -/
theorem monthAt_spec : ∀ n < 366, 0 ≤ monthAt (n : Nat) ∧ monthAt n ≤ 11 ∧ 1 ≤ dayAt n ∧
    (dayAt n).toNat ≤ daysIn 2000 (civilMonth (monthAt n)).toNat ∧
    (n < 365 → (dayAt n).toNat ≤ daysIn 2001 (civilMonth (monthAt n)).toNat) := by
  decide +kernel

/-- The length of a month depends only on whether there is a leap day. -/
theorem daysIn_congr {y z : Nat} (h : isLeap y = isLeap z) (month : Nat) :
    daysIn y month = daysIn z month := by
  rw [daysIn, daysIn, h]

/-! ### Dates -/

theorem daysIn_le (year month : Nat) : daysIn year month ≤ 31 := by
  unfold daysIn
  split
  · split <;> decide
  · split <;> decide

theorem le_of_isValid {d : Date} (h : d.isValid = true) :
    d.year ≤ 9999 ∧ d.month ≤ 12 ∧ d.day ≤ 31 := by
  have hlength := daysIn_le d.year d.month
  simp only [isValid, Bool.and_eq_true, decide_eq_true_eq] at h
  omega

/-- The civil year of a day, given its century, its year and its month. -/
def civilYear (century year month : Int) : Int :=
  year + century * 400 + (if civilMonth month ≤ 2 then 1 else 0)

/-- The date of a day of a year of a century. -/
def ofParts (century year day : Int) : Date :=
  ⟨(civilYear century year (monthAt day)).toNat, (civilMonth (monthAt day)).toNat,
    (dayAt day).toNat⟩

/-- A day of a year that has so many days. -/
structure InYear (year day : Int) : Prop where
  first : 0 ≤ year
  last : year < 400
  low : 0 ≤ day
  high : yearStart year + day < yearStart (year + 1)

/-- The parts of a day that the date is made of. -/
theorem ofDays_eq (days : Int) : ∃ century year day, InYear year day ∧
    days + epoch = century * 146097 + yearStart year + day ∧
    ofDays days = ofParts century year day := by
  have hlow : 0 ≤ (days + epoch) % 146097 := Int.emod_nonneg _ (by decide)
  have hhigh : (days + epoch) % 146097 < 146097 := Int.emod_lt_of_pos _ (by decide)
  obtain ⟨hfirst, hlast, hstart, hend⟩ := yearAt_spec hlow hhigh
  refine ⟨(days + epoch) / 146097, yearAt ((days + epoch) % 146097),
    (days + epoch) % 146097 - yearStart (yearAt ((days + epoch) % 146097)),
    ⟨hfirst, hlast, by omega, by omega⟩, by omega, ?_⟩
  have hday : days + epoch - (days + epoch) / 146097 * 146097 = (days + epoch) % 146097 := by
    omega
  have hyear (year : Int) (h0 : 0 ≤ year) (h1 : year < 400) :
      365 * year + year / 4 - year / 100 = yearStart year := by
    rw [yearStart]
    omega
  simp only [ofDays, hday]
  rw [← yearAt, hyear _ hfirst hlast]
  rfl

/-- A year has at most 366 days, and so many only if it ends with a leap day. -/
theorem InYear.leap {year day : Int} (h : InYear year day) : day ≤ 365 ∧
    (day = 365 → (year + 1) % 4 = 0 ∧ ((year + 1) % 100 ≠ 0 ∨ (year + 1) % 400 = 0)) := by
  have hhigh := h.high
  simp only [yearStart] at hhigh
  omega

section Parts

variable {century year day : Int}

/-- The leap day is in February of a leap year. -/
theorem isLeap_civilYear (h : InYear year day) (hday : day = 365)
    (hyear : 1 ≤ civilYear century year (monthAt day)) :
    isLeap (civilYear century year (monthAt day)).toNat = true := by
  obtain ⟨hfour, hrest⟩ := h.leap.2 hday
  have hmonth : civilYear century year (monthAt day) = year + century * 400 + 1 := by
    rw [hday]
    rfl
  rw [hmonth] at hyear ⊢
  simp only [isLeap, Bool.and_eq_true, Bool.or_eq_true, decide_eq_true_eq]
  omega

theorem isValid_ofParts (h : InYear year day)
    (hfirst : 1 ≤ civilYear century year (monthAt day))
    (hlast : civilYear century year (monthAt day) ≤ 9999) :
    (ofParts century year day).isValid = true := by
  obtain ⟨n, rfl⟩ := Int.eq_ofNat_of_zero_le h.low
  have hn := h.leap.1
  obtain ⟨hm0, hm1, hd, hleap, hcommon⟩ := monthAt_spec n (by omega)
  -- a month of a leap year is as long as that of 2000, another one as that of 2001
  have hlength : (ofParts century year n).day ≤
      daysIn (ofParts century year n).year (ofParts century year n).month := by
    simp only [ofParts]
    cases hyear : isLeap (civilYear century year (monthAt n)).toNat with
    | true => rwa [daysIn_congr (z := 2000) hyear]
    | false =>
      rw [daysIn_congr (z := 2001) hyear]
      refine hcommon (Nat.lt_of_le_of_ne (by omega) fun hday => ?_)
      rw [isLeap_civilYear h (by omega) hfirst] at hyear
      cases hyear
  have hmonth : 1 ≤ civilMonth (monthAt n) ∧ civilMonth (monthAt n) ≤ 12 := by
    rw [civilMonth]
    omega
  have hexists : 1 ≤ (ofParts century year n).year ∧ (ofParts century year n).year ≤ 9999 ∧
      1 ≤ (ofParts century year n).month ∧ (ofParts century year n).month ≤ 12 ∧
      1 ≤ (ofParts century year n).day := by
    simp only [ofParts]
    omega
  simp [isValid, hexists, hlength]

/-- The days of a date whose year and month are counted from March. -/
theorem toDays_eq {d : Date} {century year month : Int} (h0 : 0 ≤ year) (h1 : year < 400)
    (hyear : (if d.month ≤ 2 then (d.year : Int) - 1 else d.year) = year + century * 400)
    (hmonth : ((d.month + 9) % 12 : Nat) = month) :
    toDays d = century * 146097 + yearStart year + (monthStart month + d.day - 1) - epoch := by
  have hcentury : (year + century * 400) / 400 = century := by omega
  have hrest : year + century * 400 - century * 400 = year := by omega
  simp only [toDays]
  rw [hyear, hmonth, hcentury, hrest, yearStart, monthStart]
  omega

theorem toDays_ofParts (h : InYear year day)
    (hfirst : 1 ≤ civilYear century year (monthAt day)) :
    toDays (ofParts century year day) = century * 146097 + yearStart year + day - epoch := by
  obtain ⟨n, rfl⟩ := Int.eq_ofNat_of_zero_le h.low
  have hn := h.leap.1
  obtain ⟨hm0, hm1, hd, -, -⟩ := monthAt_spec n (by omega)
  have hzero := h.first
  have hlast := h.last
  have hmonth : ((((civilMonth (monthAt n)).toNat + 9) % 12 : Nat) : Int) = monthAt n := by
    rw [civilMonth]
    omega
  have hyear : (if (civilMonth (monthAt n)).toNat ≤ 2 then
      ((civilYear century year (monthAt n)).toNat : Int) - 1 else
      (civilYear century year (monthAt n)).toNat) = year + century * 400 := by
    rw [civilYear] at hfirst ⊢
    split at hfirst <;> split <;> omega
  have hday : ((dayAt n).toNat : Int) = n - monthStart (monthAt n) + 1 := by
    rw [dayAt] at hd ⊢
    omega
  rw [toDays_eq hzero hlast hyear hmonth]
  simp only [ofParts, hday]
  omega

end Parts

/-- The days of the years 1 to 9999. -/
def IsCivil (days : Int) : Prop := toDays ⟨1, 1, 1⟩ ≤ days ∧ days ≤ toDays ⟨9999, 12, 31⟩

theorem civilYear_bounds {century year day days : Int} (h : InYear year day)
    (hdays : days + epoch = century * 146097 + yearStart year + day) (hcivil : IsCivil days) :
    1 ≤ civilYear century year (monthAt day) ∧ civilYear century year (monthAt day) ≤ 9999 := by
  have hlow : -719162 ≤ days := hcivil.1
  have hhigh : days ≤ 2932896 := hcivil.2
  have hleap := h.leap.1
  obtain ⟨hfirst, hlast, h0, -⟩ := h
  simp only [epoch, yearStart] at hdays
  simp only [civilYear, civilMonth, monthAt]
  have hcentury : 0 ≤ century ∧ century ≤ 24 := by omega
  omega

/-- **A day** is taken to a date that exists. -/
theorem isValid_ofDays {days : Int} (h : IsCivil days) : (ofDays days).isValid = true := by
  obtain ⟨century, year, day, hin, hdays, hparts⟩ := ofDays_eq days
  obtain ⟨hfirst, hlast⟩ := civilYear_bounds hin hdays h
  rw [hparts]
  exact isValid_ofParts hin hfirst hlast

/-- **A day** is taken to a date that is taken back to it. -/
theorem toDays_ofDays {days : Int} (h : IsCivil days) : toDays (ofDays days) = days := by
  obtain ⟨century, year, day, hin, hdays, hparts⟩ := ofDays_eq days
  rw [hparts, toDays_ofParts hin (civilYear_bounds hin hdays h).1]
  omega

end Date

end DealWatch
