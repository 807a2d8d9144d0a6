import DealWatch.Calendar.Reader
import DealWatch.Proofs.Calendar.Date
import DealWatch.Proofs.Number.Digits

/-!
# Reading back points in time

* `Timestamp.dateAt?_isoText` and `Timestamp.timeAndZone?_clock` read the parts of a text back;
* `Timestamp.ofText?_compactText` concludes that a point in universal time that can be shown is read
  back to the microsecond.

A text is read from left to right, so each part is read back with whatever follows it. The only part
that may be absent is the fraction of the seconds: it is left out if it is zero and has six digits
otherwise, and these are two cases of `Timestamp.secondsAt?_padded`.
-/

namespace DealWatch

namespace Timestamp

/-! ### Digits -/

theorem asciiDigit?_digitChar : ∀ n < 10, asciiDigit? (Nat.digitChar n) = some n := by decide

/-- A number of two digits is read back. -/
theorem twoDigits?_digitChar {n : Nat} (h : n < 100) :
    twoDigits? (Nat.digitChar (n / 10)) (Nat.digitChar (n % 10)) = some n := by
  rw [twoDigits?, asciiDigit?_digitChar _ (by omega), asciiDigit?_digitChar _ (by omega)]
  exact congrArg some (Nat.div_add_mod n 10)

/-! ### Dates -/

/-- A date is read back, whatever comes after it. -/
theorem dateAt?_isoText {d : Date} (h : d.isValid = true) (rest : List Char) :
    dateAt? (d.isoText.toList ++ rest) = some (d, rest) := by
  obtain ⟨hyear, hmonth, hday⟩ := Date.le_of_isValid h
  have hchars : d.isoText.toList = paddedChars 2 (d.year / 100) ++ paddedChars 2 (d.year % 100) ++
      '-' :: paddedChars 2 d.month ++ '-' :: paddedChars 2 d.day := by
    simp only [Date.isoText, String.toList_append, toList_padded,
      paddedChars_four (by omega : d.year < 10000)]
    simp
  rw [hchars, paddedChars_two (by omega), paddedChars_two (by omega), paddedChars_two (by omega),
    paddedChars_two (by omega)]
  have hdate : (⟨100 * (d.year / 100) + d.year % 100, d.month, d.day⟩ : Date) = d := by
    rw [Nat.div_add_mod]
  have hhigh := twoDigits?_digitChar (by omega : d.year / 100 < 100)
  have hlow := twoDigits?_digitChar (by omega : d.year % 100 < 100)
  have hmonth' := twoDigits?_digitChar (by omega : d.month < 100)
  have hday' := twoDigits?_digitChar (by omega : d.day < 100)
  simp only [List.cons_append, List.nil_append, dateAt?, hhigh, hlow, hmonth', hday', bind,
    Option.bind, hdate, h, if_true]

/-! ### Times of the day -/

/-- A part of a second is read back to the microsecond. -/
theorem microsOf_padded {micro : Nat} (h : micro < 1000000) :
    microsOf (paddedChars 6 micro) = micro := by
  have hlength : (paddedChars 6 micro).length = 6 := length_paddedChars (by decide) h
  have htake : (paddedChars 6 micro).take 6 = paddedChars 6 micro :=
    List.take_of_length_le (Nat.le_of_eq hlength)
  simp only [microsOf, htake, hlength, asciiNumber_padded]
  exact Nat.mul_one micro

/-- The part of a second as it is written; nothing if it is zero. -/
def fractionChars (micro : Nat) : List Char := if micro = 0 then [] else '.' :: paddedChars 6 micro

/-- The seconds and the part of a second are read back, before the sign of universal time. -/
theorem secondsAt?_padded {second micro : Nat} (hs : second < 60) (hm : micro < 1000000) :
    secondsAt? (':' :: paddedChars 2 second ++ fractionChars micro ++ ['Z']) =
      some (second, micro, ['Z']) := by
  have hsecond := twoDigits?_digitChar (by omega : second < 100)
  rw [paddedChars_two (by omega)]
  -- what follows the seconds is the end of the text or a point with six digits
  rw [fractionChars]
  split
  · rename_i hzero
    simp only [List.cons_append, List.nil_append, secondsAt?, hsecond, bind, Option.bind,
      if_neg (by omega : ¬ 59 < second), hzero]
    rfl
  · have hdigits : ∀ c ∈ paddedChars 6 micro, isAsciiDigit c = true := by
      intro c hc
      obtain ⟨hlow, hhigh⟩ := isDigit_of_mem_paddedChars hc
      simp only [isAsciiDigit, hlow, hhigh, decide_true, Bool.and_self]
    have htake : (paddedChars 6 micro ++ ['Z']).takeWhile isAsciiDigit = paddedChars 6 micro := by
      rw [List.takeWhile_append_of_pos hdigits]
      exact List.append_nil _
    have hne : paddedChars 6 micro ≠ [] := by
      intro hnil
      have hlength := length_paddedChars (by decide : 0 < 6) hm
      rw [hnil] at hlength
      cases hlength
    simp only [List.cons_append, List.nil_append, secondsAt?, hsecond, bind, Option.bind,
      if_neg (by omega : ¬ 59 < second), decide_true, Bool.true_or, if_true, htake]
    rw [microsOf_padded hm, List.drop_left]

/-- A second and a part of it, as they are written in a day. -/
def clockChars (second micro : Nat) : List Char :=
  paddedChars 2 (second / 3600) ++ ':' :: paddedChars 2 (second / 60 % 60) ++
    (':' :: paddedChars 2 (second % 60) ++ fractionChars micro ++ ['Z'])

/-- A time of the day in universal time is read back. -/
theorem timeAndZone?_clock {second micro : Nat} (hs : second < 86400) (hm : micro < 1000000) :
    timeAndZone? (clockChars second micro) =
      some ((second : Int) * microsPerSecond + micro, some 0) := by
  have hhour := twoDigits?_digitChar (by omega : second / 3600 < 100)
  have hminute := twoDigits?_digitChar (by omega : second / 60 % 60 < 100)
  have hrest := secondsAt?_padded (by omega : second % 60 < 60) hm
  have hsecond : second / 3600 * 3600 + second / 60 % 60 * 60 + second % 60 = second := by omega
  rw [clockChars, paddedChars_two (by omega : second / 3600 < 100),
    paddedChars_two (by omega : second / 60 % 60 < 100)]
  have hearly : ¬ (decide (23 < second / 3600) || decide (59 < second / 60 % 60)) = true := by
    simp only [Bool.or_eq_true, decide_eq_true_eq]
    omega
  simp only [List.cons_append, List.nil_append] at hrest ⊢
  simp only [timeAndZone?, hhour, hminute, bind, Option.bind, hrest, hsecond, zone?]
  rw [if_neg hearly]
  rfl

/-! ### Points in time -/

theorem toList_compactText (t : Timestamp) (h : t.offset = some 0) : t.compactText.toList =
    t.date.isoText.toList ++
      'T' :: clockChars (t.microOfDay / 1000000) (t.microOfDay % 1000000) := by
  have hfraction : t.fractionText.toList = fractionChars (t.microOfDay % 1000000) := by
    simp only [fractionText, fractionChars]
    split
    · rfl
    · rw [String.toList_append, toList_padded]
      rfl
  simp only [compactText, h, textWith, clockText, String.toList_append, hfraction, toList_padded,
    clockChars]
  simp

theorem isCivil_of_inRange {micros : Int} (h : inRange micros = true) :
    Date.IsCivil (micros / microsPerDay) := by
  rw [inRange, Bool.and_eq_true, decide_eq_true_eq, decide_eq_true_eq] at h
  have hday : 0 < microsPerDay := by decide
  refine ⟨Int.le_ediv_of_mul_le hday h.1, Int.lt_add_one_iff.1 ?_⟩
  exact Int.ediv_lt_of_lt_mul hday h.2

/-- **A point in universal time** that can be shown is read back from its text. -/
theorem ofText?_compactText {micros : Int} (h : inRange micros = true) :
    ofText? (utc micros).compactText = some (utc micros) := by
  have hcivil := isCivil_of_inRange h
  have hdate : (utc micros).date = Date.ofDays (micros / microsPerDay) := rfl
  -- the microseconds of the day, in two parts
  have hday : ((utc micros).microOfDay : Int) = micros % microsPerDay :=
    Int.toNat_of_nonneg (Int.emod_nonneg _ (by decide))
  have hlast : micros % microsPerDay < microsPerDay := Int.emod_lt_of_pos _ (by decide)
  have hlimit : microsPerDay = 86400000000 := rfl
  have hclock := timeAndZone?_clock
    (by omega : (utc micros).microOfDay / 1000000 < 86400)
    (by omega : (utc micros).microOfDay % 1000000 < 1000000)
  have hmicros : micros / microsPerDay * microsPerDay +
      (((utc micros).microOfDay / 1000000 : Nat) * microsPerSecond +
        ((utc micros).microOfDay % 1000000 : Nat)) = micros := by
    have hsecond : microsPerSecond = 1000000 := rfl
    rw [hlimit] at hday ⊢
    rw [hsecond]
    omega
  have hjoins : joinsTime 'T' = true := rfl
  rw [ofText?, toList_compactText _ rfl, dateAt?_isoText (hdate ▸ Date.isValid_ofDays hcivil)]
  simp only [hjoins, if_true, hclock, Option.map_some, hdate, Date.toDays_ofDays hcivil, hmicros]
  rfl

end Timestamp

end DealWatch
