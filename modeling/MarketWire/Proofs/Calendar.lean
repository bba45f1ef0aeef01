import MarketWire.Clock.Instant

namespace MarketWire.Clock

namespace Date

def newYear (year : Int) : Int :=
  365 * year + (year - 1) / 4 - (year - 1) / 100 + (year - 1) / 400 - 719527

def plainDays (day : Nat) : Nat := day - day / 1460 + day / 36524 - day / 146096

def yearOfEra (day : Nat) : Nat := plainDays day / 365

def firstDay (year : Nat) : Nat := 365 * year + year / 4 - year / 100 + year / 400

theorem plainDays_mono {day later : Nat} (order : day ≤ later) (within : later < 146097) :
    plainDays day ≤ plainDays later := by
  simp only [plainDays]
  omega

theorem plainDays_firstDay :
    ∀ year < 400, 365 * year ≤ plainDays (firstDay year) ∧
      plainDays (firstDay (year + 1) - 1) < 365 * (year + 1) := by
  decide +kernel

theorem yearOfEra_lt {day : Nat} (within : day < 146097) : yearOfEra day < 400 := by
  simp only [yearOfEra, plainDays]
  omega

theorem firstDay_le {day : Nat} (within : day < 146097) : firstDay (yearOfEra day) ≤ day := by
  refine Nat.le_of_not_lt fun before => ?_
  cases hy : yearOfEra day with
  | zero => simp [hy, firstDay] at before
  | succ year =>
      have bound := yearOfEra_lt within
      rw [hy] at before bound
      have last := (plainDays_firstDay year (by omega)).2
      have inside : firstDay (year + 1) - 1 < 146097 := by
        simp only [firstDay]
        omega
      have mono := plainDays_mono (Nat.le_sub_one_of_lt before) inside
      rw [yearOfEra] at hy
      omega

theorem lt_firstDay {day : Nat} (within : day < 146097) :
    day < firstDay (yearOfEra day + 1) := by
  have bound := yearOfEra_lt within
  by_cases final : yearOfEra day = 399
  · rw [final]
    exact within
  · refine Nat.lt_of_not_le fun after => ?_
    have first := (plainDays_firstDay (yearOfEra day + 1) (by omega)).1
    have mono := plainDays_mono after within
    have least : plainDays day < 365 * (yearOfEra day + 1) := by
      rw [yearOfEra]
      omega
    omega

theorem year_ofDays (days : Int) {day : Nat} (hday : ((days + 719468) % 146097).toNat = day) :
    (ofDays days).year
      = yearOfEra day + (days + 719468) / 146097 * 400
        + if day < firstDay (yearOfEra day) + 306 then 0 else 1 := by
  have within : day < 146097 := by omega
  have least := firstDay_le within
  have most := lt_firstDay within
  have bound := yearOfEra_lt within
  have same : (day - day / 1460 + day / 36524 - day / 146096) / 365 = yearOfEra day := rfl
  simp only [ofDays, hday, same]
  clear same
  generalize yearOfEra day = year at *
  have first : firstDay year = 365 * year + year / 4 - year / 100 + year / 400 := rfl
  have next : firstDay (year + 1) ≤ firstDay year + 367 := by
    simp only [firstDay]
    omega
  generalize elapsed : day - (365 * year + year / 4 - year / 100) = dayOfYear
  by_cases march : day < firstDay year + 306
  · have months : (5 * dayOfYear + 2) / 153 < 10 := by omega
    rw [if_pos march, if_pos months, if_neg (by omega), Int.add_zero]
  · have months : ¬(5 * dayOfYear + 2) / 153 < 10 := by omega
    rw [if_neg march, if_neg months, if_pos (by omega)]

theorem newYear_eras (year era : Int) :
    newYear (year + era * 400) = newYear year + era * 146097 := by
  have four : (year + era * 400 - 1) / 4 = (year - 1) / 4 + era * 100 := by omega
  have hundred : (year + era * 400 - 1) / 100 = (year - 1) / 100 + era * 4 := by omega
  have all : (year + era * 400 - 1) / 400 = (year - 1) / 400 + era := by omega
  rw [newYear, newYear, four, hundred, all]
  omega

theorem newYear_succ (year : Nat) : newYear (year + 1) = firstDay year + 306 - 719468 := by
  simp only [newYear, firstDay]
  omega

theorem newYear_lt (year : Int) : newYear year + 365 ≤ newYear (year + 1) := by
  simp only [newYear]
  omega

theorem newYear_mono {year later : Int} (order : year ≤ later) :
    newYear year ≤ newYear later := by
  simp only [newYear]
  omega

theorem newYear_bounds (days : Int) :
    newYear (ofDays days).year ≤ days ∧ days < newYear ((ofDays days).year + 1) := by
  generalize hday : ((days + 719468) % 146097).toNat = day
  have within : day < 146097 := by omega
  have least := firstDay_le within
  have most := lt_firstDay within
  rw [year_ofDays days hday]
  generalize yearOfEra day = year at *
  generalize hera : (days + 719468) / 146097 = era
  have whole : days + 719468 = era * 146097 + day := by omega
  have next := newYear_succ year
  by_cases march : day < firstDay year + 306
  · have before := newYear_lt year
    rw [if_pos march, Int.add_zero, Int.add_right_comm, newYear_eras, newYear_eras]
    omega
  · have after := newYear_succ (year + 1)
    rw [Int.natCast_add, Int.natCast_one] at after
    rw [if_neg march, Int.add_right_comm, Int.add_right_comm _ _ 1, newYear_eras, newYear_eras]
    omega

theorem year_lt_iff (days year : Int) : (ofDays days).year < year ↔ days < newYear year := by
  obtain ⟨least, most⟩ := newYear_bounds days
  constructor
  · intro earlier
    exact Int.lt_of_lt_of_le most (newYear_mono earlier)
  · intro before
    refine Int.lt_of_not_ge fun later => ?_
    have := newYear_mono later
    omega

end Date

namespace Instant

theorem year_lt_iff (i : Instant) (year : Int) :
    i.date.year < year ↔ i.nanos < Date.newYear year * 86400 * nanosPerSecond := by
  rw [date, Date.year_lt_iff, seconds, nanosPerSecond]
  omega

theorem le_year_iff (i : Instant) (year : Int) :
    year ≤ i.date.year ↔ Date.newYear year * 86400 * nanosPerSecond ≤ i.nanos := by
  rw [← Int.not_lt, year_lt_iff, Int.not_lt]

def Within (first last : Int) (i : Instant) : Prop := first ≤ i.date.year ∧ i.date.year ≤ last

instance (first last : Int) (i : Instant) : Decidable (i.Within first last) :=
  inferInstanceAs (Decidable (_ ∧ _))

theorem within_iff {first last : Int} {i : Instant} :
    i.Within first last ↔
      Date.newYear first * 86400 * nanosPerSecond ≤ i.nanos ∧
        i.nanos < Date.newYear (last + 1) * 86400 * nanosPerSecond := by
  rw [Within, le_year_iff, ← year_lt_iff, Int.lt_add_one_iff]

theorem inRange_iff {i : Instant} : i.inRange = true ↔ i.Within (-262143) 262142 := by
  have least : Date.newYear (-262143) * 86400 = -8334601228800 := by decide
  have most : Date.newYear (262142 + 1) * 86400 = 8210266876800 := by decide
  rw [within_iff, least, most, inRange, Bool.and_eq_true, decide_eq_true_iff, decide_eq_true_iff]

end Instant

end MarketWire.Clock
