import Accounts.Calendar.DateTime

/-!
# The instant of a date and time

The number of days between 1970-01-01 and a date, and the instant that a date and time stands for.
They undo the way from instants to dates, and the instants that have a date are those of the years 1
to 9999:

    Date.ofDayNumber? n = some d           ->  d.dayNumber = n
    DateTime.ofInstant? none t = some d    ->  d.instant = t
    (∃ d, DateTime.ofInstant? offset t = some d)  <->  calendarStart ≤ t < calendarEnd
-/

namespace Accounts.Calendar

/-! ## Algorithm -/

/-- The number of days from 1970-01-01 to a date.  Years are counted from March. -/
def Date.dayNumber (d : Date) : Int :=
  let year : Int := if d.month ≤ 2 then d.year - 1 else d.year
  let month := if d.month ≤ 2 then d.month + 9 else d.month - 3
  365 * year + year / 4 - year / 100 + year / 400
    + (((153 * month + 2) / 5 + (d.day - 1) : Nat) : Int) - 719468

/-- The microseconds since midnight. -/
def TimeOfDay.micros (t : TimeOfDay) : Int :=
  ((t.hour * 60 + t.minute) * 60 + t.sec) * second + t.micro

/-- The instant of a date and time; without an offset it is taken to be in UTC. -/
def DateTime.instant (d : DateTime) : Instant :=
  d.date.dayNumber * (86400 * second) + d.time.micros
    - ((d.offset.map Offset.minutes).getD 0) * (60 * second)

/-- The start of the year 1. -/
def calendarStart : Int := -719162 * (86400 * second)

/-- The end of the year 9999. -/
def calendarEnd : Int := 2932897 * (86400 * second)

/-! ## Days of an era -/

/-- The days of an era by century, group of four years, year and day.  The last day of a leap year
is the only one of its number, and the last group of a century has one only in the last century. -/
theorem dayOfEra_cases {n : Nat} (h : n < 146097) : ∃ c q k t, c ≤ 3 ∧ q ≤ 24 ∧ k ≤ 3 ∧ t ≤ 365 ∧
    (t = 365 → k = 3 ∧ (q = 24 → c = 3)) ∧ n = 36524 * c + 1461 * q + 365 * k + t := by
  refine ⟨min (n / 36524) 3, (n - 36524 * min (n / 36524) 3) / 1461,
    min ((n - 36524 * min (n / 36524) 3) % 1461 / 365) 3,
    (n - 36524 * min (n / 36524) 3) % 1461 -
      365 * min ((n - 36524 * min (n / 36524) 3) % 1461 / 365) 3, ?_⟩
  generalize hc : min (n / 36524) 3 = c
  have hcentury : 36524 * c ≤ n ∧ (n - 36524 * c < 36524 ∨ c = 3 ∧ n - 36524 * c ≤ 36524) := by
    omega
  generalize hr : n - 36524 * c = r at *
  generalize hs : r % 1461 = s
  generalize hk : min (s / 365) 3 = k
  refine ⟨by omega, by omega, by omega, by omega, ?_, by omega⟩
  intro ht
  constructor <;> omega

/-- The year that is computed from a day of an era is the one of its parts. -/
theorem yearOfEra_eq {c q k t n : Nat} (hc : c ≤ 3) (hq : q ≤ 24) (hk : k ≤ 3) (ht : t ≤ 365)
    (hleap : t = 365 → k = 3 ∧ (q = 24 → c = 3)) (hn : n = 36524 * c + 1461 * q + 365 * k + t) :
    (n - n / 1460 + n / 36524 - n / 146096) / 365 = 100 * c + 4 * q + k := by
  -- the last day of an era counts in all three corrections
  by_cases hlast : n = 146096
  · omega
  have hfours : n / 1460 = 25 * c + q + (24 * c + q + 365 * k + t) / 1460 := by omega
  have hcenturies : n / 36524 = c := by omega
  have heras : n / 146096 = 0 := by omega
  rw [hfours, hcenturies, heras]
  by_cases hearly : (24 * c + q + 365 * k + t) / 1460 = 0
  · rw [hearly]
    omega
  · have hlate : (24 * c + q + 365 * k + t) / 1460 = 1 := by omega
    rw [hlate]
    omega

/-! ## Days of a year -/

/-- The date of a day of a year, where both are counted from March. -/
def Civil.ofMarch (year : Int) (day : Nat) : Civil :=
  let m := (5 * day + 2) / 153
  let month := if m < 10 then m + 3 else m - 9
  ⟨year + (if month ≤ 2 then 1 else 0), month, day - (153 * m + 2) / 5 + 1⟩

/-- A day number has a year, of an era of 400 years, and a day of that year. -/
theorem Civil.ofDayNumber_cases (n : Int) : ∃ (era : Int) (year day : Nat), year < 400 ∧
    day ≤ 365 ∧ (day = 365 → isLeap (year + 1) = true) ∧
    n = era * 146097 + (365 * year + year / 4 - year / 100) + day - 719468 ∧
    Civil.ofDayNumber n = Civil.ofMarch (year + era * 400) day := by
  obtain ⟨era, hera⟩ : ∃ era, (n + 719468).fdiv 146097 = era := ⟨_, rfl⟩
  have hrange : 0 ≤ n + 719468 - era * 146097 ∧ n + 719468 - era * 146097 < 146097 := by
    rw [Int.fdiv_eq_ediv_of_nonneg _ (by decide)] at hera
    omega
  obtain ⟨dayOfEra, hday⟩ := Int.eq_ofNat_of_zero_le hrange.1
  obtain ⟨c, q, k, t, hc, hq, hk, ht, hleap, hn⟩ := dayOfEra_cases (n := dayOfEra) (by omega)
  have hfours : (100 * c + 4 * q + k) / 4 = 25 * c + q := by omega
  have hcenturies : (100 * c + 4 * q + k) / 100 = c := by omega
  have hdays : dayOfEra - (365 * (100 * c + 4 * q + k) + (100 * c + 4 * q + k) / 4
      - (100 * c + 4 * q + k) / 100) = t := by omega
  have hsum : n = era * 146097 + (365 * ((100 * c + 4 * q + k : Nat) : Int)
      + ((100 * c + 4 * q + k : Nat) : Int) / 4 - ((100 * c + 4 * q + k : Nat) : Int) / 100) + t
      - 719468 := by omega
  refine ⟨era, 100 * c + 4 * q + k, t, by omega, ht, fun hlast => ?_, hsum, ?_⟩
  · obtain ⟨hk3, hcentury⟩ := hleap hlast
    have hfour : (100 * c + 4 * q + k + 1) % 4 = 0 ∧ ((100 * c + 4 * q + k + 1) % 100 ≠ 0 ∨
        (100 * c + 4 * q + k + 1) % 400 = 0) := by omega
    unfold isLeap
    simpa using hfour
  · unfold Civil.ofDayNumber
    dsimp only
    rw [hera, hday, Int.toNat_natCast, yearOfEra_eq hc hq hk ht hleap hn, hdays]
    rfl

/-- The months of a year from March on have their days; the last one ends with a leap day. -/
theorem Civil.ofMarch_fits : ∀ day < 366, let c := Civil.ofMarch 0 day
    (1 ≤ c.month ∧ c.month ≤ 12) ∧ 1 ≤ c.day ∧ (c.month = 2 ∧ (c.day ≤ 28 ∨ day = 365 ∧ c.day = 29) ∨
      c.month ≠ 2 ∧ c.day ≤ daysIn 1 c.month) := by
  decide +kernel

theorem daysIn_of_ne {year month : Nat} (h : month ≠ 2) : daysIn year month = daysIn 1 month := by
  unfold daysIn
  rw [if_neg h, if_neg h]

/-! ## Dates -/

theorem Date.of?_eq_some {year month day : Nat} {d : Date} (h : Date.of? year month day = some d) :
    d.year = year ∧ d.month = month ∧ d.day = day := by
  unfold Date.of? at h
  split at h
  · split at h
    · split at h
      · cases h
        exact ⟨rfl, rfl, rfl⟩
      · cases h
    · cases h
  · cases h

/-- The date of a day number has that number. -/
theorem Date.dayNumber_of_ofDayNumber? {n : Int} {d : Date} (h : Date.ofDayNumber? n = some d) :
    d.dayNumber = n := by
  obtain ⟨era, year, day, hyear, hday, -, hn, hcivil⟩ := Civil.ofDayNumber_cases n
  unfold Date.ofDayNumber? at h
  rw [hcivil] at h
  obtain ⟨hy, hm, hd⟩ := Date.of?_eq_some h
  have hpositive := d.year_range.1
  unfold Civil.ofMarch at hy hm hd
  dsimp only at hy hm hd
  have hmonth : (5 * day + 2) / 153 ≤ 11 := by omega
  have hstart : (153 * ((5 * day + 2) / 153) + 2) / 5 ≤ day := by omega
  generalize (5 * day + 2) / 153 = m at hy hm hd hmonth hstart
  unfold Date.dayNumber
  dsimp only
  rw [hm, hd]
  by_cases hspring : m < 10
  · have hlate : ¬ m + 3 ≤ 2 := by omega
    rw [if_pos hspring, if_neg hlate] at hy
    rw [if_pos hspring, if_neg hlate, if_neg hlate, show m + 3 - 3 = m by omega]
    omega
  · have hearly : m - 9 ≤ 2 := by omega
    rw [if_neg hspring, if_pos hearly] at hy
    rw [if_neg hspring, if_pos hearly, if_pos hearly, show m - 9 + 9 = m by omega]
    omega

/-- A day of a year that is counted from March has a date when the year lies in the calendar. -/
theorem Date.exists_of?_ofMarch {year : Int} {day : Nat} (hday : day ≤ 365)
    (hleap : day = 365 → 1 ≤ (Civil.ofMarch year day).year →
      isLeap (Civil.ofMarch year day).year.toNat = true) :
    (∃ d, Date.of? (Civil.ofMarch year day).year.toNat (Civil.ofMarch year day).month
        (Civil.ofMarch year day).day = some d) ↔
      1 ≤ (Civil.ofMarch year day).year ∧ (Civil.ofMarch year day).year ≤ 9999 := by
  obtain ⟨hmonths, hfirst, hdays⟩ := Civil.ofMarch_fits day (by omega)
  have hmonth : (Civil.ofMarch year day).month = (Civil.ofMarch 0 day).month := rfl
  have hdate : (Civil.ofMarch year day).day = (Civil.ofMarch 0 day).day := rfl
  rw [hmonth, hdate]
  constructor
  · rintro ⟨d, hd⟩
    obtain ⟨hyear, -, -⟩ := Date.of?_eq_some hd
    have hrange := d.year_range
    omega
  · rintro ⟨hlow, hhigh⟩
    have hlast : (Civil.ofMarch 0 day).day ≤
        daysIn (Civil.ofMarch year day).year.toNat (Civil.ofMarch 0 day).month := by
      rcases hdays with ⟨htwo, hshort | ⟨rfl, hlong⟩⟩ | ⟨hother, hshort⟩
      · rw [htwo, daysIn, if_pos rfl]
        split <;> omega
      · rw [htwo, daysIn, if_pos rfl, if_pos (hleap rfl hlow)]
        omega
      · rw [daysIn_of_ne hother]
        exact hshort
    unfold Date.of?
    rw [dif_pos (by omega), dif_pos hmonths, dif_pos ⟨hfirst, hlast⟩]
    exact ⟨_, rfl⟩

/-- Years that lie whole eras apart are leap years alike. -/
theorem isLeap_add_era {year other : Nat} {era : Int} (h : (other : Int) = year + era * 400) :
    isLeap other = isLeap year := by
  unfold isLeap
  rw [show other % 4 = year % 4 by omega, show other % 100 = year % 100 by omega,
    show other % 400 = year % 400 by omega]

/-- The days with a date are those of the years 1 to 9999. -/
theorem Date.exists_ofDayNumber? {n : Int} :
    (∃ d, Date.ofDayNumber? n = some d) ↔ -719162 ≤ n ∧ n < 2932897 := by
  obtain ⟨era, year, day, hyear, hday, hleap, hn, hcivil⟩ := Civil.ofDayNumber_cases n
  -- from the day 306 on it is January of the next year
  have hyears : (Civil.ofMarch (year + era * 400) day).year =
      year + era * 400 + (if 306 ≤ day then 1 else 0) := by
    have hmarch : (Civil.ofMarch 0 day).month ≤ 2 ↔ 306 ≤ day := by
      unfold Civil.ofMarch
      dsimp only
      split <;> omega
    simp only [← hmarch]
    rfl
  unfold Date.ofDayNumber?
  rw [hcivil]
  refine (Date.exists_of?_ofMarch hday ?_).trans ?_
  · intro hlast hpositive
    rw [hyears, if_pos (by omega)] at hpositive ⊢
    have hshift : ((year + era * 400 + 1 : Int).toNat : Int) = (year + 1 : Nat) + era * 400 := by
      omega
    rw [isLeap_add_era hshift]
    exact hleap hlast
  · rw [hyears]
    constructor
    · rintro ⟨hlow, hhigh⟩
      split at hlow <;> omega
    · rintro ⟨hlow, hhigh⟩
      split <;> omega

/-! ## Dates with a time of day -/

theorem TimeOfDay.micros_ofInstant (t : Int) :
    (TimeOfDay.ofInstant t).micros = t.fmod (86400 * second) := by
  have hrange : 0 ≤ t.fmod (86400 * second) ∧ t.fmod (86400 * second) < 86400 * second := by
    rw [Int.fmod_eq_emod_of_nonneg _ (by decide)]
    unfold second
    omega
  obtain ⟨n, hn⟩ := Int.eq_ofNat_of_zero_le hrange.1
  unfold TimeOfDay.micros TimeOfDay.ofInstant
  dsimp only
  rw [hn] at hrange ⊢
  rw [Int.toNat_natCast]
  unfold second at hrange ⊢
  omega

/-- The date and time of an instant stands for it, without an offset or with that of UTC. -/
theorem DateTime.instant_of_ofInstant? {offset : Option Offset} {t : Int} {d : DateTime}
    (hoffset : (offset.map Offset.minutes).getD 0 = 0) (h : DateTime.ofInstant? offset t = some d) :
    d.instant = t ∧ d.offset = offset := by
  obtain ⟨date, hdate, rfl⟩ := Option.map_eq_some_iff.1 h
  have hsplit : t / (86400 * second) * (86400 * second) + t % (86400 * second)
      - 0 * (60 * second) = t := by
    unfold second
    omega
  refine ⟨?_, rfl⟩
  unfold DateTime.instant
  dsimp only
  rw [Date.dayNumber_of_ofDayNumber? hdate, TimeOfDay.micros_ofInstant, hoffset,
    Int.fdiv_eq_ediv_of_nonneg _ (by decide), Int.fmod_eq_emod_of_nonneg _ (by decide)]
  exact hsplit

/-- The instants with a date are those from the year 1 to the year 9999. -/
theorem DateTime.exists_ofInstant? {offset : Option Offset} {t : Int} :
    (∃ d, DateTime.ofInstant? offset t = some d) ↔ calendarStart ≤ t ∧ t < calendarEnd := by
  have hdays : (-719162 ≤ t.fdiv (86400 * second) ∧ t.fdiv (86400 * second) < 2932897) ↔
      calendarStart ≤ t ∧ t < calendarEnd := by
    rw [Int.fdiv_eq_ediv_of_nonneg _ (by decide)]
    unfold calendarStart calendarEnd second
    omega
  rw [← hdays, ← Date.exists_ofDayNumber?]
  constructor
  · rintro ⟨d, hd⟩
    obtain ⟨date, hdate, -⟩ := Option.map_eq_some_iff.1 hd
    exact ⟨date, hdate⟩
  · rintro ⟨date, hdate⟩
    exact ⟨_, Option.map_eq_some_iff.2 ⟨date, hdate, rfl⟩⟩

end Accounts.Calendar
