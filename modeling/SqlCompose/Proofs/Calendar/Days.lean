import Mathlib.Data.Int.Init
import Mathlib.Data.Nat.Init
import Mathlib.Logic.Function.Iterate
import SqlCompose.Calendar

/-! Days of the calendar in a row. The day after a day has the next number, within a month as well
as at the end of a month or a year. So the number of a day counts the calendar days from the first
of January 1970 to it, or from it to then, and days are in the order of their numbers. -/

namespace SqlCompose

/-! ### Steps in both directions -/

/-- `n` steps lead from `a` to `b`. If `n` is negative, as many lead from `b` to `a`. -/
def Leads {α : Type} (step : α → α) (n : Int) (a b : α) : Prop :=
  step^[n.toNat] a = step^[(-n).toNat] b

/-- Every step between valid states adds one to a count that tells them apart. -/
structure Counts {α : Type} (step : α → α) (Valid : α → Prop) (count : α → Int) : Prop where
  valid_step : ∀ a, Valid a → Valid (step a)
  count_step : ∀ a, Valid a → count (step a) = count a + 1
  eq_of_count : ∀ a b, Valid a → Valid b → count a = count b → a = b

namespace Counts

variable {α : Type} {step : α → α} {Valid : α → Prop} {count : α → Int}

theorem iterate (h : Counts step Valid count) {a : α} (ha : Valid a) (n : Nat) :
    Valid (step^[n] a) ∧ count (step^[n] a) = count a + n := by
  induction n with
  | zero => exact ⟨ha, by simp⟩
  | succ n ih =>
    rw [Function.iterate_succ_apply']
    refine ⟨h.valid_step _ ih.1, ?_⟩
    rw [h.count_step _ ih.1, ih.2]
    omega

theorem leads_iff (h : Counts step Valid count) {a b : α} (ha : Valid a) (hb : Valid b) (n : Int) :
    Leads step n a b ↔ count b = count a + n := by
  obtain ⟨hva, hca⟩ := h.iterate ha n.toNat
  obtain ⟨hvb, hcb⟩ := h.iterate hb (-n).toNat
  constructor
  · intro hleads
    have := congrArg count hleads
    omega
  · intro hcount
    exact h.eq_of_count _ _ hva hvb (by omega)

end Counts

/-! ### Years -/

def daysInYear (year : Int) : Nat :=
  if isLeapYear year then 366 else 365

theorem isLeapYear_iff {year : Int} :
    isLeapYear year = true ↔ year % 4 = 0 ∧ (year % 100 ≠ 0 ∨ year % 400 = 0) := by
  simp [isLeapYear]

/-- The rule for leap years is the one by which the days before a year are counted. -/
theorem daysBeforeYear_succ (year : Int) :
    daysBeforeYear (year + 1) = daysBeforeYear year + daysInYear year := by
  simp only [daysBeforeYear, daysInYear]
  split
  · next hleap =>
    rw [isLeapYear_iff] at hleap
    omega
  · next hleap =>
    rw [isLeapYear_iff] at hleap
    omega

theorem daysBeforeYear_mono {y z : Int} (h : y ≤ z) : daysBeforeYear y ≤ daysBeforeYear z := by
  simp only [daysBeforeYear]
  omega

/-! ### Months -/

theorem daysInMonth_pos (year : Int) (month : Nat) : 0 < daysInMonth year month := by
  unfold daysInMonth
  split
  · split <;> decide
  all_goals decide

@[simp] theorem daysBeforeMonth_one (year : Int) : daysBeforeMonth year 1 = 0 := rfl

theorem daysBeforeMonth_succ (year : Int) {month : Nat} (h : 1 ≤ month) :
    daysBeforeMonth year (month + 1) = daysBeforeMonth year month + daysInMonth year month := by
  obtain ⟨k, rfl⟩ := Nat.exists_eq_add_of_le' h
  simp only [daysBeforeMonth, Nat.add_sub_cancel, List.range_succ, List.foldl_append,
    List.foldl_cons, List.foldl_nil]

/-- A later month begins after all days of an earlier one. -/
theorem daysBeforeMonth_add_le (year : Int) {month later : Nat} (h : 1 ≤ month)
    (hlater : month < later) :
    daysBeforeMonth year month + daysInMonth year month ≤ daysBeforeMonth year later := by
  induction later, hlater using Nat.le_induction with
  | base => exact Nat.le_of_eq (daysBeforeMonth_succ year h).symm
  | succ later hle ih =>
    rw [daysBeforeMonth_succ year (by omega)]
    omega

/-- After twelve months the year is over. -/
theorem daysBeforeMonth_thirteen (year : Int) : daysBeforeMonth year 13 = daysInYear year := by
  have hmonths : daysBeforeMonth year 13 = 31 + daysInMonth year 2 + 306 := rfl
  have hfebruary : daysInMonth year 2 = if isLeapYear year then 29 else 28 := rfl
  rw [hmonths, hfebruary, daysInYear]
  split <;> rfl

namespace Date

/-! ### The day after a day -/

/-- The next day is in the same month, or the first of the next month or year. -/
theorem next_cases {d : Date} (h : d.Valid) :
    d.day < daysInMonth d.year d.month ∧ d.next = ⟨d.year, d.month, d.day + 1⟩ ∨
    d.day = daysInMonth d.year d.month ∧ d.month < 12 ∧ d.next = ⟨d.year, d.month + 1, 1⟩ ∨
    d.day = daysInMonth d.year 12 ∧ d.month = 12 ∧ d.next = ⟨d.year + 1, 1, 1⟩ := by
  obtain ⟨hm, hm', hd, hd'⟩ := h
  by_cases hday : d.day < daysInMonth d.year d.month
  · exact .inl ⟨hday, if_pos hday⟩
  · have hlast : d.day = daysInMonth d.year d.month := by omega
    rw [next, if_neg hday]
    by_cases hmonth : d.month < 12
    · exact .inr (.inl ⟨hlast, hmonth, if_pos hmonth⟩)
    · have hdecember : d.month = 12 := by omega
      exact .inr (.inr ⟨hdecember ▸ hlast, hdecember, if_neg hmonth⟩)

theorem Valid.next {d : Date} (h : d.Valid) : d.next.Valid := by
  have ⟨hm, hm', _, _⟩ := h
  rcases next_cases h with ⟨hday, hnext⟩ | ⟨-, hmonth, hnext⟩ | ⟨-, -, hnext⟩ <;> rw [hnext]
  · exact ⟨hm, hm', by simp, hday⟩
  · exact ⟨by simp, hmonth, Nat.le_refl 1, daysInMonth_pos ..⟩
  · exact ⟨Nat.le_refl 1, by simp, Nat.le_refl 1, daysInMonth_pos ..⟩

theorem dayNumber_next {d : Date} (h : d.Valid) : d.next.dayNumber = d.dayNumber + 1 := by
  rcases next_cases h with ⟨hday, hnext⟩ | ⟨hlast, -, hnext⟩ | ⟨hlast, hdecember, hnext⟩ <;>
    rw [hnext] <;> simp only [dayNumber]
  · omega
  · rw [daysBeforeMonth_succ d.year h.1]
    omega
  · have hover : daysBeforeMonth d.year 13 = daysBeforeMonth d.year 12 + daysInMonth d.year 12 :=
      daysBeforeMonth_succ d.year (by decide)
    rw [daysBeforeMonth_thirteen] at hover
    rw [daysBeforeYear_succ, daysBeforeMonth_one, hdecember]
    omega

/-! ### Order -/

/-- Days are compared by their years, then by their months. -/
def Before (d e : Date) : Prop :=
  d.year < e.year ∨
    d.year = e.year ∧ (d.month < e.month ∨ d.month = e.month ∧ d.day < e.day)

theorem before_trichotomy (d e : Date) : d.Before e ∨ d = e ∨ e.Before d := by
  obtain ⟨y, m, k⟩ := d
  obtain ⟨y', m', k'⟩ := e
  simp only [Before, mk.injEq]
  omega

/-- The days of a year are counted after its beginning and before that of the next year. -/
theorem dayNumber_bounds {d : Date} (h : d.Valid) :
    daysBeforeYear d.year ≤ d.dayNumber + daysBeforeYear 1970 ∧
      d.dayNumber + daysBeforeYear 1970 < daysBeforeYear (d.year + 1) := by
  obtain ⟨hm, hm', hd, hd'⟩ := h
  have hover := daysBeforeMonth_add_le d.year hm (Nat.lt_succ_of_le hm')
  rw [daysBeforeMonth_thirteen] at hover
  rw [daysBeforeYear_succ]
  simp only [dayNumber]
  omega

theorem dayNumber_lt {d e : Date} (hd : d.Valid) (he : e.Valid) (h : d.Before e) :
    d.dayNumber < e.dayNumber := by
  rcases h with hyear | ⟨hyear, hmonth | ⟨hmonth, hday⟩⟩
  · have hnew := daysBeforeYear_mono hyear
    have hd := dayNumber_bounds hd
    have he := dayNumber_bounds he
    omega
  · have hover := daysBeforeMonth_add_le d.year hd.1 hmonth
    obtain ⟨-, -, -, hlast⟩ := hd
    obtain ⟨-, -, hfirst, -⟩ := he
    simp only [dayNumber, ← hyear]
    omega
  · simp only [dayNumber, ← hyear, ← hmonth]
    omega

theorem eq_of_dayNumber {d e : Date} (hd : d.Valid) (he : e.Valid)
    (h : d.dayNumber = e.dayNumber) : d = e := by
  rcases before_trichotomy d e with hlt | heq | hgt
  · exact absurd h (Int.ne_of_lt (dayNumber_lt hd he hlt))
  · exact heq
  · exact absurd h.symm (Int.ne_of_lt (dayNumber_lt he hd hgt))

/-- The number of a day counts the days up to it on the calendar. -/
theorem counts : Counts Date.next Date.Valid Date.dayNumber where
  valid_step _ := Valid.next
  count_step _ := dayNumber_next
  eq_of_count _ _ := eq_of_dayNumber

theorem leads_dayNumber {d : Date} (h : d.Valid) :
    Leads Date.next d.dayNumber ⟨1970, 1, 1⟩ d :=
  (counts.leads_iff (by decide) h _).mpr (Int.zero_add _).symm

/-! ### The day before a day -/

theorem exists_previous {d : Date} (h : d.Valid) : ∃ c : Date, c.Valid ∧ c.next = d := by
  obtain ⟨y, m, k⟩ := d
  obtain ⟨hm, hm', hd, hd'⟩ := h
  simp only at hm hm' hd hd'
  by_cases hday : 1 < k
  · obtain ⟨j, rfl⟩ := Nat.exists_eq_add_of_le' hd
    exact ⟨⟨y, m, j⟩, ⟨hm, hm', Nat.lt_of_succ_lt_succ hday, Nat.le_of_succ_le hd'⟩, if_pos hd'⟩
  · obtain rfl : k = 1 := by omega
    by_cases hmonth : 1 < m
    · -- the last day of the month before
      obtain ⟨l, rfl⟩ := Nat.exists_eq_add_of_le' hm
      exact ⟨⟨y, l, daysInMonth y l⟩, ⟨Nat.lt_of_succ_lt_succ hmonth, Nat.le_of_succ_le hm',
        daysInMonth_pos .., Nat.le_refl _⟩,
        (if_neg (Nat.lt_irrefl _)).trans (if_pos hm')⟩
    · -- the last day of the year before
      obtain rfl : m = 1 := by omega
      exact ⟨⟨y - 1, 12, 31⟩, ⟨by simp, by simp, by simp, Nat.le_refl 31⟩,
        by simp [next, daysInMonth]⟩

/-- Every number is that of a day. -/
theorem exists_dayNumber (n : Int) : ∃ d : Date, d.Valid ∧ d.dayNumber = n := by
  induction n using Int.induction_on with
  | zero => exact ⟨⟨1970, 1, 1⟩, by decide, rfl⟩
  | succ n ih =>
    obtain ⟨d, hd, hn⟩ := ih
    exact ⟨d.next, hd.next, by rw [dayNumber_next hd, hn]⟩
  | pred n ih =>
    obtain ⟨d, hd, hn⟩ := ih
    obtain ⟨c, hc, rfl⟩ := exists_previous hd
    rw [dayNumber_next hc] at hn
    exact ⟨c, hc, by omega⟩

end Date

end SqlCompose
