import SqlCompose.Proofs.Calendar.Clocks
import SqlCompose.Scalar

/-! Stored dates and times. They are all on one line: a day is stored as its midnight at longitude
zero, a local date and time as what the clock there shows at the same moment, and each as the
milliseconds since the beginning of 1970, rounded down also before then. -/

namespace SqlCompose

/-- The years of which every millisecond has a count of 64 bits. Dates in use are far from their
ends: the first is in the year -262143 and the last in the year 262142. -/
def Date.InRange (d : Date) : Prop :=
  -292275054 ≤ d.year ∧ d.year ≤ 292278993

instance (d : Date) : Decidable d.InRange := by
  unfold Date.InRange
  infer_instance

example : (⟨-262143, 1, 1⟩ : Date).InRange ∧ (⟨262142, 12, 31⟩ : Date).InRange := by decide

namespace Scalar

/-- A scalar that is stored as an integer. -/
def IsStoredAs (s : Scalar) (n : Int) : Prop :=
  ∃ k : Int64, s.toValue = .ok (.integer k) ∧ k.toInt = n

/-- The moments of scalars, as the clock at longitude zero shows them. A day is its midnight. -/
inductive IsAt : Scalar → DateTime → Prop
  | date (d : Date) : IsAt (.date d) ⟨d, ⟨0, 0, 0, 0⟩⟩
  | dateTime (t : DateTime) : IsAt (.dateTime t) t
  | zoned {z : ZonedDateTime} {u : DateTime} (hz : z.localTime.Valid) (h : z.IsAt u) :
      IsAt (.zoned z) u

end Scalar

/-! ### Range -/

/-- In range no day begins or ends beyond 64 bits. -/
theorem Date.InRange.dayNumber_bounds {d : Date} (h : d.InRange) (hd : d.Valid) :
    Int64.minValue.toInt ≤ d.dayNumber * 86400000 ∧
      (d.dayNumber + 1) * 86400000 ≤ Int64.maxValue.toInt := by
  have hyear := Date.dayNumber_bounds hd
  have hfirst : daysBeforeYear (-292275054) ≤ daysBeforeYear d.year := daysBeforeYear_mono h.1
  have hlast : daysBeforeYear (d.year + 1) ≤ daysBeforeYear 292278994 :=
    daysBeforeYear_mono (Int.add_le_add_right h.2 1)
  rw [show daysBeforeYear (-292275054) = -106751271776 from rfl] at hfirst
  rw [show daysBeforeYear 292278994 = 106752710101 from rfl] at hlast
  rw [show daysBeforeYear 1970 = 719162 from rfl] at hyear
  rw [show Int64.minValue.toInt = -9223372036854775808 from rfl,
    show Int64.maxValue.toInt = 9223372036854775807 from rfl]
  omega

theorem DateTime.Valid.epochMillis_bounds {t : DateTime} (h : t.Valid) (hr : t.date.InRange) :
    Int64.minValue.toInt ≤ t.epochMillis ∧ t.epochMillis ≤ Int64.maxValue.toInt := by
  have hdate := hr.dayNumber_bounds h.1
  have hbetween := epochMillis_between h
  omega

/-! ### Stored values -/

namespace Scalar

theorem isStoredAs_ofInt {s : Scalar} {n : Int} (h : s.toValue = .ok (.integer (Int64.ofInt n)))
    (hmin : Int64.minValue.toInt ≤ n) (hmax : n ≤ Int64.maxValue.toInt) : s.IsStoredAs n :=
  ⟨_, h, Int64.toInt_ofInt_of_le hmin (Int.lt_of_le_of_lt hmax (by decide))⟩

theorem isStoredAs_date {d : Date} (hd : d.Valid) (hr : d.InRange) :
    (date d).IsStoredAs (d.dayNumber * 86400000) := by
  have hbounds := hr.dayNumber_bounds hd
  exact isStoredAs_ofInt rfl hbounds.1 (by omega)

/-- The last day in range is followed by one that 64 bits can count too. -/
theorem isStoredAs_next {d : Date} (hd : d.Valid) (hr : d.InRange) :
    (date d.next).IsStoredAs ((d.dayNumber + 1) * 86400000) := by
  have hbounds := hr.dayNumber_bounds hd
  refine isStoredAs_ofInt ?_ (by omega) hbounds.2
  rw [toValue, Date.epochMillis, Date.dayNumber_next hd]

/-- What is stored depends on the moment alone. -/
theorem IsAt.toValue_eq {s : Scalar} {t : DateTime} (h : s.IsAt t) (ht : t.Valid) :
    s.toValue = .ok (.integer (Int64.ofInt t.epochMillis)) := by
  cases h with
  | date d =>
    have hmidnight : (⟨d, ⟨0, 0, 0, 0⟩⟩ : DateTime).epochMillis = d.epochMillis := by
      simp [DateTime.epochMillis, TimeOfDay.millis]
    rw [hmidnight, toValue]
  | dateTime => rfl
  | zoned hz h => rw [← h.epochMillis_eq hz ht, toValue]

theorem IsAt.isStoredAs {s : Scalar} {t : DateTime} (h : s.IsAt t) (ht : t.Valid)
    (hr : t.date.InRange) : s.IsStoredAs t.epochMillis :=
  have hbounds := ht.epochMillis_bounds hr
  isStoredAs_ofInt (h.toValue_eq ht) hbounds.1 hbounds.2

end Scalar

/-- Stored dates and times are on one line. A day is stored as 86400000 times the number of days
that the calendar counts from the first of January 1970 to it, and the next day as 86400000 more,
whatever month, leap year or year zero begins or ends with it. A time of the day is stored between
the two, as the whole milliseconds that have passed. A local date and time is at exactly one
moment, and stored as what the clock at longitude zero shows then. Of any two of these the one
whose moment is not later is not stored as more. -/
theorem stored_on_time_line :
    (∀ d : Date, d.Valid → d.InRange → ∃ n : Int,
      Leads Date.next n ⟨1970, 1, 1⟩ d ∧ (Scalar.date d).IsStoredAs (n * 86400000) ∧
      d.next.Valid ∧ (Scalar.date d.next).IsStoredAs ((n + 1) * 86400000) ∧
      ∀ time : TimeOfDay, time.Valid → ∃ m : Int,
        (Scalar.dateTime ⟨d, time⟩).IsStoredAs m ∧
        n * 86400000 ≤ m ∧ m < (n + 1) * 86400000 ∧
        let nanoseconds := (n * 86400 + time.seconds) * 1000000000 + time.nanosecond
        m * 1000000 ≤ nanoseconds ∧ nanoseconds < (m + 1) * 1000000) ∧
    (∀ z : ZonedDateTime, z.localTime.Valid → (∃! u : DateTime, u.Valid ∧ z.IsAt u) ∧
      ∀ u : DateTime, u.Valid → z.IsAt u →
        (Scalar.zoned z).toValue = (Scalar.dateTime u).toValue ∧
        (Scalar.zoned z).toValue = (Scalar.zoned ⟨u, 0⟩).toValue) ∧
    ∀ (s s' : Scalar) (t t' : DateTime), s.IsAt t → s'.IsAt t' →
      t.Valid → t.date.InRange → t'.Valid → t'.date.InRange → t = t' ∨ t.Before t' →
      ∃ m m' : Int, s.IsStoredAs m ∧ s'.IsStoredAs m' ∧ m ≤ m' := by
  refine ⟨fun d hd hr => ?_, fun z hz => ?_, fun s s' t t' h h' ht hr ht' hr' hle => ?_⟩
  · refine ⟨d.dayNumber, Date.leads_dayNumber hd, Scalar.isStoredAs_date hd hr, hd.next,
      Scalar.isStoredAs_next hd hr, fun time htime => ?_⟩
    have ht : DateTime.Valid ⟨d, time⟩ := ⟨hd, htime⟩
    have hbetween := DateTime.epochMillis_between ht
    exact ⟨_, (Scalar.IsAt.dateTime _).isStoredAs ht hr, hbetween.1, hbetween.2,
      DateTime.epochMillis_floor _⟩
  · refine ⟨ZonedDateTime.existsUnique_isAt hz, fun u hu h => ?_⟩
    rw [(Scalar.IsAt.zoned hz h).toValue_eq hu, (Scalar.IsAt.dateTime u).toValue_eq hu,
      (Scalar.IsAt.zoned hu rfl : Scalar.IsAt (.zoned ⟨u, 0⟩) u).toValue_eq hu]
    exact ⟨rfl, rfl⟩
  · exact ⟨_, _, h.isStoredAs ht hr, h'.isStoredAs ht' hr', DateTime.epochMillis_le ht ht' hle⟩

/-- The end of a leap day before the year zero, and the beginning of that year on a clock that is
ahead by an hour. -/
theorem stored_on_time_line_of_leap_day :
    let t : DateTime := ⟨⟨-4, 2, 29⟩, ⟨23, 59, 59, 999999999⟩⟩
    let z : ZonedDateTime := ⟨⟨⟨0, 1, 1⟩, ⟨0, 0, 0, 1⟩⟩, 3600⟩
    let u : DateTime := ⟨⟨-1, 12, 31⟩, ⟨23, 0, 0, 1⟩⟩
    t.Valid ∧ t.date.InRange ∧ z.localTime.Valid ∧ u.Valid ∧ u.date.InRange ∧ z.IsAt u ∧
    t.Before u ∧ t.date.next = ⟨-4, 3, 1⟩ ∧
    (∃ n m : Int, (Scalar.date ⟨-4, 2, 29⟩).IsStoredAs (n * 86400000) ∧
      (Scalar.date ⟨-4, 3, 1⟩).IsStoredAs ((n + 1) * 86400000) ∧
      (Scalar.dateTime t).IsStoredAs m ∧ n * 86400000 ≤ m ∧ m < (n + 1) * 86400000) ∧
    (Scalar.zoned z).toValue = (Scalar.zoned ⟨u, 0⟩).toValue ∧
    ∃ m m' : Int, (Scalar.dateTime t).IsStoredAs m ∧ (Scalar.zoned z).IsStoredAs m' ∧ m ≤ m' := by
  intro t z u
  have ht : t.Valid := by decide
  have hr : t.date.InRange := by decide
  have hz : z.localTime.Valid := by decide
  have hu : u.Valid := by decide
  have hur : u.date.InRange := by decide
  have hat : z.IsAt u := (ZonedDateTime.isAt_iff hz hu).mpr (by decide)
  have hbefore : t.Before u := .inl (.inl (by decide))
  obtain ⟨hdays, hzoned, horder⟩ := stored_on_time_line
  obtain ⟨n, -, hday, -, hnext, htimes⟩ := hdays t.date ht.1 hr
  obtain ⟨m, hm, hmin, hmax, -⟩ := htimes t.time ht.2
  exact ⟨ht, hr, hz, hu, hur, hat, hbefore, rfl, ⟨n, m, hday, hnext, hm, hmin, hmax⟩,
    ((hzoned z hz).2 u hu hat).2,
    horder _ _ t u (.dateTime t) (.zoned hz hat) ht hr hu hur (.inr hbefore)⟩

end SqlCompose
