import SqlCompose.Proofs.Calendar.Days

/-! Clocks that go on second by second, from one day of the calendar to the next. A clock at
longitude zero and one that is ahead of it or behind show the same moment if the seconds between
what they show are those of the offset, so every local date and time belongs to one moment. -/

namespace SqlCompose

namespace TimeOfDay

/-- A time that a clock shows, with less than a second below the seconds. -/
def Valid (t : TimeOfDay) : Prop :=
  t.hour < 24 ∧ t.minute < 60 ∧ t.second < 60 ∧ t.nanosecond < 1000000000

instance (t : TimeOfDay) : Decidable t.Valid := by
  unfold Valid
  infer_instance

def Before (t u : TimeOfDay) : Prop :=
  t.hour < u.hour ∨ t.hour = u.hour ∧ (t.minute < u.minute ∨ t.minute = u.minute ∧
    (t.second < u.second ∨ t.second = u.second ∧ t.nanosecond < u.nanosecond))

/-- Whole seconds since midnight. -/
def seconds (t : TimeOfDay) : Nat :=
  (t.hour * 60 + t.minute) * 60 + t.second

theorem Valid.seconds_lt {t : TimeOfDay} (h : t.Valid) : t.seconds < 86400 := by
  obtain ⟨hh, hm, hs, -⟩ := h
  unfold seconds
  omega

theorem Valid.millis_lt {t : TimeOfDay} (h : t.Valid) : t.millis < 86400000 := by
  obtain ⟨hh, hm, hs, hn⟩ := h
  unfold millis
  omega

theorem eq_of_seconds {t u : TimeOfDay} (ht : t.Valid) (hu : u.Valid)
    (hs : t.seconds = u.seconds) (hn : t.nanosecond = u.nanosecond) : t = u := by
  obtain ⟨h, m, s, n⟩ := t
  obtain ⟨h', m', s', n'⟩ := u
  simp only [Valid, seconds] at ht hu hs hn
  simp only [mk.injEq]
  omega

theorem exists_seconds {s n : Nat} (hs : s < 86400) (hn : n < 1000000000) :
    ∃ t : TimeOfDay, t.Valid ∧ t.seconds = s ∧ t.nanosecond = n := by
  refine ⟨⟨s / 3600, s / 60 % 60, s % 60, n⟩, ⟨?_, ?_, ?_, hn⟩, ?_, rfl⟩ <;>
    simp only [seconds] <;> omega

end TimeOfDay

namespace DateTime

def Valid (t : DateTime) : Prop :=
  t.date.Valid ∧ t.time.Valid

instance (t : DateTime) : Decidable t.Valid := by
  unfold Valid
  infer_instance

def Before (t u : DateTime) : Prop :=
  t.date.Before u.date ∨ t.date = u.date ∧ t.time.Before u.time

/-- What a clock shows one second later. -/
def nextSecond (t : DateTime) : DateTime :=
  if t.time.second < 59 then ⟨t.date, { t.time with second := t.time.second + 1 }⟩
  else if t.time.minute < 59 then
    ⟨t.date, { t.time with minute := t.time.minute + 1, second := 0 }⟩
  else if t.time.hour < 23 then ⟨t.date, ⟨t.time.hour + 1, 0, 0, t.time.nanosecond⟩⟩
  else ⟨t.date.next, ⟨0, 0, 0, t.time.nanosecond⟩⟩

/-- Whole seconds since the beginning of 1970. -/
def seconds (t : DateTime) : Int :=
  t.date.dayNumber * 86400 + t.time.seconds

theorem epochMillis_eq (t : DateTime) :
    t.epochMillis = t.seconds * 1000 + (t.time.nanosecond / 1000000 : Nat) := by
  simp only [epochMillis, Date.epochMillis, TimeOfDay.millis, seconds, TimeOfDay.seconds]
  omega

/-- The milliseconds of a day are between its midnight and the next. -/
theorem epochMillis_between {t : DateTime} (h : t.Valid) :
    t.date.dayNumber * 86400000 ≤ t.epochMillis ∧
      t.epochMillis < (t.date.dayNumber + 1) * 86400000 := by
  have htime := h.2.millis_lt
  simp only [epochMillis, Date.epochMillis]
  omega

/-- Milliseconds are rounded down, also before 1970. -/
theorem epochMillis_floor (t : DateTime) :
    t.epochMillis * 1000000 ≤ t.seconds * 1000000000 + t.time.nanosecond ∧
      t.seconds * 1000000000 + t.time.nanosecond < (t.epochMillis + 1) * 1000000 := by
  rw [epochMillis_eq]
  omega

/-! ### Seconds in a row -/

/-- Seconds are carried to minutes, hours and days. -/
theorem nextSecond_cases {t : DateTime} (h : t.Valid) :
    t.time.second < 59 ∧
      t.nextSecond = ⟨t.date, { t.time with second := t.time.second + 1 }⟩ ∨
    t.time.second = 59 ∧ t.time.minute < 59 ∧
      t.nextSecond = ⟨t.date, { t.time with minute := t.time.minute + 1, second := 0 }⟩ ∨
    t.time.second = 59 ∧ t.time.minute = 59 ∧ t.time.hour < 23 ∧
      t.nextSecond = ⟨t.date, ⟨t.time.hour + 1, 0, 0, t.time.nanosecond⟩⟩ ∨
    t.time.second = 59 ∧ t.time.minute = 59 ∧ t.time.hour = 23 ∧
      t.nextSecond = ⟨t.date.next, ⟨0, 0, 0, t.time.nanosecond⟩⟩ := by
  obtain ⟨-, hh, hm, hs, -⟩ := h
  rw [nextSecond]
  by_cases hsecond : t.time.second < 59
  · exact .inl ⟨hsecond, if_pos hsecond⟩
  rw [if_neg hsecond]
  by_cases hminute : t.time.minute < 59
  · exact .inr (.inl ⟨by omega, hminute, if_pos hminute⟩)
  rw [if_neg hminute]
  by_cases hhour : t.time.hour < 23
  · exact .inr (.inr (.inl ⟨by omega, by omega, hhour, if_pos hhour⟩))
  · exact .inr (.inr (.inr ⟨by omega, by omega, by omega, if_neg hhour⟩))

theorem Valid.nextSecond {t : DateTime} (h : t.Valid) : t.nextSecond.Valid := by
  have ⟨hdate, hh, hm, hs, hn⟩ := h
  rcases nextSecond_cases h with ⟨hlt, hnext⟩ | ⟨-, hlt, hnext⟩ | ⟨-, -, hlt, hnext⟩ |
    ⟨-, -, -, hnext⟩ <;> rw [hnext]
  · exact ⟨hdate, hh, hm, Nat.succ_lt_succ hlt, hn⟩
  · exact ⟨hdate, hh, Nat.succ_lt_succ hlt, by simp, hn⟩
  · exact ⟨hdate, Nat.succ_lt_succ hlt, by simp, by simp, hn⟩
  · exact ⟨hdate.next, by simp, by simp, by simp, hn⟩

theorem seconds_nextSecond {t : DateTime} (h : t.Valid) :
    t.nextSecond.seconds = t.seconds + 1 := by
  rcases nextSecond_cases h with ⟨-, hnext⟩ | ⟨hs, -, hnext⟩ | ⟨hs, hm, -, hnext⟩ |
    ⟨hs, hm, hh, hnext⟩ <;> rw [hnext] <;> simp only [seconds, TimeOfDay.seconds]
  · omega
  · omega
  · omega
  · rw [Date.dayNumber_next h.1]
    omega

theorem nanosecond_nextSecond (t : DateTime) :
    t.nextSecond.time.nanosecond = t.time.nanosecond := by
  unfold nextSecond
  repeat' split
  all_goals rfl

theorem nanosecond_iterate (t : DateTime) (n : Nat) :
    (nextSecond^[n] t).time.nanosecond = t.time.nanosecond := by
  induction n with
  | zero => rfl
  | succ n ih => rw [Function.iterate_succ_apply', nanosecond_nextSecond, ih]

theorem eq_of_seconds {t u : DateTime} (ht : t.Valid) (hu : u.Valid)
    (hs : t.seconds = u.seconds) (hn : t.time.nanosecond = u.time.nanosecond) : t = u := by
  have htime := ht.2.seconds_lt
  have hutime := hu.2.seconds_lt
  simp only [seconds] at hs
  obtain ⟨d, time⟩ := t
  obtain ⟨d', time'⟩ := u
  obtain rfl := Date.eq_of_dayNumber ht.1 hu.1 (by omega)
  obtain rfl := TimeOfDay.eq_of_seconds ht.2 hu.2 (by omega) hn
  rfl

/-- The seconds of date-times with the same fraction of a second count those that a clock goes
through. -/
theorem counts (nanosecond : Nat) :
    Counts nextSecond (fun t => t.Valid ∧ t.time.nanosecond = nanosecond) seconds where
  valid_step t h := ⟨h.1.nextSecond, (nanosecond_nextSecond t).trans h.2⟩
  count_step _ h := seconds_nextSecond h.1
  eq_of_count _ _ h h' hs := eq_of_seconds h.1 h'.1 hs (h.2.trans h'.2.symm)

theorem exists_seconds (s : Int) {n : Nat} (hn : n < 1000000000) :
    ∃ t : DateTime, t.Valid ∧ t.seconds = s ∧ t.time.nanosecond = n := by
  obtain ⟨d, hd, hday⟩ := Date.exists_dayNumber (s / 86400)
  obtain ⟨time, htime, hsec, hnano⟩ :=
    TimeOfDay.exists_seconds (s := (s % 86400).toNat) (by omega) hn
  refine ⟨⟨d, time⟩, ⟨hd, htime⟩, ?_, hnano⟩
  simp only [seconds]
  omega

/-! ### Order -/

/-- Later date-times are not counted earlier. -/
theorem epochMillis_le {t u : DateTime} (ht : t.Valid) (hu : u.Valid) (h : t = u ∨ t.Before u) :
    t.epochMillis ≤ u.epochMillis := by
  rcases h with rfl | hdate | ⟨hdate, htime⟩
  · exact Int.le_refl _
  · have hday := Date.dayNumber_lt ht.1 hu.1 hdate
    have hbefore := epochMillis_between ht
    have hafter := epochMillis_between hu
    omega
  · obtain ⟨-, hh, hm, hs, hn⟩ := ht
    obtain ⟨-, hh', hm', hs', hn'⟩ := hu
    simp only [TimeOfDay.Before] at htime
    simp only [epochMillis, hdate, TimeOfDay.millis]
    omega

end DateTime

namespace ZonedDateTime

/-- The moment of a local date and time, as it is shown at longitude zero: after `offset` seconds
the clock there shows what the local one shows now. -/
def IsAt (z : ZonedDateTime) (u : DateTime) : Prop :=
  Leads DateTime.nextSecond z.offset u z.localTime

theorem IsAt.nanosecond_eq {z : ZonedDateTime} {u : DateTime} (h : z.IsAt u) :
    u.time.nanosecond = z.localTime.time.nanosecond := by
  have := congrArg (·.time.nanosecond) h
  simpa only [DateTime.nanosecond_iterate] using this

theorem isAt_iff {z : ZonedDateTime} (hz : z.localTime.Valid) {u : DateTime} (hu : u.Valid) :
    z.IsAt u ↔ u.seconds = z.localTime.seconds - z.offset ∧
      u.time.nanosecond = z.localTime.time.nanosecond := by
  constructor
  · intro h
    have hleads := ((DateTime.counts _).leads_iff ⟨hu, h.nanosecond_eq⟩ ⟨hz, rfl⟩ _).mp h
    exact ⟨by omega, h.nanosecond_eq⟩
  · rintro ⟨hs, hn⟩
    exact ((DateTime.counts _).leads_iff ⟨hu, hn⟩ ⟨hz, rfl⟩ _).mpr (by omega)

/-- Every local date and time is at one moment. -/
theorem existsUnique_isAt {z : ZonedDateTime} (hz : z.localTime.Valid) :
    ∃! u : DateTime, u.Valid ∧ z.IsAt u := by
  obtain ⟨u, hu, hs, hn⟩ :=
    DateTime.exists_seconds (z.localTime.seconds - z.offset) hz.2.2.2.2
  refine ⟨u, ⟨hu, (isAt_iff hz hu).mpr ⟨hs, hn⟩⟩, fun u' h' => ?_⟩
  obtain ⟨hs', hn'⟩ := (isAt_iff hz h'.1).mp h'.2
  exact DateTime.eq_of_seconds h'.1 hu (hs'.trans hs.symm) (hn'.trans hn.symm)

theorem IsAt.epochMillis_eq {z : ZonedDateTime} {u : DateTime} (hz : z.localTime.Valid)
    (hu : u.Valid) (h : z.IsAt u) : z.epochMillis = u.epochMillis := by
  obtain ⟨hs, hn⟩ := (isAt_iff hz hu).mp h
  rw [epochMillis, DateTime.epochMillis_eq, DateTime.epochMillis_eq, hs, hn]
  omega

end ZonedDateTime

end SqlCompose
