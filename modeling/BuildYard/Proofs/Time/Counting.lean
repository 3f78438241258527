import BuildYard.Time.Span
/-!
# Counting seconds from an instant

Adding seconds to an instant goes through two conversions that can each refuse: the number of seconds
has to be a span, and the sum an instant. The first never refuses what the second would accept
(`add_ofSeconds?`), so that a sum is there exactly if it lies between the years -262143 and 262142,
and no number of seconds, however large, makes it wrap.

`Counted` says where the seconds lead, with or without an instant there. A leap second is no second to
count from: forwards the counting starts from the second before it, backwards from the one after it.
-/

namespace BuildYard.Instant

/-! ## The time that is represented -/

/-- Seconds from the first of the year -262143 to the last of the year 262142. -/
def InRange (seconds : Int) : Prop :=
  Date.toDay ⟨-262143, 1, 1⟩ * 86400 ≤ seconds ∧
    seconds ≤ Date.toDay ⟨262142, 12, 31⟩ * 86400 + 86399

theorem firstSecond_eq : firstSecond = Date.toDay ⟨-262143, 1, 1⟩ * 86400 := by decide

theorem lastSecond_eq : lastSecond = Date.toDay ⟨262142, 12, 31⟩ * 86400 + 86399 := by decide

theorem inRange_iff {seconds : Int} :
    InRange seconds ↔ firstSecond ≤ seconds ∧ seconds ≤ lastSecond := by
  rw [InRange, firstSecond_eq, lastSecond_eq]

theorem inRange_seconds (t : Instant) : InRange t.seconds :=
  inRange_iff.2 ⟨t.represented.1, t.represented.2.1⟩

/-- Below a full second of nanoseconds there is an instant for all seconds in the range. -/
theorem exists_of?_of_inRange {seconds : Int} {nanos : Nat} (hrange : InRange seconds)
    (hnanos : nanos < second) : ∃ t, of? seconds nanos = some t := by
  obtain ⟨hfirst, hlast⟩ := inRange_iff.1 hrange
  exact ⟨_, dif_pos ⟨hfirst, hlast, .inl hnanos⟩⟩

/-! ## Adding seconds -/

/-- The second and the nanoseconds that are a number of seconds from an instant. -/
inductive Counted (start : Instant) : Int → Int → Nat → Prop
  | plain {n : Int} (no_leap : start.isLeap = false) :
      Counted start n (start.seconds + n) start.nanos
  | leap_stays (leap : start.isLeap = true) : Counted start 0 start.seconds start.nanos
  | leap_forward {n : Int} (leap : start.isLeap = true) (forward : 0 < n) :
      Counted start n (start.seconds + n) (start.nanos - second)
  | leap_back {n : Int} (leap : start.isLeap = true) (back : n < 0) :
      Counted start n (start.seconds + 1 + n) (start.nanos - second)

theorem addSeconds?_of_counted {start : Instant} {n seconds : Int} {nanos : Nat}
    (h : Counted start n seconds nanos) : start.addSeconds? n = of? seconds nanos := by
  have hself : of? start.seconds start.nanos = some start := of?_eq_some_iff.2 ⟨rfl, rfl⟩
  unfold addSeconds?
  cases h with
  | plain no_leap =>
    by_cases hn : n = 0
    · simp [hn, hself]
    · simp [hn, no_leap]
  | leap_stays leap => simp [hself]
  | leap_forward leap forward => simp [leap, forward, Int.ne_of_gt forward]
  | leap_back leap back =>
    have hforward : ¬ 0 < n := by omega
    simp [leap, Int.ne_of_lt back, hforward]

theorem exists_counted (start : Instant) (n : Int) :
    ∃ seconds nanos, Counted start n seconds nanos := by
  cases hleap : start.isLeap with
  | false => exact ⟨_, _, .plain hleap⟩
  | true =>
    rcases Int.lt_trichotomy n 0 with hn | rfl | hn
    · exact ⟨_, _, .leap_back hleap hn⟩
    · exact ⟨_, _, .leap_stays hleap⟩
    · exact ⟨_, _, .leap_forward hleap hn⟩

theorem Counted.near {start : Instant} {n seconds : Int} {nanos : Nat}
    (h : Counted start n seconds nanos) :
    seconds = start.seconds + n ∨ seconds = start.seconds + 1 + n := by
  cases h with
  | plain => exact .inl rfl
  | leap_stays => exact .inl (by omega)
  | leap_forward => exact .inl rfl
  | leap_back => exact .inr rfl

/-- What is counted in the range is an instant. -/
theorem Counted.exists_of? {start : Instant} {n seconds : Int} {nanos : Nat}
    (h : Counted start n seconds nanos) (hrange : InRange seconds) :
    ∃ t, of? seconds nanos = some t := by
  have hrep := start.represented.2.2
  cases h with
  | plain no_leap => exact exists_of?_of_inRange hrange (by simpa [isLeap] using no_leap)
  | leap_stays => exact ⟨start, of?_eq_some_iff.2 ⟨rfl, rfl⟩⟩
  | leap_forward leap | leap_back leap =>
    refine exists_of?_of_inRange hrange ?_
    simp only [second] at hrep ⊢
    omega

/-- **The span never stands in the way.** Seconds from one instant to another are always a span, so a
deadline too long for one leads to no instant either. -/
theorem add_ofSeconds? (start : Instant) (n : Int) :
    (Span.ofSeconds? n).bind start.add? = start.addSeconds? n := by
  unfold Span.ofSeconds?
  split
  · rfl
  · rename_i hlong
    -- two instants are about 1.6 * 10 ^ 13 seconds apart at most, and the word ends at 9.2 * 10 ^ 15
    obtain ⟨seconds, nanos, hcounted⟩ := exists_counted start n
    rw [addSeconds?_of_counted hcounted]
    symm
    rw [Option.bind_none, Option.eq_none_iff_forall_ne_some]
    intro t ht
    obtain ⟨rfl, -⟩ := of?_eq_some_iff.1 ht
    have hstart := start.represented
    have ht := t.represented
    have hnear := hcounted.near
    have hword : wordSize 63 = 9223372036854775808 := by decide
    simp only [Represented, firstSecond, lastSecond] at hstart ht
    omega

end BuildYard.Instant
