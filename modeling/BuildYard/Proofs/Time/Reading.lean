import BuildYard.Proofs.Time.Calendar
import BuildYard.Time.Rfc3339
/-!
# Times that are read back

`IsStamp` says what an instant looks like in the form of RFC 3339, in UTC, without any reader or writer:
fields with fixed numbers of digits, of a date of the calendar and of a time of day. Every such text is
read as its instant (`ofChars?_of_isStamp`), and every instant is written as one (`isStamp_offsetText`).
So what is written is read back, with all of its nanoseconds and inside leap seconds
(`ofText?_offsetText`).
-/

namespace BuildYard.Instant

/-! ## The form of a time -/

/-- The text consists of so many decimal digits, which stand for the number. -/
structure IsDigits (width : Nat) (text : List Char) (n : Nat) : Prop where
  length_eq : text.length = width
  isDigit : ∀ c ∈ text, c.isDigit = true
  value_eq : Nat.ofDigitChars 10 text 0 = n

/-- A year has four digits; the years for which four do not do have a sign. -/
inductive IsYear : List Char → Int → Prop
  | four {text : List Char} {n : Nat} (digits : IsDigits 4 text n) : IsYear text n
  | later {width : Nat} {text : List Char} {n : Nat} (digits : IsDigits width text n)
      (above : 9999 < n) : IsYear ('+' :: text) n
  | earlier {width : Nat} {text : List Char} {n : Nat} (digits : IsDigits width text n)
      (below : 0 < n) : IsYear ('-' :: text) (-n)

/-- A date of the calendar: the year, the month and the day with hyphens between them. -/
inductive IsDate : List Char → Date → Prop
  | fields {d : Date} {year month day : List Char} (is_year : IsYear year d.year)
      (is_month : IsDigits 2 month d.month) (is_day : IsDigits 2 day d.day)
      (is_valid : d.isValid = true) : IsDate (year ++ '-' :: month ++ '-' :: day) d

/-- A fraction of a second in nanoseconds: nothing, or a point and up to nine digits. -/
inductive IsFraction : List Char → Nat → Prop
  | absent : IsFraction [] 0
  | point {width n : Nat} {text : List Char} (some_digits : 0 < width) (up_to_nine : width ≤ 9)
      (digits : IsDigits width text n) : IsFraction ('.' :: text) (n * tenTo (9 - width))

/-- A time of day in seconds since midnight and nanoseconds: the hour, the minute and the second with
colons between them, and a fraction. The second 60 is a leap second. -/
inductive IsTime : List Char → Nat → Nat → Prop
  | fields {hour minute sec fraction secondOfDay nanos : Nat} {hh mm ss ff : List Char}
      (is_hour : IsDigits 2 hh hour) (is_minute : IsDigits 2 mm minute) (is_second : IsDigits 2 ss sec)
      (is_fraction : IsFraction ff fraction) (hour_lt : hour < 24) (minute_lt : minute < 60)
      (sec_le : sec ≤ 60)
      (secondOfDay_eq : secondOfDay = hour * 3600 + minute * 60 + if sec = 60 then 59 else sec)
      (nanos_eq : nanos = if sec = 60 then second + fraction else fraction) :
      IsTime (hh ++ ':' :: mm ++ ':' :: ss ++ ff) secondOfDay nanos

/-- A date and a time of day in UTC. Where the year has four digits, the text has the form of
RFC 3339. -/
inductive IsStamp : List Char → Instant → Prop
  | utc {t : Instant} {d : Date} {sec : Nat} {date time : List Char} (is_date : IsDate date d)
      (is_time : IsTime time sec t.nanos) (seconds_eq : t.seconds = d.toDay * 86400 + sec) :
      IsStamp (date ++ 'T' :: time ++ ['+', '0', '0', ':', '0', '0']) t

variable {width n : Nat} {text rest : List Char}

/-! ## Reading -/

/-- The text does not go on with a digit. -/
def EndsDigits (rest : List Char) : Prop := ∀ c, rest.head? = some c → c.isDigit = false

theorem endsDigits_cons {c : Char} (h : c.isDigit = false) (rest : List Char) :
    EndsDigits (c :: rest) := by
  rintro c' hc
  obtain rfl := Option.some.inj hc
  exact h

theorem EndsDigits.take (h : EndsDigits rest) (k : Nat) : EndsDigits (rest.take k) := by
  intro c hc
  rw [List.head?_take] at hc
  split at hc
  · cases hc
  · exact h c hc

/-- Only blanks are skipped. -/
theorem trimStart_cons {c : Char} (h : Text.isBlank c = false) (rest : List Char) :
    Text.trimStart (c :: rest) = c :: rest := by
  refine Text.trimStart_eq_self fun c' hc => ?_
  obtain rfl := Option.some.inj hc
  exact h

theorem isBlank_of_isDigit {c : Char} (h : c.isDigit = true) : Text.isBlank c = false := by
  have hrange : 48 ≤ c.toNat ∧ c.toNat ≤ 57 := by
    simpa [Char.isDigit, UInt32.le_iff_toNat_le] using h
  simp only [Text.isBlank, Bool.or_eq_false_iff, Bool.and_eq_false_iff, decide_eq_false_iff_not,
    beq_eq_false_iff_ne]
  omega

theorem IsDigits.exists_cons (h : IsDigits width text n) (hsome : 0 < width) :
    ∃ c digits, text = c :: digits ∧ c.isDigit = true := by
  cases text with
  | nil => exact absurd h.length_eq (Nat.ne_of_lt hsome)
  | cons c digits => exact ⟨c, digits, rfl, h.isDigit c List.mem_cons_self⟩

theorem IsDigits.trimStart_append (h : IsDigits width text n) (hsome : 0 < width)
    (rest : List Char) : Text.trimStart (text ++ rest) = text ++ rest := by
  obtain ⟨c, digits, rfl, hdigit⟩ := h.exists_cons hsome
  exact trimStart_cons (isBlank_of_isDigit hdigit) _

theorem IsDigits.isEmpty_eq (h : IsDigits width text n) (hsome : 0 < width) :
    text.isEmpty = false := by
  obtain ⟨c, digits, rfl, -⟩ := h.exists_cons hsome
  rfl

theorem IsDigits.takeWhile_append (h : IsDigits width text n) (hends : EndsDigits rest) :
    (text ++ rest).takeWhile Char.isDigit = text := by
  rw [List.takeWhile_append_of_pos h.isDigit]
  cases rest with
  | nil => simp
  | cons c rest => simp [hends c rfl]

theorem IsDigits.drop_append (h : IsDigits width text n) (rest : List Char) :
    (text ++ rest).drop width = rest := by
  rw [← h.length_eq, List.drop_left]

/-- Digits are read up to where they end, or up to the limit. -/
theorem number?_append {limit : Nat} (h : IsDigits width text n) (hsome : 0 < width)
    (hlimit : width ≤ limit) (hends : width = limit ∨ EndsDigits rest) :
    number? limit (text ++ rest) = some (n, rest) := by
  have hrest : EndsDigits (rest.take (limit - width)) := by
    rcases hends with rfl | hends
    · rw [Nat.sub_self]
      exact fun c hc => by cases hc
    · exact hends.take _
  have htaken : ((text ++ rest).take limit).takeWhile Char.isDigit = text := by
    rw [List.take_append, List.take_of_length_le (h.length_eq.trans_le hlimit), h.length_eq,
      h.takeWhile_append hrest]
  unfold number?
  simp only [h.trimStart_append hsome, htaken, h.isEmpty_eq hsome, h.value_eq, h.length_eq,
    h.drop_append, Bool.false_eq_true, if_false]

theorem number?_full (h : IsDigits width text n) (hsome : 0 < width) (rest : List Char) :
    number? width (text ++ rest) = some (n, rest) :=
  number?_append h hsome le_rfl (.inl rfl)

theorem after?_cons {sep : Char} (h : Text.isBlank sep = false) (rest : List Char) :
    after? sep (sep :: rest) = some rest := by
  rw [after?, trimStart_cons h]
  exact if_pos rfl

/-- The digits behind the sign of a year are all read. -/
theorem number?_signed (h : IsDigits width text n) (hsome : 0 < width) (rest : List Char) :
    ((text ++ '-' :: rest).head?.any Char.isDigit) = true ∧
      number? (text ++ '-' :: rest).length (text ++ '-' :: rest) = some (n, '-' :: rest) := by
  obtain ⟨c, digits, rfl, hdigit⟩ := h.exists_cons hsome
  refine ⟨hdigit, number?_append h hsome ?_ (.inr (endsDigits_cons rfl rest))⟩
  rw [List.length_append, h.length_eq]
  exact Nat.le_add_right _ _

theorem IsDigits.pos (h : IsDigits width text n) (hn : 0 < n) : 0 < width := by
  obtain ⟨hlength, -, hvalue⟩ := h
  cases text with
  | nil => exact absurd hvalue.symm (Nat.ne_of_gt hn)
  | cons c digits => exact hlength ▸ Nat.succ_pos _

theorem year?_append {y : Int} (h : IsYear text y) (rest : List Char) :
    year? (text ++ '-' :: rest) = some (y, '-' :: rest) := by
  cases h with
  | four digits =>
    have hnumber := number?_full digits (by decide) ('-' :: rest)
    obtain ⟨c, text', rfl, hdigit⟩ := digits.exists_cons (by decide)
    unfold year?
    rw [digits.trimStart_append (by decide)]
    split
    · rename_i hsign
      cases hsign
      cases hdigit
    · rename_i hsign
      cases hsign
      cases hdigit
    · rw [hnumber]
      rfl
  | later digits above =>
    obtain ⟨hhead, hnumber⟩ := number?_signed digits (digits.pos (by omega)) rest
    rw [year?, List.cons_append, trimStart_cons (by decide)]
    simp only [hhead, hnumber, if_true, Option.map_some]
  | earlier digits below =>
    obtain ⟨hhead, hnumber⟩ := number?_signed digits (digits.pos below) rest
    rw [year?, List.cons_append, trimStart_cons (by decide)]
    simp only [hhead, hnumber, if_true, Option.map_some]

theorem date?_append {d : Date} (h : IsDate text d)
    (hyear : -262143 ≤ d.year ∧ d.year ≤ 262142) (rest : List Char) :
    date? (text ++ 'T' :: rest) = some (d, 'T' :: rest) := by
  obtain @⟨d, year, month, day, is_year, is_month, is_day, is_valid⟩ := h
  have hvalid : (d.isValid && decide (-262143 ≤ d.year) && decide (d.year ≤ 262142)) = true := by
    simp [is_valid, hyear]
  simp only [date?, List.append_assoc, List.cons_append, year?_append is_year,
    after?_cons (by decide : Text.isBlank '-' = false), number?_full is_month (by decide),
    number?_full is_day (by decide), Option.bind_eq_bind, Option.bind_some, hvalid, if_true]

theorem fraction?_append {nanos : Nat} (h : IsFraction text nanos) (rest : List Char) :
    fraction? (text ++ '+' :: rest) = some (nanos, '+' :: rest) := by
  cases h with
  | absent => rfl
  | @point width n text some_digits up_to_nine digits =>
    have hends : EndsDigits ('+' :: rest) := endsDigits_cons rfl rest
    have hkept : text.take 9 = text :=
      List.take_of_length_le (digits.length_eq.trans_le up_to_nine)
    rw [List.cons_append, fraction?]
    simp only [digits.takeWhile_append hends, digits.isEmpty_eq some_digits, hkept, digits.value_eq,
      digits.length_eq, digits.drop_append, Bool.false_eq_true, if_false]

theorem time?_append {sec nanos : Nat} (h : IsTime text sec nanos) (rest : List Char) :
    time? (text ++ '+' :: rest) = some (sec, nanos, '+' :: rest) := by
  obtain @⟨hour, minute, sec, fraction, secondOfDay, nanos, hh, mm, ss, ff, is_hour, is_minute,
    is_second, is_fraction, hour_lt, minute_lt, sec_le, rfl, rfl⟩ := h
  simp only [time?, List.append_assoc, List.cons_append, number?_full is_hour (by decide),
    number?_full is_minute (by decide), number?_full is_second (by decide),
    after?_cons (by decide : Text.isBlank ':' = false), fraction?_append is_fraction,
    Option.bind_eq_bind, Option.bind_some, hour_lt, minute_lt, sec_le, and_self, if_true]
  split <;> rfl

theorem IsTime.secondOfDay_lt {secondOfDay nanos : Nat} (h : IsTime text secondOfDay nanos) :
    secondOfDay < 86400 := by
  obtain ⟨-, -, -, -, hour_lt, minute_lt, sec_le, rfl, -⟩ := h
  split <;> omega

/-- **A time in the form of RFC 3339 is read as its instant.** -/
theorem ofChars?_of_isStamp {t : Instant} (h : IsStamp text t) : ofChars? text = some t := by
  obtain @⟨t, d, sec, date, time, is_date, is_time, seconds_eq⟩ := h
  have hsec := is_time.secondOfDay_lt
  have hvalid : d.isValid = true := by
    obtain ⟨-, -, -, hvalid⟩ := is_date
    exact hvalid
  have hyear := year_bounds hvalid (by omega : d.toDay = t.seconds / 86400)
  have hzone : zone? (Text.trimStart ['+', '0', '0', ':', '0', '0']) = some (0, []) := by decide
  have hof : of? (d.toDay * 86400 + sec - 0) t.nanos = some t :=
    of?_eq_some_iff.2 ⟨by omega, rfl⟩
  have hend : (Text.trimStart []).isEmpty = true := rfl
  unfold ofChars?
  simp only [List.append_assoc, List.cons_append, date?_append is_date hyear,
    time?_append is_time, hzone, hend, hof, Option.bind_eq_bind, Option.bind_some, true_or, if_true]

/-! ## Writing -/

theorem isDigits_decimalPadded (width n : Nat) :
    IsDigits (Text.decimalPadded width n).length (Text.decimalPadded width n) n where
  length_eq := rfl
  isDigit _ := Text.isDigit_of_mem_decimalPadded
  value_eq := Text.ofDigitChars_decimalPadded width n

theorem length_decimalPadded {width n : Nat} (hsome : 0 < width) (h : n < 10 ^ width) :
    (Text.decimalPadded width n).length = width := by
  have hlength : (Text.decimal n).length ≤ width :=
    (Nat.length_toDigits_le_iff (by decide) hsome).2 h
  rw [Text.decimalPadded, List.length_append, List.length_replicate]
  omega

/-- A number that is small enough is written in the number of digits that is asked for. -/
theorem isDigits_decimalPadded_of_lt {width n : Nat} (hsome : 0 < width) (h : n < 10 ^ width) :
    IsDigits width (Text.decimalPadded width n) n := by
  have hdigits := isDigits_decimalPadded width n
  rwa [length_decimalPadded hsome h] at hdigits

theorem isYear_writtenYear (y : Int) : IsYear (writtenYear y) y := by
  unfold writtenYear
  split
  · rename_i hfour
    obtain ⟨n, rfl⟩ := Int.eq_ofNat_of_zero_le hfour.1
    exact .four (isDigits_decimalPadded_of_lt (by decide) (by omega))
  · split
    · obtain ⟨n, rfl⟩ : ∃ n : Nat, y = -n := ⟨y.natAbs, by omega⟩
      rw [Int.natAbs_neg, Int.natAbs_natCast]
      exact .earlier (isDigits_decimalPadded 4 n) (by omega)
    · obtain ⟨n, rfl⟩ : ∃ n : Nat, y = n := ⟨y.natAbs, by omega⟩
      rw [Int.natAbs_natCast]
      exact .later (isDigits_decimalPadded 4 n) (by omega)

theorem isDate_writtenDate {d : Date} (h : d.isValid = true) : IsDate (writtenDate d) d := by
  obtain ⟨-, hmonth, -, hday⟩ := Date.isValid_iff.1 h
  have hdays : Date.daysInMonth d.year d.month ≤ 31 := by
    unfold Date.daysInMonth
    split_ifs <;> omega
  have h100 : 10 ^ 2 = 100 := rfl
  exact .fields (isYear_writtenYear d.year) (isDigits_decimalPadded_of_lt (by decide) (by omega))
    (isDigits_decimalPadded_of_lt (by decide) (by omega)) h

/-- The fewest digits that are exact stand for all the nanoseconds. -/
theorem isFraction_writtenFraction {nanos : Nat} (h : nanos < second) :
    IsFraction (writtenFraction .shortest nanos) nanos := by
  have hsecond : second = 1000000000 := rfl
  have hpoint : ∀ {width n : Nat}, 0 < width → width ≤ 9 → n < 10 ^ width →
      n * 10 ^ (9 - width) = nanos → IsFraction ('.' :: Text.decimalPadded width n) nanos := by
    rintro width n hsome hnine hlt rfl
    exact .point hsome hnine (isDigits_decimalPadded_of_lt hsome hlt)
  unfold writtenFraction
  dsimp only
  split_ifs with hzero hmillis hmicros
  · rw [hzero]
    exact .absent
  · exact hpoint (by decide) (by decide) (by omega) (by omega)
  · exact hpoint (by decide) (by decide) (by omega) (by omega)
  · exact hpoint (by decide) (by decide) (by omega) (by omega)

theorem isTime_writtenTime (t : Instant) :
    IsTime (writtenTime .shortest t) t.secondOfDay t.nanos := by
  obtain ⟨-, -, hnanos⟩ := t.represented
  have hday : t.secondOfDay = (t.seconds % 86400).toNat := rfl
  have hsecond : second = 1000000000 := rfl
  have hfraction : t.nanos % second < second := Nat.mod_lt _ (by decide)
  have hleap : t.isLeap = true → second ≤ t.nanos := of_decide_eq_true
  have hplain : ¬ t.isLeap = true → t.nanos < second := fun h => not_le.1 fun hle =>
    h (decide_eq_true hle)
  -- leap seconds are where a minute ends
  have hsixty : (t.secondOfDay % 60 + if t.isLeap then 1 else 0) ≤ 60 := by
    split <;> omega
  refine .fields (isDigits_decimalPadded_of_lt (by decide) (by omega))
    (isDigits_decimalPadded_of_lt (by decide) (by omega))
    (isDigits_decimalPadded_of_lt (by decide) (lt_of_le_of_lt hsixty (by decide)))
    (isFraction_writtenFraction hfraction) (by omega) (by omega) hsixty ?_ ?_
  · by_cases h : t.isLeap = true
    · have hend := hleap h
      simp only [h, if_true]
      split <;> omega
    · simp only [h, Bool.false_eq_true, if_false]
      split <;> omega
  · by_cases h : t.isLeap = true
    · have hend := hleap h
      have hrest : second + t.nanos % second = t.nanos := by
        rw [hsecond] at hnanos hend ⊢
        omega
      simp only [h, if_true, hrest]
      split <;> omega
    · rw [Nat.mod_eq_of_lt (hplain h)]
      simp only [h, Bool.false_eq_true, if_false]
      split <;> omega

theorem isStamp_offsetText (t : Instant) : IsStamp t.offsetText.toList t := by
  rw [offsetText, String.toList_ofList, written]
  refine .utc (isDate_writtenDate t.isValid_date) t.isTime_writtenTime ?_
  rw [toDay_date, secondOfDay]
  omega

/-- **What is written is read back.** -/
theorem ofText?_offsetText (t : Instant) : ofText? t.offsetText = some t :=
  ofChars?_of_isStamp t.isStamp_offsetText

end BuildYard.Instant
