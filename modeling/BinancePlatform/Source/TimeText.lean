import BinancePlatform.Source.DateTime

/-!
# Written times are read back

The ordinal of a day determines its date, every field of `isoformat` is read as the
number it was written from, and so `datetime.fromisoformat` gives the instant back.
-/

set_option autoImplicit false

namespace BinancePlatform.Source.DateTime
open BinancePlatform.Library

/-- The days before a year, from the cycles its predecessor is made of. -/
theorem daysBeforeYear_cycles {a b c d : ℕ} (hb : b ≤ 3) (hc : c ≤ 24) (hd : d ≤ 3) :
    daysBeforeYear (a * 400 + b * 100 + c * 4 + d + 1) = 146097 * a + 36524 * b + 1461 * c + 365 * d := by
  unfold daysBeforeYear
  dsimp only
  omega

theorem isLeap_cycles {a b c d : ℕ} (hb : b ≤ 3) (hc : c ≤ 24) (hd : d ≤ 3) :
    isLeap (a * 400 + b * 100 + c * 4 + d + 1) = decide (d = 3 ∧ (c ≠ 24 ∨ b = 3)) := by
  rw [Bool.eq_iff_iff]
  simp only [isLeap, Bool.and_eq_true, Bool.or_eq_true, decide_eq_true_eq]
  omega

/-- The days before a month of a year that is leap or not. -/
def monthStart (leap : Bool) (month : ℕ) : ℕ :=
  ((List.range (month - 1)).map fun m => daysInMonth (if leap then 4 else 1) (m + 1)).sum

theorem daysInMonth_leap (year month : ℕ) :
    daysInMonth year month = daysInMonth (if isLeap year then 4 else 1) month := by
  have four : isLeap 4 = true := by decide
  have one : isLeap 1 = false := by decide
  cases leap : isLeap year <;> simp [daysInMonth, leap, four, one]

theorem daysBeforeMonth_leap (year month : ℕ) :
    daysBeforeMonth year month = monthStart (isLeap year) month := by
  unfold daysBeforeMonth monthStart
  congr 1
  apply List.map_congr_left
  intro m _
  exact daysInMonth_leap year (m + 1)

/-- The month of a day of the year. -/
def monthOf (leap : Bool) (day : ℕ) : ℕ :=
  ((List.range 12).filter fun m => monthStart leap (m + 1) ≤ day).length

theorem monthOf_spec : ∀ leap : Bool, ∀ day < 366, (leap = true ∨ day < 365) →
    1 ≤ monthOf leap day ∧ monthOf leap day ≤ 12 ∧ monthStart leap (monthOf leap day) ≤ day
      ∧ day - monthStart leap (monthOf leap day) + 1 ≤ daysInMonth (if leap then 4 else 1) (monthOf leap day) := by
  decide +kernel

/-- A day of the calendar and its number. -/
structure Numbered (n : ℕ) (date : Date) : Prop where
  valid : date.valid = true
  number : ordinal date.year date.month date.day = n

theorem numbered_of_parts {a b c d day n : ℕ} (hb : b ≤ 3) (hc : c ≤ 24) (hd : d ≤ 3)
    (small : day < 366) (fits : (d = 3 ∧ (c ≠ 24 ∨ b = 3)) ∨ day < 365)
    (bounded : a * 400 + b * 100 + c * 4 + d + 1 ≤ 9999)
    (same : 146097 * a + 36524 * b + 1461 * c + 365 * d + day + 1 = n) :
    Numbered n
      ⟨a * 400 + b * 100 + c * 4 + d + 1,
        monthOf (isLeap (a * 400 + b * 100 + c * 4 + d + 1)) day,
        day - monthStart (isLeap (a * 400 + b * 100 + c * 4 + d + 1))
          (monthOf (isLeap (a * 400 + b * 100 + c * 4 + d + 1)) day) + 1⟩ := by
  have leap := isLeap_cycles (a := a) hb hc hd
  have before := daysBeforeYear_cycles (a := a) hb hc hd
  generalize year : a * 400 + b * 100 + c * 4 + d + 1 = y at *
  obtain ⟨low, high, started, inside⟩ := monthOf_spec (isLeap y) day small (by
    rcases fits with long | short
    · exact .inl (leap.trans (decide_eq_true long))
    · exact .inr short)
  constructor
  · simp only [Date.valid, Bool.and_eq_true, decide_eq_true_eq]
    refine ⟨⟨⟨⟨⟨by omega, bounded⟩, low⟩, high⟩, by omega⟩, ?_⟩
    rw [daysInMonth_leap]
    exact inside
  · rw [ordinal, daysBeforeMonth_leap]
    dsimp only
    rw [before]
    omega

/-- The last day of a leap year. -/
theorem numbered_yearEnd {a b c n : ℕ} (hb : b ≤ 3) (hc : c ≤ 24) (leap : c ≠ 24 ∨ b = 3)
    (bounded : a * 400 + b * 100 + c * 4 + 4 ≤ 9999)
    (same : 146097 * a + 36524 * b + 1461 * c + 1461 = n) :
    Numbered n ⟨a * 400 + b * 100 + c * 4 + 4, 12, 31⟩ := by
  have parts := @numbered_of_parts a b c 3 365 n hb hc le_rfl (by norm_num)
    (.inl ⟨rfl, leap⟩) bounded (by omega)
  have isLong : isLeap (a * 400 + b * 100 + c * 4 + 3 + 1) = true := by
    rw [isLeap_cycles hb hc le_rfl]
    exact decide_eq_true ⟨rfl, leap⟩
  have december : monthOf true 365 = 12 ∧ monthStart true 12 = 335 := by decide +kernel
  rw [isLong, december.1, december.2] at parts
  exact parts

/-- `fromordinal` inverts `toordinal` on the representable days. -/
theorem dateOfOrdinal_numbered {n : ℕ} (first : 1 ≤ n) (last : n ≤ 3652059) :
    Numbered n (dateOfOrdinal n) := by
  unfold dateOfOrdinal
  dsimp only
  generalize centuries : (n - 1) / 146097 = a
  generalize inCenturies : (n - 1) % 146097 = r400
  generalize century : r400 / 36524 = b
  generalize inCentury : r400 % 36524 = r100
  generalize quad : r100 / 1461 = c
  generalize inQuad : r100 % 1461 = r4
  generalize year : r4 / 365 = d
  split
  case isTrue final =>
    -- The last day of a leap year, of a 400-year cycle or of a four-year cycle.
    by_cases century : b = 4
    · have parts := numbered_yearEnd (a := a) (b := 3) (c := 24) (n := n) le_rfl le_rfl (.inr rfl)
        (by omega) (by omega)
      have shape : a * 400 + b * 100 + c * 4 + d + 1 - 1 = a * 400 + 3 * 100 + 24 * 4 + 4 := by omega
      rw [shape]
      exact parts
    · have parts := numbered_yearEnd (a := a) (b := b) (c := c) (n := n) (by omega) (by omega) (.inl (by omega))
        (by omega) (by omega)
      have shape : a * 400 + b * 100 + c * 4 + d + 1 - 1 = a * 400 + b * 100 + c * 4 + 4 := by omega
      rw [shape]
      exact parts
  case isFalse inner =>
    have parts := @numbered_of_parts a b c d (r4 % 365) n
      (by omega) (by omega) (by omega) (by omega) (.inr (by omega)) (by omega) (by omega)
    have months : ((List.range 12).filter fun m =>
        daysBeforeMonth (a * 400 + b * 100 + c * 4 + d + 1) (m + 1) ≤ r4 % 365).length
        = monthOf (isLeap (a * 400 + b * 100 + c * 4 + d + 1)) (r4 % 365) := by
      simp only [daysBeforeMonth_leap, monthOf]
    rw [months, daysBeforeMonth_leap]
    exact parts

/-! ## Text -/

theorem asciiDigit?_digitChar {d : ℕ} (small : d < 10) : asciiDigit? (NumberText.digitChar d) = some d := by
  interval_cases d <;> decide

theorem digitChar_ne {d : ℕ} (small : d < 10) {c : Char} (mark : c ∈ ['+', '-', 'Z', 'W', ':', '.']) :
    NumberText.digitChar d ≠ c := by
  simp only [List.mem_cons, List.not_mem_nil, or_false] at mark
  interval_cases d <;> rcases mark with rfl | rfl | rfl | rfl | rfl | rfl <;> decide

theorem parseDigits_digitText {ds : List ℕ} (digits : ∀ d ∈ ds, d < 10) (acc : ℕ) (rest : List Char) :
    parseDigits ds.length acc (NumberText.digitText ds ++ rest)
      = some (acc * 10 ^ ds.length + NumberText.ofDigits ds, rest) := by
  induction ds generalizing acc with
  | nil => simp [parseDigits, NumberText.digitText, NumberText.ofDigits]
  | cons d ds ih =>
    have head := asciiDigit?_digitChar (digits d List.mem_cons_self)
    have tail := ih (fun x member => digits x (List.mem_cons_of_mem d member)) (acc * 10 + d)
    have split : NumberText.ofDigits (d :: ds) = d * 10 ^ ds.length + NumberText.ofDigits ds := by
      have parts := NumberText.ofDigits_append [d] ds
      simpa [NumberText.ofDigits] using parts
    rw [List.length_cons, NumberText.digitText, List.map_cons, List.cons_append, parseDigits, head]
    simp only [Option.bind_eq_bind, Option.bind_some]
    rw [NumberText.digitText] at tail
    rw [tail, split]
    simp only [Option.some.injEq, Prod.mk.injEq, and_true]
    ring

/-- The digits of a padded number. -/
theorem padded_digits {width n : ℕ} (fits : n < 10 ^ width) (positive : 0 < width) :
    ∃ ds, padded width n = NumberText.digitText ds ∧ ds.length = width ∧ (∀ d ∈ ds, d < 10)
      ∧ NumberText.ofDigits ds = n := by
  have short : (NumberText.decimalDigits n).length ≤ width := by
    unfold NumberText.decimalDigits
    split
    · exact positive
    · rw [List.length_reverse]
      exact (Nat.digits_length_le_iff (by norm_num) n).mpr fits
  refine ⟨List.replicate (width - (NumberText.decimalDigits n).length) 0 ++ NumberText.decimalDigits n,
    ?_, ?_, ?_, ?_⟩
  · unfold padded
    simp [NumberText.natText, NumberText.digitText, NumberText.digitChar]
  · simp only [List.length_append, List.length_replicate]
    omega
  · intro d member
    rcases List.mem_append.mp member with zero | digit
    · rw [List.eq_of_mem_replicate zero]
      norm_num
    · exact NumberText.decimalDigits_lt n d digit
  · rw [NumberText.ofDigits_append, NumberText.ofDigits_replicate_zero, NumberText.ofDigits_decimalDigits]
    simp

theorem parseDigits_padded {width n : ℕ} (fits : n < 10 ^ width) (positive : 0 < width) (rest : List Char) :
    parseDigits width 0 (padded width n ++ rest) = some (n, rest) := by
  obtain ⟨ds, text, long, digits, same⟩ := padded_digits fits positive
  have read := parseDigits_digitText digits 0 rest
  rw [long, same] at read
  rw [text, read]
  simp

theorem padded_two {n : ℕ} (fits : n < 100) :
    ∃ c d, padded 2 n = [c, d] ∧ ∀ x ∈ [c, d], ∀ mark ∈ ['+', '-', 'Z', 'W', ':', '.'], x ≠ mark := by
  obtain ⟨ds, text, long, digits, -⟩ := @padded_digits 2 n fits (by norm_num)
  match ds, long with
  | [a, b], _ =>
    refine ⟨_, _, text, ?_⟩
    intro x member mark marked
    simp only [List.mem_cons, List.not_mem_nil, or_false] at member
    rcases member with rfl | rfl
    · exact digitChar_ne (digits a (by simp)) marked
    · exact digitChar_ne (digits b (by simp)) marked

theorem padded_four {n : ℕ} (fits : n < 10000) : ∃ a b c d, padded 4 n = [a, b, c, d] := by
  obtain ⟨ds, text, long, -, -⟩ := @padded_digits 4 n fits (by norm_num)
  match ds, long with
  | [a, b, c, d], _ => exact ⟨_, _, _, _, text⟩

theorem padded_marks {width n : ℕ} (fits : n < 10 ^ width) (positive : 0 < width) :
    ∀ x ∈ padded width n, ∀ mark ∈ ['+', '-', 'Z', 'W', ':', '.'], x ≠ mark := by
  obtain ⟨ds, text, -, digits, -⟩ := padded_digits fits positive
  intro x member mark marked
  rw [text] at member
  obtain ⟨d, inDigits, rfl⟩ := List.mem_map.mp member
  exact digitChar_ne (digits d inDigits) marked

theorem length_padded {width n : ℕ} (fits : n < 10 ^ width) (positive : 0 < width) :
    (padded width n).length = width := by
  obtain ⟨ds, text, long, -, -⟩ := padded_digits fits positive
  rw [text, NumberText.digitText, List.length_map, long]

/-! ## Reading a written time -/

theorem separatorLocation_date {date : Date} (valid : date.valid = true) (rest : List Char) :
    separatorLocation (dateText date ++ rest) = some 10 := by
  simp only [Date.valid, Bool.and_eq_true, decide_eq_true_eq] at valid
  obtain ⟨⟨⟨⟨⟨-, year⟩, -⟩, month⟩, -⟩, -⟩ := valid
  obtain ⟨a, b, c, d, yearText⟩ := padded_four (n := date.year) (by omega)
  obtain ⟨e, f, monthText, marks⟩ := padded_two (n := date.month) (by omega)
  have noWeek : e ≠ 'W' := marks e (by simp) 'W' (by simp)
  simp [separatorLocation, dateText, yearText, monthText, nth, noWeek]

theorem parseDate_date {date : Date} (valid : date.valid = true) (rest : List Char) (len : ℕ) :
    parseDate (dateText date ++ rest) len = some date := by
  have bounds := valid
  simp only [Date.valid, Bool.and_eq_true, decide_eq_true_eq] at bounds
  obtain ⟨⟨⟨⟨⟨-, year⟩, -⟩, month⟩, -⟩, day⟩ := bounds
  have days : date.day < 100 := by
    have longest : daysInMonth date.year date.month ≤ 31 := by
      unfold daysInMonth
      split_ifs <;> omega
    omega
  obtain ⟨e, f, monthText, marks⟩ := padded_two (n := date.month) (by omega)
  have noWeek : e ≠ 'W' := marks e (by simp) 'W' (by simp)
  have shape : dateText date ++ rest
      = padded 4 date.year ++ ('-' :: (padded 2 date.month ++ ('-' :: (padded 2 date.day ++ rest)))) := by
    simp [dateText]
  have monthRead := @parseDigits_padded 2 date.month (by omega) (by norm_num)
    ('-' :: (padded 2 date.day ++ rest))
  rw [monthText] at monthRead
  simp only [List.cons_append, List.nil_append] at monthRead
  rw [shape, parseDate, parseDigits_padded (by omega) (by norm_num)]
  simp only [Option.bind_eq_bind, Option.bind_some, List.head?_cons, if_true, List.drop_one,
    List.tail_cons, monthText, List.cons_append, List.nil_append, Option.some.injEq, noWeek, if_false,
    monthRead, true_and, not_true_eq_false, ne_eq]
  rw [parseDigits_padded (by omega) (by norm_num)]
  rfl

/-- The clock of a written time, without its zone. -/
def clockText (clock : Clock) : List Char :=
  padded 2 clock.hour ++ ':' :: (padded 2 clock.minute ++ ':' :: (padded 2 clock.second ++
    (if clock.microsecond = 0 then [] else '.' :: padded 6 clock.microsecond)))

structure Clock.Valid (clock : Clock) : Prop where
  hour : clock.hour ≤ 23
  minute : clock.minute ≤ 59
  second : clock.second ≤ 59
  microsecond : clock.microsecond < 1000000

theorem parseFraction_padded {clock : Clock} {n : ℕ} (fits : n < 1000000) (rest : List Char)
    (stop : rest.dropWhile (fun c => (asciiDigit? c).isSome) = rest) :
    parseFraction clock (padded 6 n ++ rest) 6 = some ({ clock with microsecond := n }, !rest.isEmpty) := by
  rw [parseFraction]
  dsimp only
  rw [show min 6 6 = 6 from rfl, parseDigits_padded fits (by norm_num)]
  simp [stop]

/-- A written clock is read back, and the zone after it is left. -/
theorem parseClock_written {clock : Clock} (valid : clock.Valid) (zone : List Char) (more : zone ≠ [])
    (stop : zone.dropWhile (fun c => (asciiDigit? c).isSome) = zone) :
    parseClock 3 true noClock (clockText clock ++ zone) (clockText clock).length = some (clock, true) := by
  have hour := valid.hour
  have minute := valid.minute
  have second := valid.second
  have micro := valid.microsecond
  have twoLong : ∀ n, n ≤ 59 → (padded 2 n).length = 2 := fun n small =>
    length_padded (by omega) (by norm_num)
  have notEmpty : zone.isEmpty = false := by simpa using more
  by_cases whole : clock.microsecond = 0
  · have long : (clockText clock).length = 8 := by
      simp [clockText, whole, twoLong clock.hour (by omega), twoLong clock.minute minute,
        twoLong clock.second second]
    have shape : clockText clock ++ zone = padded 2 clock.hour ++ (':' :: (padded 2 clock.minute ++
        (':' :: (padded 2 clock.second ++ zone)))) := by
      simp [clockText, whole]
    rw [long, shape, parseClock, parseDigits_padded (by omega) (by norm_num)]
    simp only [Option.bind_eq_bind, Option.bind_some, List.head?_cons, decide_true, if_true,
      Nat.reduceLeDiff, if_false, and_self, Nat.reduceSub]
    rw [parseClock, parseDigits_padded (by omega) (by norm_num)]
    simp only [Option.bind_eq_bind, Option.bind_some, Nat.reduceEqDiff, if_false, Nat.reduceLeDiff, and_self,
      if_true, Nat.reduceSub]
    rw [parseClock, parseDigits_padded (by omega) (by norm_num)]
    simp only [Option.bind_eq_bind, Option.bind_some, Nat.reduceLeDiff, if_true, notEmpty, Bool.not_false]
    obtain ⟨h, m, s, us⟩ := clock
    simp only at whole
    rw [whole]
    rfl
  · have long : (clockText clock).length = 15 := by
      simp [clockText, whole, twoLong clock.hour (by omega), twoLong clock.minute minute,
        twoLong clock.second second, @length_padded 6 clock.microsecond micro (by norm_num)]
    have shape : clockText clock ++ zone = padded 2 clock.hour ++ (':' :: (padded 2 clock.minute ++
        (':' :: (padded 2 clock.second ++ ('.' :: (padded 6 clock.microsecond ++ zone)))))) := by
      simp [clockText, whole]
    rw [long, shape, parseClock, parseDigits_padded (by omega) (by norm_num)]
    simp only [Option.bind_eq_bind, Option.bind_some, List.head?_cons, decide_true, if_true,
      Nat.reduceLeDiff, if_false, and_self, Nat.reduceSub]
    rw [parseClock, parseDigits_padded (by omega) (by norm_num)]
    simp only [Option.bind_eq_bind, Option.bind_some, Nat.reduceEqDiff, if_false, Nat.reduceLeDiff, and_self,
      if_true, Nat.reduceSub]
    rw [parseClock, parseDigits_padded (by omega) (by norm_num)]
    simp only [Option.bind_eq_bind, Option.bind_some, Nat.reduceLeDiff, if_false, Char.reduceEq, and_false,
      true_or, if_true, Nat.reduceSub]
    rw [parseFraction_padded micro zone stop, notEmpty]
    rfl

theorem clockText_marks {clock : Clock} (valid : clock.Valid) :
    ∀ c ∈ clockText clock, c ≠ '+' ∧ c ≠ '-' ∧ c ≠ 'Z' := by
  have hour := valid.hour
  have minute := valid.minute
  have second := valid.second
  have digits : ∀ width n, n < 10 ^ width → 0 < width → ∀ c ∈ padded width n, c ≠ '+' ∧ c ≠ '-' ∧ c ≠ 'Z' :=
    fun width n fits positive c member =>
      ⟨padded_marks fits positive c member '+' (by simp), padded_marks fits positive c member '-' (by simp),
        padded_marks fits positive c member 'Z' (by simp)⟩
  intro c member
  simp only [clockText, List.mem_append, List.mem_cons] at member
  rcases member with hours | rfl | minutes | rfl | seconds | fraction
  · exact digits 2 _ (by omega) (by norm_num) c hours
  · decide
  · exact digits 2 _ (by omega) (by norm_num) c minutes
  · decide
  · exact digits 2 _ (by omega) (by norm_num) c seconds
  · split at fraction
    · cases fraction
    · rcases List.mem_cons.mp fraction with rfl | fraction
      · decide
      · exact digits 6 _ valid.microsecond (by norm_num) c fraction

def utcZone : List Char := ['+', '0', '0', ':', '0', '0']

theorem utcZone_text : "+00:00".toList = utcZone := by decide

theorem parseTime_written {clock : Clock} (valid : clock.Valid) :
    parseTime (clockText clock ++ utcZone) = some (clock, some 0) := by
  have zoneAt : ((clockText clock ++ utcZone).takeWhile fun c => c ≠ '+' ∧ c ≠ '-' ∧ c ≠ 'Z').length
      = (clockText clock).length := by
    rw [List.takeWhile_append_of_pos]
    · simp [utcZone]
    · intro c member
      exact decide_eq_true (clockText_marks valid c member)
  have read := parseClock_written valid utcZone (by decide) (by decide)
  have zone : (clockText clock ++ utcZone).drop (clockText clock).length = ['+', '0', '0', ':', '0', '0'] := by
    rw [List.drop_left]
    rfl
  have utc : parseClock 3 true noClock ['0', '0', ':', '0', '0'] 5 = some (noClock, false) := by decide
  rw [parseTime]
  dsimp only
  rw [zoneAt, read]
  simp only [Option.bind_eq_bind, Option.bind_some, zone]
  change ((parseClock 3 true noClock ['0', '0', ':', '0', '0'] 5).bind fun offset =>
    if offset.2 = true then none
    else some (clock, some (zoneOffset ('+' = '-') offset.1))) = _
  rw [utc]
  rfl

/-- The clock of an instant. -/
def clockOf (t : ℤ) : Clock :=
  let micros := (t % dayMicros).toNat
  ⟨micros / 1000000 / 3600, micros / 1000000 / 60 % 60, micros / 1000000 % 60, micros % 1000000⟩

theorem clockOf_micros (t : ℤ) : (clockMicros (clockOf t) : ℤ) = t % 86400000000 := by
  have nonneg : 0 ≤ t % 86400000000 := Int.emod_nonneg t (by decide)
  have same : clockMicros (clockOf t) = (t % 86400000000).toNat := by
    simp only [clockMicros, clockOf, dayMicros]
    push_cast
    omega
  omega

theorem clockOf_valid (t : ℤ) : (clockOf t).Valid := by
  have below : t % 86400000000 < 86400000000 := Int.emod_lt_of_pos t (by decide)
  constructor <;> simp only [clockOf, dayMicros] <;> push_cast <;> omega

theorem isoformat_text (t : ℤ) :
    (isoformat t).toList = dateText (dateOf t) ++ ('T' :: (clockText (clockOf t) ++ utcZone)) := by
  rw [isoformat, String.toList_ofList]
  simp only [clockText, clockOf, utcZone_text, List.append_assoc, List.cons_append]
  rfl

/-- The representable UTC times. -/
def Representable (t : Instant) : Prop := minInstant ≤ t ∧ t < endInstant

theorem minInstant_eq : minInstant = -62135596800000000 := by decide +kernel

theorem endInstant_eq : endInstant = 253402300800000000 := by decide +kernel

theorem representable_days {t : ℤ} (inside : Representable t) :
    1 ≤ t / 86400000000 + 719163 ∧ t / 86400000000 + 719163 ≤ 3652059 := by
  have low : (-62135596800000000 : ℤ) ≤ t := minInstant_eq ▸ inside.1
  have high : t < 253402300800000000 := endInstant_eq ▸ inside.2
  omega

theorem dateOf_numbered {t : ℤ} (inside : Representable t) :
    Numbered (t / 86400000000 + 719163).toNat (dateOf t) := by
  have days := representable_days inside
  exact dateOfOrdinal_numbered (by omega) (by omega)

theorem length_dateText {date : Date} (valid : date.valid = true) : (dateText date).length = 10 := by
  have bounds := valid
  simp only [Date.valid, Bool.and_eq_true, decide_eq_true_eq] at bounds
  obtain ⟨⟨⟨⟨⟨-, year⟩, -⟩, month⟩, -⟩, day⟩ := bounds
  have days : daysInMonth date.year date.month ≤ 31 := by
    unfold daysInMonth
    split_ifs <;> omega
  simp [dateText, @length_padded 4 date.year (by omega) (by norm_num),
    @length_padded 2 date.month (by omega) (by norm_num),
    @length_padded 2 date.day (by omega) (by norm_num)]

/-- A date and a clock that were written are read back, with the offset of UTC. -/
theorem fromIsoformat_text {date : Date} {clock : Clock} {text : String} (dateValid : date.valid = true)
    (clockValid : clock.Valid)
    (written : text.toList = dateText date ++ ('T' :: (clockText clock ++ utcZone))) :
    fromIsoformat text = some ⟨date, clock, some 0⟩ := by
  have dateLong := length_dateText dateValid
  have location := separatorLocation_date dateValid ('T' :: (clockText clock ++ utcZone))
  have readDate := parseDate_date dateValid ('T' :: (clockText clock ++ utcZone)) 10
  have readTime := parseTime_written clockValid
  have afterDate : (dateText date ++ ('T' :: (clockText clock ++ utcZone))).drop 11
      = clockText clock ++ utcZone := by
    rw [show 11 = (dateText date).length + 1 by omega, List.drop_append]
    simp
  have long : 10 < (dateText date ++ ('T' :: (clockText clock ++ utcZone))).length := by
    simp only [List.length_append, List.length_cons, dateLong]
    omega
  have parsedValid : (⟨date, clock, some 0⟩ : Parsed).valid = true := by
    simp only [Parsed.valid, dateValid, Bool.true_and, Bool.and_eq_true, decide_eq_true_eq]
    exact ⟨⟨⟨clockValid.hour, clockValid.minute⟩, clockValid.second⟩, by decide⟩
  rw [fromIsoformat, written]
  generalize dateText date ++ ('T' :: (clockText clock ++ utcZone)) = cs at *
  dsimp only
  rw [if_neg (by omega), location]
  simp only [Option.bind_eq_bind, Option.bind_some, readDate, if_pos long, afterDate, readTime, parsedValid,
    if_true]
  rfl

theorem instant_of_parts {n : ℕ} {date : Date} {clock : Clock} {t : ℤ} (numbered : Numbered n date)
    (days : (n : ℤ) = t / 86400000000 + 719163) (micros : (clockMicros clock : ℤ) = t % 86400000000) :
    (⟨date, clock, some 0⟩ : Parsed).instant? = some t := by
  rw [Parsed.instant?, Option.map_some, numbered.number, micros, days]
  congr 1
  change (t / 86400000000 + 719163 - 719163) * 86400000000 + t % 86400000000 - 0 = t
  omega

/-- A UTC time that was written by `isoformat` is read back exactly. -/
theorem fromIsoformat_isoformat {t : ℤ} (inside : Representable t) :
    (fromIsoformat (isoformat t)).bind Parsed.instant? = some t := by
  have numbered := dateOf_numbered inside
  have days := representable_days inside
  rw [fromIsoformat_text numbered.valid (clockOf_valid t) (isoformat_text t), Option.bind_some]
  exact instant_of_parts numbered (by omega) (clockOf_micros t)

end BinancePlatform.Source.DateTime
