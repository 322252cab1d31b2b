import BinancePlatform.Source.Python

/-!
# Times

An aware time is its number of microseconds since the epoch. `fromIsoformat`
follows the interpreter's reader step by step, since stored documents and broker
responses may hold any text; `isoformat` is the writer for UTC times.
-/

set_option autoImplicit false

namespace BinancePlatform.Source
open BinancePlatform.Library

/-- Microseconds since 1970-01-01T00:00:00Z. -/
abbrev Instant := ℤ

namespace DateTime

def isLeap (year : ℕ) : Bool := year % 4 = 0 && (year % 100 ≠ 0 || year % 400 = 0)

def daysInMonth (year month : ℕ) : ℕ :=
  if month = 2 then (if isLeap year then 29 else 28)
  else if month = 4 ∨ month = 6 ∨ month = 9 ∨ month = 11 then 30 else 31

def daysBeforeYear (year : ℕ) : ℕ :=
  let y := year - 1
  y * 365 + y / 4 - y / 100 + y / 400

def daysBeforeMonth (year month : ℕ) : ℕ :=
  ((List.range (month - 1)).map fun m => daysInMonth year (m + 1)).sum

/-- `toordinal`: day one is 0001-01-01. -/
def ordinal (year month day : ℕ) : ℕ := daysBeforeYear year + daysBeforeMonth year month + day

def epochOrdinal : ℕ := 719163

structure Date where
  year : ℕ
  month : ℕ
  day : ℕ
  deriving DecidableEq, Repr

def Date.valid (date : Date) : Bool :=
  1 ≤ date.year && date.year ≤ 9999 && 1 ≤ date.month && date.month ≤ 12 && 1 ≤ date.day
    && date.day ≤ daysInMonth date.year date.month

/-- `fromordinal`: the year by its 400-, 100-, 4- and 1-year cycles, then the month. -/
def dateOfOrdinal (n : ℕ) : Date :=
  let n0 := n - 1
  let n400 := n0 / 146097
  let r400 := n0 % 146097
  let n100 := r400 / 36524
  let r100 := r400 % 36524
  let n4 := r100 / 1461
  let r4 := r100 % 1461
  let n1 := r4 / 365
  let year := n400 * 400 + n100 * 100 + n4 * 4 + n1 + 1
  if n1 = 4 ∨ n100 = 4 then ⟨year - 1, 12, 31⟩
  else
    let month := ((List.range 12).filter fun m => daysBeforeMonth year (m + 1) ≤ r4 % 365).length
    ⟨year, month, r4 % 365 - daysBeforeMonth year month + 1⟩

/-- Monday of the first ISO week. -/
def isoWeekOneMonday (year : ℕ) : ℕ :=
  let first := ordinal year 1 1
  let weekday := (first + 6) % 7
  if weekday > 3 then first - weekday + 7 else first - weekday

/-- `iso_to_ymd`; a year has a week 53 when it starts on a Thursday, or on a
Wednesday in a leap year. -/
def dateOfIsoWeek (year week day : ℕ) : Option Date :=
  if year < 1 ∨ 9999 < year then none
  else
    let firstWeekday := (ordinal year 1 1) % 7
    let long := firstWeekday = 4 ∨ (firstWeekday = 3 ∧ isLeap year = true)
    if week < 1 ∨ 53 < week ∨ (week = 53 ∧ ¬ long) then none
    else if day < 1 ∨ 7 < day then none
    else some (dateOfOrdinal (isoWeekOneMonday year + (week - 1) * 7 + (day - 1)))

def asciiDigit? (c : Char) : Option ℕ :=
  if '0' ≤ c ∧ c ≤ '9' then some (c.toNat - 48) else none

/-- `parse_digits`: exactly `count` digits. -/
def parseDigits : (count : ℕ) → ℕ → List Char → Option (ℕ × List Char)
  | 0, acc, cs => some (acc, cs)
  | _ + 1, _, [] => none
  | count + 1, acc, c :: cs => do
    let d ← asciiDigit? c
    parseDigits count (acc * 10 + d) cs

def nth (cs : List Char) (i : ℕ) : Char := cs.getD i '\x00'

def countDigits (cs : List Char) : ℕ := (cs.takeWhile fun c => (asciiDigit? c).isSome).length

/-- Where the date ends and the separator stands. -/
def separatorLocation (cs : List Char) : Option ℕ :=
  let len := cs.length
  if len = 7 then some 7
  else if nth cs 4 = '-' then
    if nth cs 5 = 'W' then
      if 8 < len ∧ nth cs 8 = '-' then
        if len = 9 then none
        else if 10 < len ∧ (asciiDigit? (nth cs 10)).isSome = true then some 8
        else some 10
      else some 8
    else some 10
  else if nth cs 4 = 'W' then
    let idx := 7 + countDigits (cs.drop 7)
    if idx < 9 then some idx else if idx % 2 = 0 then some 7 else some 8
  else some 8

def parseDate (cs : List Char) (len : ℕ) : Option Date := do
  let (year, rest) ← parseDigits 4 0 cs
  let separated := rest.head? = some '-'
  let rest := if separated then rest.drop 1 else rest
  if rest.head? = some 'W' then
    let (week, tail) ← parseDigits 2 0 (rest.drop 1)
    if cs.length - tail.length < len then
      if separated ∧ tail.head? ≠ some '-' then none
      else
        let (day, _) ← parseDigits 1 0 (if separated then tail.drop 1 else tail)
        dateOfIsoWeek year week day
    else dateOfIsoWeek year week 1
  else
    let (month, rest) ← parseDigits 2 0 rest
    if separated ∧ rest.head? ≠ some '-' then none
    else
      let (day, _) ← parseDigits 2 0 (if separated then rest.drop 1 else rest)
      return ⟨year, month, day⟩

structure Clock where
  hour : ℕ
  minute : ℕ
  second : ℕ
  microsecond : ℕ
  deriving DecidableEq, Repr

/-- The fraction, and whether text follows it. -/
def parseFraction (clock : Clock) (cs : List Char) (remains : ℕ) : Option (Clock × Bool) := do
  let count := min remains 6
  let (value, rest) ← parseDigits count 0 cs
  if count = 0 then none
  else
    let tail := rest.dropWhile fun c => (asciiDigit? c).isSome
    return ({ clock with microsecond := value * 10 ^ (6 - count) }, !tail.isEmpty)

/-- `parse_hh_mm_ss_ff`: reads from `cs` up to `remains` characters; the flag tells
that more text follows. `fields` counts the components still allowed. -/
def parseClock : (fields : ℕ) → (separated : Bool) → Clock → List Char → (remains : ℕ) →
    Option (Clock × Bool)
  | 0, _, clock, cs, remains => parseFraction clock cs remains
  | fields + 1, separated, clock, cs, remains => do
    let (value, rest) ← parseDigits 2 0 cs
    let clock := match fields with
      | 2 => { clock with hour := value }
      | 1 => { clock with minute := value }
      | _ => { clock with second := value }
    let separated := if fields = 2 then rest.head? = some ':' else separated
    if remains ≤ 3 then return (clock, !rest.isEmpty)
    else match rest with
      | [] => none
      | c :: tail =>
        if separated ∧ c = ':' then parseClock fields separated clock tail (remains - 3)
        else if c = '.' ∨ c = ',' then parseFraction clock tail (remains - 3)
        else if separated then none
        else parseClock fields separated clock rest (remains - 2)

structure Parsed where
  date : Date
  clock : Clock
  /-- Offset from UTC in microseconds; absent for a naive time. -/
  offset : Option ℤ
  deriving DecidableEq, Repr

def noClock : Clock := ⟨0, 0, 0, 0⟩

def clockMicros (clock : Clock) : ℕ :=
  ((clock.hour * 60 + clock.minute) * 60 + clock.second) * 1000000 + clock.microsecond

/-- The offset of a zone; one of less than a second is UTC. -/
def zoneOffset (negative : Bool) (zone : Clock) : ℤ :=
  if zone.hour = 0 ∧ zone.minute = 0 ∧ zone.second = 0 then 0
  else if negative then -(clockMicros zone : ℤ)
  else clockMicros zone

def parseTime (cs : List Char) : Option (Clock × Option ℤ) := do
  let zoneAt := (cs.takeWhile fun c => c ≠ '+' ∧ c ≠ '-' ∧ c ≠ 'Z').length
  let (clock, more) ← parseClock 3 true noClock cs zoneAt
  match cs.drop zoneAt with
  | [] => if more then none else return (clock, none)
  | 'Z' :: tail => if tail.isEmpty then return (clock, some 0) else none
  | sign :: tail =>
    let (zone, more) ← parseClock 3 true noClock tail tail.length
    if more then none
    else return (clock, some (zoneOffset (sign = '-') zone))

def dayMicros : ℕ := 86400000000

def Parsed.valid (parsed : Parsed) : Bool :=
  parsed.date.valid && parsed.clock.hour ≤ 23 && parsed.clock.minute ≤ 59
    && parsed.clock.second ≤ 59
    && (match parsed.offset with
        | some offset => offset.natAbs < dayMicros
        | none => true)

/-- `datetime.fromisoformat`. -/
def fromIsoformat (s : String) : Option Parsed := do
  let cs := s.toList
  if cs.length < 7 then none
  else
    let location ← separatorLocation cs
    let date ← parseDate cs location
    let (clock, offset) ← if location < cs.length then parseTime (cs.drop (location + 1))
      else some (noClock, none)
    let parsed : Parsed := ⟨date, clock, offset⟩
    if parsed.valid then return parsed else none

/-- The instant of an aware time. -/
def Parsed.instant? (parsed : Parsed) : Option Instant :=
  parsed.offset.map fun offset =>
    ((ordinal parsed.date.year parsed.date.month parsed.date.day : ℤ) - epochOrdinal) * dayMicros
      + clockMicros parsed.clock - offset

/-- Bounds of the representable UTC times. -/
def minInstant : Instant := (1 - (epochOrdinal : ℤ)) * dayMicros
def endInstant : Instant := ((ordinal 9999 12 31 : ℤ) + 1 - epochOrdinal) * dayMicros

def dayOf (t : Instant) : ℤ := t / dayMicros

def dateOf (t : Instant) : Date := dateOfOrdinal (dayOf t + epochOrdinal).toNat

def padded (width n : ℕ) : List Char :=
  let ds := NumberText.natText n
  List.replicate (width - ds.length) '0' ++ ds

def dateText (date : Date) : List Char :=
  padded 4 date.year ++ '-' :: padded 2 date.month ++ '-' :: padded 2 date.day

/-- `t.date().isoformat()`. -/
def dateIsoformat (t : Instant) : String := String.ofList (dateText (dateOf t))

/-- `t.isoformat()` of a UTC time. -/
def isoformat (t : Instant) : String :=
  let micros := (t % dayMicros).toNat
  let seconds := micros / 1000000
  let fraction := micros % 1000000
  String.ofList (dateText (dateOf t) ++ 'T' :: padded 2 (seconds / 3600) ++ ':' ::
    padded 2 (seconds / 60 % 60) ++ ':' :: padded 2 (seconds % 60) ++
    (if fraction = 0 then [] else '.' :: padded 6 fraction) ++ "+00:00".toList)

/-- `int(x)` of a float. -/
def truncate (x : ℚ) : ℤ := if 0 ≤ x then ⌊x⌋ else ⌈x⌉

/-- `int(t.timestamp() * 1000)`, with the two roundings of the float arithmetic. -/
def timestampMs (t : Instant) : ℤ :=
  truncate (Binary64.round (Binary64.round ((t : ℚ) / 1000000) * 1000))

/-- `datetime.fromtimestamp(ms / 1000, tz=utc)`: the fraction of the second is scaled as
a float and rounded half to even. -/
def fromTimestampMs (ms : ℤ) : Instant :=
  let seconds := Binary64.round ((ms : ℚ) / 1000)
  let whole := truncate seconds
  whole * 1000000 + roundHalfEven (Binary64.round ((seconds - whole) * 1000000))

theorem truncate_mono {x y : ℚ} (h : x ≤ y) : truncate x ≤ truncate y := by
  unfold truncate
  split_ifs with left right right
  · exact Int.floor_mono h
  · exact absurd (left.trans h) right
  · exact (Int.ceil_le.mpr (not_le.mp left).le).trans (Int.floor_nonneg.mpr right)
  · exact Int.ceil_mono h

/-- A later time has no earlier timestamp, whatever the float roundings do. -/
theorem timestampMs_mono {s t : Instant} (h : s ≤ t) : timestampMs s ≤ timestampMs t := by
  refine truncate_mono (Binary64.round_mono (mul_le_mul_of_nonneg_right (Binary64.round_mono ?_)
    (by norm_num)))
  exact div_le_div_of_nonneg_right (by exact_mod_cast h) (by norm_num)

end DateTime
end BinancePlatform.Source
