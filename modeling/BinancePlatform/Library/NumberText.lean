import BinancePlatform.Library.Decimal
import Mathlib.Data.Nat.Digits.Lemmas

/-!
# Numbers as text

Reading and printing of decimal numerals over character lists. `readNumber` is
the unsigned grammar shared by all readers: digits, an optional fraction, an
optional exponent. `print` is the scientific notation of decimal arithmetic;
`readSigned_print` is its round trip.
-/

set_option autoImplicit false

namespace BinancePlatform.Library
namespace NumberText

/-- Code points of the zeros of the decimal-digit blocks. -/
def digitZeros : List ℕ :=
  [0x30, 0x660, 0x6f0, 0x7c0, 0x966, 0x9e6, 0xa66, 0xae6, 0xb66, 0xbe6, 0xc66, 0xce6, 0xd66,
   0xde6, 0xe50, 0xed0, 0xf20, 0x1040, 0x1090, 0x17e0, 0x1810, 0x1946, 0x19d0, 0x1a80, 0x1a90,
   0x1b50, 0x1bb0, 0x1c40, 0x1c50, 0xa620, 0xa8d0, 0xa900, 0xa9d0, 0xa9f0, 0xaa50, 0xabf0,
   0xff10, 0x104a0, 0x10d30, 0x11066, 0x110f0, 0x11136, 0x111d0, 0x112f0, 0x11450, 0x114d0,
   0x11650, 0x116c0, 0x11730, 0x118e0, 0x11950, 0x11c50, 0x11d50, 0x11da0, 0x11f50, 0x16a60,
   0x16ac0, 0x16b50, 0x1d7ce, 0x1d7d8, 0x1d7e2, 0x1d7ec, 0x1d7f6, 0x1e140, 0x1e2f0, 0x1e4f0,
   0x1e950, 0x1fbf0]

def isSpace (c : Char) : Bool :=
  let n := c.toNat
  (0x9 ≤ n && n ≤ 0xd) || (0x1c ≤ n && n ≤ 0x20) || n = 0x85 || n = 0xa0 || n = 0x1680
    || (0x2000 ≤ n && n ≤ 0x200a) || n = 0x2028 || n = 0x2029 || n = 0x202f || n = 0x205f
    || n = 0x3000

def digitOf? (c : Char) : Option ℕ :=
  (digitZeros.find? fun z => z ≤ c.toNat && c.toNat ≤ z + 9).map fun z => c.toNat - z

def digitChar (d : ℕ) : Char := Char.ofNat (48 + d)

def strip (cs : List Char) : List Char :=
  ((cs.dropWhile isSpace).reverse.dropWhile isSpace).reverse

def lower (c : Char) : Char := if 'A' ≤ c ∧ c ≤ 'Z' then Char.ofNat (c.toNat + 32) else c

def takeDigits : List Char → List ℕ × List Char
  | [] => ([], [])
  | c :: rest =>
    match digitOf? c with
    | some d => (d :: (takeDigits rest).1, (takeDigits rest).2)
    | none => ([], c :: rest)

def ofDigits (ds : List ℕ) : ℕ := ds.foldl (fun n d => 10 * n + d) 0

def readSign : List Char → Bool × List Char
  | '-' :: rest => (true, rest)
  | '+' :: rest => (false, rest)
  | cs => (false, cs)

/-- The empty text is exponent zero. -/
def readExponent : List Char → Option ℤ
  | [] => some 0
  | c :: rest =>
    if lower c = 'e' then
      let (negative, body) := readSign rest
      match takeDigits body with
      | ([], _) => none
      | (ds, []) => some (if negative then -(ofDigits ds : ℤ) else ofDigits ds)
      | (_, _ :: _) => none
    else none

def readFraction : List Char → List ℕ × List Char
  | '.' :: rest => takeDigits rest
  | cs => ([], cs)

/-- Coefficient and exponent of an unsigned numeral. -/
def readNumber (cs : List Char) : Option (ℕ × ℤ) :=
  let (whole, afterWhole) := takeDigits cs
  let (frac, tail) := readFraction afterWhole
  if whole ++ frac = [] then none
  else (readExponent tail).map fun e => (ofDigits (whole ++ frac), e - frac.length)

inductive Numeral where
  | finite (d : Decimal)
  | infinite (negative : Bool)
  | nan
  deriving DecidableEq, Repr

def readSigned (cs : List Char) : Option Numeral :=
  let (negative, body) := readSign cs
  let word := body.map lower
  if word = "inf".toList ∨ word = "infinity".toList then some (.infinite negative)
  else if word = "nan".toList then some .nan
  else (readNumber body).map fun (c, e) => .finite ⟨negative, c, e⟩

/-- The text a decimal constructor reads: surrounding spaces and all underscores
are dropped, and a NaN may carry digits. -/
def readDecimal (cs : List Char) : Option Numeral :=
  let text := (strip cs).filter fun c => c ≠ '_'
  let word := (readSign text).2.map lower
  let payload := if word.take 1 = ['s'] then word.drop 1 else word
  if payload.take 3 = "nan".toList ∧ (takeDigits (payload.drop 3)).2 = [] then some .nan
  else readSigned text

/-- An underscore may only stand between two digits. -/
def underscoresPlaced : (afterDigit : Bool) → List Char → Bool
  | _, [] => true
  | afterDigit, c :: rest =>
    if c = '_' then
      match rest with
      | [] => false
      | d :: tail => afterDigit && (digitOf? d).isSome && underscoresPlaced true tail
    else underscoresPlaced (digitOf? c).isSome rest

/-- The text a binary floating-point constructor reads. -/
def readFloat (cs : List Char) : Option Numeral :=
  let text := strip cs
  if underscoresPlaced false text then readSigned (text.filter fun c => c ≠ '_') else none

def decimalDigits (n : ℕ) : List ℕ := if n = 0 then [0] else (Nat.digits 10 n).reverse

def digitText (ds : List ℕ) : List Char := ds.map digitChar

def natText (n : ℕ) : List Char := digitText (decimalDigits n)

def intText (n : ℤ) : List Char := if n < 0 then '-' :: natText n.natAbs else natText n.natAbs

def signText (negative : Bool) : List Char := if negative then ['-'] else []

def exponentText (e : ℤ) : List Char :=
  'E' :: (if e < 0 then '-' else '+') :: natText e.natAbs

/-- Digits with the decimal point after the first `point` of them. -/
def pointed (ds : List ℕ) (point : ℤ) : List Char :=
  if point ≤ 0 then
    digitChar 0 :: '.' :: digitText (List.replicate (-point).toNat 0 ++ ds)
  else if (ds.length : ℤ) ≤ point then
    digitText (ds ++ List.replicate (point - ds.length).toNat 0)
  else digitText (ds.take point.toNat) ++ '.' :: digitText (ds.drop point.toNat)

/-- Scientific notation: plain when the exponent is at most zero and at most five
zeros follow the point, else one digit before the point and an exponent. -/
def print (d : Decimal) : List Char :=
  let ds := decimalDigits d.coeff
  let left := d.exp + ds.length
  signText d.negative ++
    (if d.exp ≤ 0 ∧ -6 < left then pointed ds left
     else pointed ds 1 ++ exponentText (left - 1))

/-- Positional notation without an exponent. -/
def printPlain (d : Decimal) : List Char :=
  let ds := decimalDigits d.coeff
  signText d.negative ++
    (if 0 ≤ d.exp then
      (if d.coeff = 0 then natText 0 else digitText (ds ++ List.replicate d.exp.toNat 0))
     else pointed ds (d.exp + ds.length))

theorem decimalDigits_ne_nil (n : ℕ) : decimalDigits n ≠ [] := by
  unfold decimalDigits
  split
  · simp
  · simpa [Nat.digits_ne_nil_iff_ne_zero]

theorem pointed_ne_nil {ds : List ℕ} (nonempty : ds ≠ []) (point : ℤ) : pointed ds point ≠ [] := by
  unfold pointed
  split_ifs
  · simp
  · simp [digitText, nonempty]
  · simp

/-! ## Round trip -/

theorem digitOf?_digitChar {d : ℕ} (h : d < 10) : digitOf? (digitChar d) = some d := by
  interval_cases d <;> decide

theorem takeDigits_digitText {ds : List ℕ} (digits : ∀ d ∈ ds, d < 10) {rest : List Char}
    (stop : takeDigits rest = ([], rest)) :
    takeDigits (digitText ds ++ rest) = (ds, rest) := by
  induction ds with
  | nil => exact stop
  | cons d tail ih =>
    have head := digitOf?_digitChar (digits d List.mem_cons_self)
    have step := ih fun x member => digits x (List.mem_cons_of_mem d member)
    rw [digitText, List.map_cons, List.cons_append, takeDigits, head]
    simp only [digitText] at step
    simp only [step]

theorem ofDigits_append (ds es : List ℕ) :
    ofDigits (ds ++ es) = ofDigits ds * 10 ^ es.length + ofDigits es := by
  induction es using List.reverseRecOn with
  | nil => simp [ofDigits]
  | append_singleton es e ih =>
    have last : ∀ xs : List ℕ, ofDigits (xs ++ [e]) = 10 * ofDigits xs + e := by
      simp [ofDigits]
    rw [← List.append_assoc, last, last, ih, List.length_append, List.length_singleton, pow_succ]
    ring

@[simp] theorem ofDigits_replicate_zero (k : ℕ) : ofDigits (List.replicate k 0) = 0 := by
  induction k with
  | zero => rfl
  | succ k ih =>
    rw [List.replicate_succ, show (0 :: List.replicate k 0 : List ℕ) = [0] ++ List.replicate k 0 from rfl,
      ofDigits_append, ih]
    simp [ofDigits]

theorem ofDigits_decimalDigits (n : ℕ) : ofDigits (decimalDigits n) = n := by
  unfold decimalDigits
  split
  case isTrue zero => simp [ofDigits, zero]
  case isFalse nonzero =>
    rw [ofDigits, List.foldl_reverse]
    conv_rhs => rw [← Nat.ofDigits_digits 10 n, Nat.ofDigits_eq_foldr]
    simp [add_comm]

theorem decimalDigits_lt (n : ℕ) : ∀ d ∈ decimalDigits n, d < 10 := by
  intro d member
  unfold decimalDigits at member
  split at member
  · simp only [List.mem_singleton] at member
    omega
  · exact Nat.digits_lt_base (by norm_num) (List.mem_reverse.mp member)

theorem readExponent_exponentText (e : ℤ) : readExponent (exponentText e) = some e := by
  have digits : takeDigits (digitText (decimalDigits e.natAbs) ++ [])
      = (decimalDigits e.natAbs, []) := takeDigits_digitText (decimalDigits_lt e.natAbs) rfl
  rw [List.append_nil] at digits
  have shape := ofDigits_decimalDigits e.natAbs
  obtain ⟨d, rest, split⟩ := List.exists_cons_of_ne_nil (decimalDigits_ne_nil e.natAbs)
  rw [split] at digits shape
  by_cases negative : e < 0
  · simp only [exponentText, readExponent, natText, split, if_pos negative, readSign, digits, shape]
    simp [lower, abs_of_neg negative]
  · simp only [exponentText, readExponent, natText, split, if_neg negative, readSign, digits, shape]
    simp [lower, abs_of_nonneg (not_lt.mp negative)]

/-- A tail that ends the digits and spells the exponent `e`. -/
structure ExponentTail (tail : List Char) (e : ℤ) : Prop where
  stop : takeDigits tail = ([], tail)
  noPoint : readFraction tail = ([], tail)
  reads : readExponent tail = some e

theorem exponentTail_nil : ExponentTail [] 0 := ⟨rfl, rfl, rfl⟩

theorem exponentTail_exponentText (e : ℤ) : ExponentTail (exponentText e) e := by
  refine ⟨?_, rfl, readExponent_exponentText e⟩
  have letter : digitOf? 'E' = none := by decide
  rw [exponentText, takeDigits, letter]

theorem readNumber_parts (whole frac : List ℕ) {tail : List Char} {e : ℤ}
    (wholeDigits : ∀ d ∈ whole, d < 10) (fracDigits : ∀ d ∈ frac, d < 10)
    (nonempty : whole ++ frac ≠ []) (exponent : ExponentTail tail e) :
    readNumber (digitText whole ++ '.' :: (digitText frac ++ tail))
      = some (ofDigits (whole ++ frac), e - frac.length) := by
  have point : digitOf? '.' = none := by decide
  have stopAtPoint : takeDigits ('.' :: (digitText frac ++ tail))
      = ([], '.' :: (digitText frac ++ tail)) := by rw [takeDigits, point]
  rw [readNumber, takeDigits_digitText wholeDigits stopAtPoint]
  simp only [readFraction, takeDigits_digitText fracDigits exponent.stop, if_neg nonempty,
    exponent.reads, Option.map_some]

theorem readNumber_whole {ds : List ℕ} {tail : List Char} {e : ℤ} (digits : ∀ d ∈ ds, d < 10)
    (nonempty : ds ≠ []) (exponent : ExponentTail tail e) :
    readNumber (digitText ds ++ tail) = some (ofDigits ds, e) := by
  rw [readNumber, takeDigits_digitText digits exponent.stop]
  simp [exponent.noPoint, exponent.reads, nonempty]

theorem readNumber_pointed {ds : List ℕ} {tail : List Char} {e : ℤ} (point : ℤ)
    (digits : ∀ d ∈ ds, d < 10) (nonempty : ds ≠ []) (exponent : ExponentTail tail e)
    (inside : point ≤ ds.length) :
    readNumber (pointed ds point ++ tail) = some (ofDigits ds, e - (ds.length - point)) := by
  unfold pointed
  split_ifs with before after
  · have padded : ∀ d ∈ List.replicate (-point).toNat 0 ++ ds, d < 10 := by
      intro d member
      rcases List.mem_append.mp member with zero | digit
      · rw [List.eq_of_mem_replicate zero]
        norm_num
      · exact digits d digit
    have read := readNumber_parts [0] _ (by simp) padded (by simp) exponent
    simp only [digitText, List.map_cons, List.map_nil, List.cons_append, List.nil_append] at read ⊢
    rw [read, show (0 :: (List.replicate (-point).toNat 0 ++ ds) : List ℕ)
      = List.replicate ((-point).toNat + 1) 0 ++ ds from rfl, ofDigits_append,
      ofDigits_replicate_zero]
    simp only [List.length_append, List.length_replicate, zero_mul, zero_add, Option.some.injEq,
      Prod.mk.injEq, true_and]
    push_cast
    omega
  · have same : point = ds.length := by omega
    subst same
    simpa using readNumber_whole digits nonempty exponent
  · have read := readNumber_parts (ds.take point.toNat) (ds.drop point.toNat)
      (fun d member => digits d (List.mem_of_mem_take member))
      (fun d member => digits d (List.mem_of_mem_drop member)) (by simpa using nonempty) exponent
    rw [List.append_assoc, List.cons_append, read, List.take_append_drop, List.length_drop]
    simp only [Option.some.injEq, Prod.mk.injEq, true_and]
    omega

/-- The characters of a printed numeral. -/
def Printed (c : Char) : Prop := (∃ d < 10, c = digitChar d) ∨ c ∈ ['.', '-', '+', 'E']

theorem Printed.not_space {c : Char} (h : Printed c) : isSpace c = false := by
  rcases h with ⟨d, small, rfl⟩ | mark
  · interval_cases d <;> decide
  · simp only [List.mem_cons, List.not_mem_nil, or_false] at mark
    rcases mark with rfl | rfl | rfl | rfl <;> decide

theorem Printed.ne_underscore {c : Char} (h : Printed c) : c ≠ '_' := by
  rcases h with ⟨d, small, rfl⟩ | mark
  · interval_cases d <;> decide
  · simp only [List.mem_cons, List.not_mem_nil, or_false] at mark
    rcases mark with rfl | rfl | rfl | rfl <;> decide

theorem printed_digitText {ds : List ℕ} (digits : ∀ d ∈ ds, d < 10) :
    ∀ c ∈ digitText ds, Printed c := by
  intro c member
  obtain ⟨d, inDigits, rfl⟩ := List.mem_map.mp member
  exact .inl ⟨d, digits d inDigits, rfl⟩

theorem printed_exponentText (e : ℤ) : ∀ c ∈ exponentText e, Printed c := by
  have digits := printed_digitText (decimalDigits_lt e.natAbs)
  intro c member
  unfold exponentText at member
  rcases List.mem_cons.mp member with rfl | member
  · exact .inr (by decide)
  rcases List.mem_cons.mp member with rfl | member
  · exact .inr (by split <;> decide)
  · exact digits c member

theorem printed_pointed {ds : List ℕ} (digits : ∀ d ∈ ds, d < 10) (point : ℤ) :
    ∀ c ∈ pointed ds point, Printed c := by
  have padded : ∀ k, ∀ d ∈ List.replicate k 0 ++ ds, d < 10 := by
    intro k d member
    rcases List.mem_append.mp member with zero | digit
    · rw [List.eq_of_mem_replicate zero]
      norm_num
    · exact digits d digit
  intro c member
  unfold pointed at member
  split_ifs at member
  · rcases List.mem_cons.mp member with rfl | member
    · exact .inl ⟨0, by norm_num, rfl⟩
    rcases List.mem_cons.mp member with rfl | member
    · exact .inr (by decide)
    · exact printed_digitText (padded _) c member
  · refine printed_digitText ?_ c member
    intro d inDigits
    exact padded _ d (List.mem_append.mpr (List.mem_append.mp inDigits).symm)
  · rcases List.mem_append.mp member with member | member
    · exact printed_digitText (fun d h => digits d (List.mem_of_mem_take h)) c member
    rcases List.mem_cons.mp member with rfl | member
    · exact .inr (by decide)
    · exact printed_digitText (fun d h => digits d (List.mem_of_mem_drop h)) c member

theorem head_pointed {ds : List ℕ} (digits : ∀ d ∈ ds, d < 10) (nonempty : ds ≠ []) (point : ℤ) :
    ∃ d < 10, ∃ rest, pointed ds point = digitChar d :: rest := by
  obtain ⟨d, tail, rfl⟩ := List.exists_cons_of_ne_nil nonempty
  have small := digits d List.mem_cons_self
  unfold pointed
  split_ifs with before after
  · exact ⟨0, by norm_num, _, rfl⟩
  · exact ⟨d, small, _, rfl⟩
  · obtain ⟨k, hk⟩ : ∃ k, point.toNat = k + 1 := ⟨point.toNat - 1, by omega⟩
    exact ⟨d, small, _, by rw [hk, List.take_succ_cons]; rfl⟩

theorem strip_eq_self {cs : List Char} (h : ∀ c ∈ cs, isSpace c = false) : strip cs = cs := by
  have keep : ∀ xs : List Char, (∀ c ∈ xs, isSpace c = false) → xs.dropWhile isSpace = xs := by
    intro xs nonspace
    cases xs with
    | nil => rfl
    | cons c rest => exact List.dropWhile_cons_of_neg (by simp [nonspace c List.mem_cons_self])
  rw [strip, keep cs h, keep cs.reverse (fun c member => h c (List.mem_reverse.mp member)),
    List.reverse_reverse]

theorem readDecimal_printed {negative : Bool} (body : List Char) {d : ℕ} {rest : List Char}
    (small : d < 10) (head : body = digitChar d :: rest) (printed : ∀ c ∈ body, Printed c) :
    readDecimal (signText negative ++ body)
      = (readNumber body).map fun (c, e) => .finite ⟨negative, c, e⟩ := by
  have allPrinted : ∀ c ∈ signText negative ++ body, Printed c := by
    intro c member
    rcases List.mem_append.mp member with sign | inBody
    · cases negative with
      | false => cases sign
      | true => exact .inr (by simp_all [signText])
    · exact printed c inBody
  have stripped : strip (signText negative ++ body) = signText negative ++ body :=
    strip_eq_self fun c member => (allPrinted c member).not_space
  have unscored : (signText negative ++ body).filter (fun c => c ≠ '_')
      = signText negative ++ body :=
    List.filter_eq_self.mpr fun c member => by simpa using (allPrinted c member).ne_underscore
  have signed : readSign (signText negative ++ body) = (negative, body) := by
    subst head
    cases negative with
    | true => rfl
    | false => interval_cases d <;> rfl
  have noWord : ∀ w : Char, w ∈ ['s', 'n', 'i'] → lower (digitChar d) ≠ w := by
    intro w member
    simp only [List.mem_cons, List.not_mem_nil, or_false] at member
    rcases member with rfl | rfl | rfl <;> interval_cases d <;> decide
  have letters : ∀ w ws, w ∈ ['s', 'n', 'i'] → ∀ k, (body.map lower).take (k + 1) ≠ w :: ws := by
    intro w ws member k same
    rw [head] at same
    exact noWord w member (List.cons.inj same).1
  have whole : ∀ w ws, w ∈ ['s', 'n', 'i'] → body.map lower ≠ w :: ws := by
    intro w ws member same
    rw [head] at same
    exact noWord w member (List.cons.inj same).1
  simp only [readDecimal, stripped, unscored, signed, readSigned]
  rw [if_neg (letters 's' [] (by decide) 0), if_neg fun nan => letters 'n' _ (by decide) 2 nan.1,
    if_neg, if_neg (show body.map lower ≠ "nan".toList from whole 'n' _ (by decide))]
  rintro (inf | infinity)
  · exact whole 'i' _ (by decide) inf
  · exact whole 'i' _ (by decide) infinity

theorem readDecimal_print (d : Decimal) : readDecimal (print d) = some (.finite d) := by
  have digits := decimalDigits_lt d.coeff
  have nonempty := decimalDigits_ne_nil d.coeff
  have positive := List.length_pos_iff.mpr nonempty
  have coeff := ofDigits_decimalDigits d.coeff
  unfold print
  dsimp only
  split_ifs with plain
  · obtain ⟨first, small, rest, head⟩ :=
      head_pointed digits nonempty (d.exp + (decimalDigits d.coeff).length)
    rw [readDecimal_printed _ small head (printed_pointed digits _)]
    have read := readNumber_pointed (d.exp + (decimalDigits d.coeff).length) digits nonempty
      exponentTail_nil (by omega)
    rw [List.append_nil, coeff] at read
    have exponent : (0 : ℤ) - ((decimalDigits d.coeff).length
        - (d.exp + (decimalDigits d.coeff).length)) = d.exp := by ring
    rw [read, Option.map_some, exponent]
  · obtain ⟨first, small, rest, head⟩ := head_pointed digits nonempty 1
    rw [readDecimal_printed (pointed _ 1 ++ _) small (by rw [head]; rfl)]
    · have exponent : d.exp + (decimalDigits d.coeff).length - 1
          - ((decimalDigits d.coeff).length - 1) = d.exp := by ring
      rw [readNumber_pointed 1 digits nonempty (exponentTail_exponentText _) (by omega), coeff,
        Option.map_some, exponent]
    · intro c member
      rcases List.mem_append.mp member with member | member
      · exact printed_pointed digits _ c member
      · exact printed_exponentText _ c member

/-- The decimal that positional notation denotes, with no positive exponent. -/
def plain (d : Decimal) : Decimal :=
  if 0 ≤ d.exp then ⟨d.negative, d.coeff * 10 ^ d.exp.toNat, 0⟩ else d

theorem value_plain (d : Decimal) : (plain d).value = d.value := by
  unfold plain
  split
  · rename_i natural
    have exponent : (10 : ℚ) ^ d.exp = 10 ^ d.exp.toNat := by
      rw [← zpow_natCast, Int.toNat_of_nonneg natural]
    rw [Decimal.value, Decimal.value, Decimal.signed, Decimal.signed, exponent]
    cases d.negative <;> simp
  · rfl

theorem ofDigits_append_zeros (ds : List ℕ) (k : ℕ) :
    ofDigits (ds ++ List.replicate k 0) = ofDigits ds * 10 ^ k := by
  rw [ofDigits_append, ofDigits_replicate_zero, List.length_replicate, add_zero]

theorem readDecimal_printPlain (d : Decimal) :
    readDecimal (printPlain d) = some (.finite (plain d)) := by
  have digits := decimalDigits_lt d.coeff
  have nonempty := decimalDigits_ne_nil d.coeff
  have positive := List.length_pos_iff.mpr nonempty
  have coeff := ofDigits_decimalDigits d.coeff
  unfold printPlain plain
  dsimp only
  split_ifs with natural zero
  · rw [zero, zero_mul]
    cases d.negative <;> rfl
  · obtain ⟨first, tail, list⟩ := List.exists_cons_of_ne_nil nonempty
    have small : first < 10 := digits first (list ▸ List.mem_cons_self)
    have padded : ∀ n ∈ decimalDigits d.coeff ++ List.replicate d.exp.toNat 0, n < 10 := by
      intro n member
      rcases List.mem_append.mp member with digit | zero
      · exact digits n digit
      · rw [List.eq_of_mem_replicate zero]
        norm_num
    rw [readDecimal_printed _ small (by rw [list]; rfl) (printed_digitText padded)]
    have read := readNumber_whole padded (by simp [nonempty]) exponentTail_nil
    rw [List.append_nil, ofDigits_append_zeros, coeff] at read
    rw [read]
    rfl
  · obtain ⟨first, small, rest, head⟩ :=
      head_pointed digits nonempty (d.exp + (decimalDigits d.coeff).length)
    rw [readDecimal_printed _ small head (printed_pointed digits _)]
    have read := readNumber_pointed (d.exp + (decimalDigits d.coeff).length) digits nonempty
      exponentTail_nil (by omega)
    rw [List.append_nil, coeff] at read
    have exponent : (0 : ℤ) - ((decimalDigits d.coeff).length
        - (d.exp + (decimalDigits d.coeff).length)) = d.exp := by ring
    rw [read, Option.map_some, exponent]

end NumberText
end BinancePlatform.Library
