import BinancePlatform.Library.NumberText

/-!
# Numbers spelled with point and power

The grammar of a written number: digits with no needless zero in front, a point with
the digits behind it, and a power of ten, the last two as far as given. Such a text
is read as the decimal it denotes.
-/

set_option autoImplicit false

namespace BinancePlatform.Library
namespace NumberText

/-- `e`, the sign and at least two digits. -/
def powerText (k : ℤ) : List Char :=
  'e' :: (if k < 0 then '-' else '+') ::
    (if k.natAbs < 10 then '0' :: natText k.natAbs else natText k.natAbs)

def fracText (frac : List ℕ) : List Char := if frac = [] then [] else '.' :: digitText frac

def powerTail (power : Option ℤ) : List Char := power.elim [] powerText

/-- Digits, then a point with the digits behind it, then a power of ten, as far as given. -/
def spelled (whole frac : List ℕ) (power : Option ℤ) : List Char :=
  digitText whole ++ (fracText frac ++ powerTail power)

/-- Digits with no needless zero in front. -/
structure Leading (whole : List ℕ) : Prop where
  digits : ∀ d ∈ whole, d < 10
  lead : whole = [0] ∨ ∃ d rest, whole = d :: rest ∧ d ≠ 0

theorem Leading.nonempty {whole : List ℕ} (leading : Leading whole) : whole ≠ [] := by
  rcases leading.lead with rfl | ⟨d, rest, rfl, -⟩ <;> simp

theorem leading_decimalDigits (n : ℕ) : Leading (decimalDigits n) := by
  refine ⟨decimalDigits_lt n, ?_⟩
  unfold decimalDigits
  split
  case isTrue => exact .inl rfl
  case isFalse nonzero =>
    right
    have some : Nat.digits 10 n ≠ [] := Nat.digits_ne_nil_iff_ne_zero.mpr nonzero
    refine ⟨(Nat.digits 10 n).getLast some, (Nat.digits 10 n).dropLast.reverse, ?_,
      Nat.getLast_digit_ne_zero 10 nonzero⟩
    conv_lhs => rw [← List.dropLast_append_getLast some]
    simp

/-- The digits of a power. -/
def powerDigits (k : ℤ) : List ℕ :=
  if k.natAbs < 10 then 0 :: decimalDigits k.natAbs else decimalDigits k.natAbs

theorem powerText_eq (k : ℤ) :
    powerText k = 'e' :: (if k < 0 then '-' else '+') :: digitText (powerDigits k) := by
  by_cases small : k.natAbs < 10
  · simp only [powerText, powerDigits, if_pos small]
    rfl
  · simp only [powerText, powerDigits, if_neg small]
    rfl

theorem powerDigits_spec (k : ℤ) : (∀ d ∈ powerDigits k, d < 10) ∧ powerDigits k ≠ []
    ∧ ofDigits (powerDigits k) = k.natAbs := by
  have digits := decimalDigits_lt k.natAbs
  have value := ofDigits_decimalDigits k.natAbs
  unfold powerDigits
  split
  · refine ⟨List.forall_mem_cons.mpr ⟨by norm_num, digits⟩, by simp, ?_⟩
    rw [← List.singleton_append, ofDigits_append, value]
    simp [ofDigits]
  · exact ⟨digits, decimalDigits_ne_nil _, value⟩

theorem readExponent_powerText (k : ℤ) : readExponent (powerText k) = some k := by
  obtain ⟨digits, nonempty, value⟩ := powerDigits_spec k
  have taken : takeDigits (digitText (powerDigits k)) = (powerDigits k, []) := by
    simpa using @takeDigits_digitText (powerDigits k) digits [] rfl
  rw [powerText_eq]
  obtain ⟨d, rest, split⟩ := List.exists_cons_of_ne_nil nonempty
  rw [split] at taken value ⊢
  by_cases negative : k < 0
  · simp only [readExponent, if_pos negative, readSign, taken, value]
    simp [lower, abs_of_neg negative]
  · simp only [readExponent, if_neg negative, readSign, taken, value]
    simp [lower, abs_of_nonneg (not_lt.mp negative)]

theorem exponentTail_powerTail (power : Option ℤ) :
    ExponentTail (powerTail power) (power.getD 0) := by
  cases power with
  | none => exact exponentTail_nil
  | some k =>
    refine ⟨?_, rfl, readExponent_powerText k⟩
    have letter : digitOf? 'e' = none := by decide
    rw [powerTail, Option.elim_some, powerText, takeDigits, letter]

theorem readNumber_spelled {whole frac : List ℕ} (leading : Leading whole)
    (fracDigits : ∀ d ∈ frac, d < 10) (power : Option ℤ) :
    readNumber (spelled whole frac power)
      = some (ofDigits (whole ++ frac), power.getD 0 - frac.length) := by
  have tail := exponentTail_powerTail power
  unfold spelled fracText
  split
  case isTrue none =>
    subst none
    simpa using readNumber_whole leading.digits leading.nonempty tail
  case isFalse =>
    exact readNumber_parts whole frac leading.digits fracDigits (by simp [leading.nonempty]) tail

/-! ## The characters -/

theorem mem_spelled {whole frac : List ℕ} (leading : Leading whole) (fracDigits : ∀ d ∈ frac, d < 10)
    (power : Option ℤ) : ∀ c ∈ spelled whole frac power,
      (∃ d < 10, c = digitChar d) ∨ c ∈ ['.', '-', '+', 'e'] := by
  have digit : ∀ ds : List ℕ, (∀ d ∈ ds, d < 10) → ∀ c ∈ digitText ds, ∃ d < 10, c = digitChar d := by
    intro ds small c member
    obtain ⟨d, inDigits, rfl⟩ := List.mem_map.mp member
    exact ⟨d, small d inDigits, rfl⟩
  intro c member
  unfold spelled fracText powerTail at member
  rcases List.mem_append.mp member with inWhole | member
  · exact .inl (digit whole leading.digits c inWhole)
  rcases List.mem_append.mp member with inFrac | inPower
  · split at inFrac
    · cases inFrac
    · rcases List.mem_cons.mp inFrac with rfl | inFrac
      · exact .inr (by decide)
      · exact .inl (digit frac fracDigits c inFrac)
  · cases power with
    | none => cases inPower
    | some k =>
      rw [Option.elim_some, powerText_eq] at inPower
      rcases List.mem_cons.mp inPower with rfl | inPower
      · exact .inr (by decide)
      rcases List.mem_cons.mp inPower with rfl | inPower
      · exact .inr (by split <;> decide)
      · exact .inl (digit _ (powerDigits_spec k).1 c inPower)

theorem head_spelled {whole : List ℕ} (leading : Leading whole) (frac : List ℕ) (power : Option ℤ) :
    ∃ d < 10, ∃ rest, spelled whole frac power = digitChar d :: rest := by
  obtain ⟨d, tail, rfl⟩ := List.exists_cons_of_ne_nil leading.nonempty
  exact ⟨d, leading.digits d List.mem_cons_self, _, rfl⟩

theorem underscoresPlaced_none {cs : List Char} (plain : ∀ c ∈ cs, c ≠ '_') (afterDigit : Bool) :
    underscoresPlaced afterDigit cs = true := by
  induction cs generalizing afterDigit with
  | nil => rfl
  | cons c rest ih =>
    unfold underscoresPlaced
    rw [if_neg (plain c List.mem_cons_self)]
    exact ih (fun d member => plain d (List.mem_cons_of_mem c member)) _

/-- A spelled number behind its sign is read as the decimal it denotes. -/
theorem readFloat_spelled (negative : Bool) {whole frac : List ℕ} (leading : Leading whole)
    (fracDigits : ∀ d ∈ frac, d < 10) (power : Option ℤ) :
    readFloat (signText negative ++ spelled whole frac power)
      = some (.finite ⟨negative, ofDigits (whole ++ frac), power.getD 0 - frac.length⟩) := by
  have chars : ∀ c ∈ signText negative ++ spelled whole frac power,
      (∃ d < 10, c = digitChar d) ∨ c ∈ ['.', '-', '+', 'e'] := by
    intro c member
    rcases List.mem_append.mp member with sign | inBody
    · cases negative with
      | false => cases sign
      | true => exact .inr (by simp_all [signText])
    · exact mem_spelled leading fracDigits power c inBody
  have plain : ∀ c ∈ signText negative ++ spelled whole frac power, isSpace c = false ∧ c ≠ '_' := by
    intro c member
    rcases chars c member with ⟨d, small, rfl⟩ | mark
    · interval_cases d <;> decide
    · simp only [List.mem_cons, List.not_mem_nil, or_false] at mark
      rcases mark with rfl | rfl | rfl | rfl <;> decide
  have stripped := strip_eq_self fun c member => (plain c member).1
  have unscored : (signText negative ++ spelled whole frac power).filter (fun c => c ≠ '_')
      = signText negative ++ spelled whole frac power :=
    List.filter_eq_self.mpr fun c member => by simpa using (plain c member).2
  have placed := underscoresPlaced_none (fun c member => (plain c member).2) false
  obtain ⟨d, small, rest, head⟩ := head_spelled leading frac power
  have signed : readSign (signText negative ++ spelled whole frac power)
      = (negative, spelled whole frac power) := by
    rw [head]
    cases negative with
    | true => rfl
    | false => interval_cases d <;> rfl
  have letters : ∀ w ws, w ∈ ['n', 'i'] → (spelled whole frac power).map lower ≠ w :: ws := by
    intro w ws member same
    rw [head] at same
    have first := (List.cons.inj same).1
    simp only [List.mem_cons, List.not_mem_nil, or_false] at member
    rcases member with rfl | rfl <;> interval_cases d <;> revert first <;> decide
  simp only [readFloat, stripped, placed, if_true, unscored, readSigned, signed]
  rw [if_neg, if_neg (show (spelled whole frac power).map lower ≠ "nan".toList from letters 'n' _ (by decide)),
    readNumber_spelled leading fracDigits power, Option.map_some]
  rintro (inf | infinity)
  · exact letters 'i' _ (by decide) inf
  · exact letters 'i' _ (by decide) infinity

end NumberText
end BinancePlatform.Library
