import BinancePlatform.Source.AccountFacts
import BinancePlatform.Library.SpelledNumbers
import Mathlib.Data.Nat.Factorization.Basic

/-!
# The facts that are published

Whatever the exchange answers, the payload that is collected passes its own validation,
and so does the summary of the wallets. An available summary is the exact sum of wallets
with names of their own.

* A written amount is canonical and has the value of the decimal it was made from
  (`decimalText_canonical`), and a written time is read back (`parsedTimestamp_written`).
* The sum of the wallet rows is exact (`walletRows_ok`, `valuation_is_exact`).
* Each part of the payload passes the check of that part (`header_written`,
  `binding_written`, `productType_written`, `wallet_written`), so the payload passes
  (`facts_are_accepted`).

The digests are parameters, and the answers of the exchange are arbitrary values.
-/

set_option autoImplicit false

namespace BinancePlatform.Guarantees.AcceptedFacts
open BinancePlatform.Library BinancePlatform.Source BinancePlatform.Source.AccountFacts DateTime NumberText

/-! ## Times -/

/-- Nothing is replaced before the first character of the pattern. -/
theorem replaceFrom_absent {first : Char} {tail new body : List Char} (absent : ∀ c ∈ body, c ≠ first)
    (rest : List Char) :
    replaceFrom (first :: tail) new 0 (body ++ rest) = body ++ replaceFrom (first :: tail) new 0 rest := by
  induction body with
  | nil => rfl
  | cons c others ih =>
    have other : ¬ (first :: tail).isPrefixOf (c :: (others ++ rest)) = true := by
      have differs : (first == c) = false := beq_eq_false_iff_ne.mpr (absent c List.mem_cons_self).symm
      rw [List.isPrefixOf, differs]
      simp
    rw [List.cons_append, replaceFrom, if_neg other, ih fun d member => absent d (List.mem_cons_of_mem _ member)]
    rfl

/-- A date has neither of the two marks of an offset. -/
theorem dateText_marks {date : Date} (valid : date.valid = true) : ∀ c ∈ dateText date, c ≠ '+' ∧ c ≠ 'Z' := by
  have bounds := valid
  simp only [Date.valid, Bool.and_eq_true, decide_eq_true_eq] at bounds
  obtain ⟨⟨⟨⟨⟨-, year⟩, -⟩, month⟩, -⟩, day⟩ := bounds
  have days : daysInMonth date.year date.month ≤ 31 := by
    unfold daysInMonth
    split_ifs <;> omega
  have digits : ∀ width n, n < 10 ^ width → 0 < width → ∀ c ∈ padded width n, c ≠ '+' ∧ c ≠ 'Z' :=
    fun width n fits positive c member =>
      ⟨padded_marks fits positive c member '+' (by simp), padded_marks fits positive c member 'Z' (by simp)⟩
  intro c member
  simp only [dateText, List.mem_append, List.mem_cons] at member
  rcases member with (year | rfl | month) | rfl | day
  · exact digits 4 _ (by omega) (by norm_num) c year
  · decide
  · exact digits 2 _ (by omega) (by norm_num) c month
  · decide
  · exact digits 2 _ (by omega) (by norm_num) c day

/-- The time of a summary is read back. -/
theorem parsedTimestamp_written (t : {t : Instant // Representable t}) :
    parsedTimestamp (.str (replaceText "+00:00" "Z" (isoformat t.1))) = .ok t.1 := by
  obtain ⟨t, inside⟩ := t
  have valid := (dateOf_numbered inside).valid
  have body : ∀ c ∈ dateText (dateOf t) ++ ('T' :: clockText (clockOf t)), c ≠ '+' ∧ c ≠ 'Z' := by
    intro c member
    rcases List.mem_append.mp member with date | clock
    · exact dateText_marks valid c date
    · rcases List.mem_cons.mp clock with rfl | clock
      · decide
      · have marks := clockText_marks (clockOf_valid t) c clock
        exact ⟨marks.1, marks.2.2⟩
  have text : (isoformat t).toList = (dateText (dateOf t) ++ ('T' :: clockText (clockOf t))) ++ utcZone := by
    rw [isoformat_text]
    simp
  have zulu : replaceFrom utcZone ['Z'] 0 utcZone = ['Z'] := by decide
  have zone : replaceFrom ['Z'] utcZone 0 ['Z'] = utcZone := by decide
  have there : replaceText "+00:00" "Z" (isoformat t)
      = String.ofList ((dateText (dateOf t) ++ ('T' :: clockText (clockOf t))) ++ ['Z']) := by
    rw [replaceText, utcZone_text, show "Z".toList = ['Z'] from rfl, text, ← zulu]
    exact congrArg String.ofList (replaceFrom_absent (fun c member => (body c member).1) _)
  have back : replaceText "Z" "+00:00" (replaceText "+00:00" "Z" (isoformat t)) = isoformat t := by
    rw [there, replaceText, utcZone_text, show "Z".toList = ['Z'] from rfl, String.toList_ofList,
      replaceFrom_absent (fun c member => (body c member).2), zone, ← text, String.ofList_toList]
  rw [parsedTimestamp, back, fromIsoformat_isoformat inside]
  exact if_pos inside

/-! ## Canonical amounts -/

/-- The digits of a coefficient without the zeros behind them. -/
theorem decimalDigits_zeros {m : ℕ} (nonzero : m ≠ 0) (k : ℕ) :
    decimalDigits (10 ^ k * m) = decimalDigits m ++ List.replicate k 0 := by
  have shifted : 10 ^ k * m ≠ 0 := by positivity
  rw [decimalDigits, if_neg shifted, decimalDigits, if_neg nonzero,
    Nat.digits_base_pow_mul (by norm_num) (Nat.pos_of_ne_zero nonzero)]
  simp

/-- The zeros that are appended are trimmed. -/
theorem trimmedDigits_zeros {m : ℕ} (indivisible : ¬ 10 ∣ m) (k : ℕ) :
    trimmedDigits (10 ^ k * m) = decimalDigits m := by
  have nonzero : m ≠ 0 := by
    rintro rfl
    exact indivisible (dvd_zero 10)
  obtain ⟨last, rest, digits⟩ := List.exists_cons_of_ne_nil (Nat.digits_ne_nil_iff_ne_zero.mpr nonzero : Nat.digits 10 m ≠ [])
  have lastDigit : last = m % 10 := by
    rw [Nat.digits_def' (by norm_num) (Nat.pos_of_ne_zero nonzero)] at digits
    exact (List.cons.inj digits).1.symm
  have kept : (decimalDigits m).rdropWhile (· = 0) = decimalDigits m := by
    rw [decimalDigits, if_neg nonzero, List.rdropWhile, List.reverse_reverse, digits, List.dropWhile_cons_of_neg]
    simp only [decide_eq_true_eq]
    omega
  rw [trimmedDigits, decimalDigits_zeros nonzero, List.rdropWhile, List.reverse_append,
    List.reverse_replicate, List.dropWhile_append_of_pos, ← List.rdropWhile, kept]
  intro d member
  exact decide_eq_true (List.eq_of_mem_replicate member)

theorem normalized_zeros {m k : ℕ} {negative : Bool} {e : ℤ} (indivisible : ¬ 10 ∣ m) :
    normalizedDecimal ⟨negative, 10 ^ k * m, e⟩ = ⟨false, m, e + k⟩ := by
  have nonzero : m ≠ 0 := by
    rintro rfl
    exact indivisible (dvd_zero 10)
  rw [normalizedDecimal]
  simp only [trimmedDigits_zeros indivisible, decimalDigits_zeros nonzero, ofDigits_decimalDigits,
    List.length_append, List.length_replicate, Nat.add_sub_cancel_left]

/-- Where a nonzero decimal has its last digit other than zero. -/
theorem normalized_spec {d : Decimal} (nonzero : d.coeff ≠ 0) :
    ∃ m e, ¬ 10 ∣ m ∧ normalizedDecimal d = ⟨false, m, e⟩ ∧ (d.negative = false → (normalizedDecimal d).value = d.value) := by
  obtain ⟨k, m, indivisible, coeff⟩ := Nat.exists_eq_pow_mul_and_not_dvd nonzero 10 (by norm_num)
  obtain ⟨negative, c, e⟩ := d
  change c = 10 ^ k * m at coeff
  subst coeff
  refine ⟨m, e + k, indivisible, normalized_zeros indivisible, ?_⟩
  rintro (rfl : negative = false)
  rw [normalized_zeros indivisible, Decimal.value, Decimal.value, Decimal.signed, Decimal.signed,
    zpow_add₀ (by norm_num), zpow_natCast]
  push_cast
  ring

theorem normalized_plain {m : ℕ} {e : ℤ} (indivisible : ¬ 10 ∣ m) :
    normalizedDecimal (plain ⟨false, m, e⟩) = ⟨false, m, e⟩ := by
  unfold plain
  split
  next natural =>
    dsimp only at natural ⊢
    rw [mul_comm, normalized_zeros indivisible, zero_add, Int.toNat_of_nonneg natural]
  next =>
    have same := @normalized_zeros m 0 false e indivisible
    rwa [pow_zero, one_mul, Nat.cast_zero, add_zero] at same

/-! ### Their spelling -/

theorem isDigit_digitChar {d : ℕ} (small : d < 10) : isDigit (digitChar d) = true := by
  rw [isDigit, digitOf?_digitChar small]
  rfl

/-- A whole part that the pattern accepts, and a fraction that may be missing. -/
structure Spelling (whole frac : List ℕ) : Prop where
  digits : ∀ d ∈ whole, d < 10
  lead : whole = [0] ∨ ∃ first rest, whole = first :: rest ∧ first ≠ 0 ∧ rest.length ≤ 29
  fracDigits : ∀ d ∈ frac, d < 10
  fracLength : frac.length ≤ 30

/-- The bounds of the pattern on both sides of the point. -/
theorem Spelling.length {whole frac : List ℕ} (spelling : Spelling whole frac) :
    1 ≤ whole.length ∧ whole.length ≤ 30 ∧ (fracText frac).length ≤ 31 := by
  have fraction : (fracText frac).length ≤ 31 := by
    unfold fracText
    split
    · exact Nat.zero_le _
    · have short := spelling.fracLength
      rw [List.length_cons, digitText, List.length_map]
      omega
  rcases spelling.lead with rfl | ⟨first, rest, rfl, -, short⟩
  · exact ⟨le_refl _, by norm_num, fraction⟩
  · rw [List.length_cons]
    exact ⟨by omega, by omega, fraction⟩

/-- A spelling matches the pattern of an amount. -/
theorem walletDecimal_spelled {whole frac : List ℕ} (spelling : Spelling whole frac) :
    walletDecimal (String.ofList (digitText whole ++ fracText frac)) = true := by
  have allDigits {ds : List ℕ} (digits : ∀ d ∈ ds, d < 10) : ∀ c ∈ digitText ds, isDigit c = true := by
    intro c member
    obtain ⟨d, inside, rfl⟩ := List.mem_map.mp member
    exact isDigit_digitChar (digits d inside)
  have stops : (fracText frac).takeWhile isDigit = [] ∧ (fracText frac).dropWhile isDigit = fracText frac := by
    unfold fracText
    split
    · exact ⟨rfl, rfl⟩
    · have point : isDigit '.' = false := by decide
      rw [List.takeWhile_cons_of_neg (by simp [point]), List.dropWhile_cons_of_neg (by simp [point])]
      exact ⟨rfl, rfl⟩
  have taken : (digitText whole ++ fracText frac).takeWhile isDigit = digitText whole := by
    rw [List.takeWhile_append_of_pos (allDigits spelling.digits), stops.1, List.append_nil]
  have left : (digitText whole ++ fracText frac).dropWhile isDigit = fracText frac := by
    rw [List.dropWhile_append_of_pos (allDigits spelling.digits), stops.2]
  rw [walletDecimal, String.toList_ofList, taken, left, Bool.and_eq_true]
  constructor
  · rcases spelling.lead with rfl | ⟨first, rest, rfl, nonzero, short⟩
    · decide
    · have small := spelling.digits first List.mem_cons_self
      have range : ('1' ≤ digitChar first && digitChar first ≤ '9') = true := by
        interval_cases first
        · exact absurd rfl nonzero
        all_goals decide
      change (decide (digitChar first = '0') && (digitText rest).isEmpty
        || '1' ≤ digitChar first && digitChar first ≤ '9' && (digitText rest).length ≤ 29) = true
      rw [range, digitText, List.length_map]
      simp [short]
  · by_cases none : frac = []
    · rw [fracText, if_pos none]
    · rw [fracText, if_neg none]
      have all : (digitText frac).all isDigit = true := List.all_eq_true.mpr (allDigits spelling.fracDigits)
      have long : 1 ≤ frac.length := List.length_pos_iff.mpr none
      dsimp only
      rw [all, digitText, List.length_map]
      simp [long, spelling.fracLength]

/-- Positional notation within the bounds has such a spelling. -/
theorem printPlain_spelled {m : ℕ} {e : ℤ} (nonzero : m ≠ 0) (whole : (decimalDigits m).length + e ≤ 30)
    (fraction : -e ≤ 30) :
    ∃ left right, Spelling left right ∧ printPlain ⟨false, m, e⟩ = digitText left ++ fracText right := by
  have leading := leading_decimalDigits m
  obtain ⟨first, rest, digits, positive⟩ : ∃ first rest, decimalDigits m = first :: rest ∧ first ≠ 0 := by
    rcases leading.lead with zero | found
    · have same := ofDigits_decimalDigits m
      rw [zero] at same
      exact absurd same.symm nonzero
    · exact found
  have small := leading.digits
  rw [digits] at small whole
  have zeros (k : ℕ) : ∀ d ∈ List.replicate k 0, d < 10 := by
    intro d member
    rw [List.eq_of_mem_replicate member]
    norm_num
  have both {xs ys : List ℕ} (left : ∀ d ∈ xs, d < 10) (right : ∀ d ∈ ys, d < 10) : ∀ d ∈ xs ++ ys, d < 10 :=
    fun d member => (List.mem_append.mp member).elim (left d) (right d)
  unfold printPlain pointed
  simp only [signText, Bool.false_eq_true, if_false, List.nil_append, digits, if_neg nonzero]
  simp only [List.length_cons] at whole ⊢
  split_ifs with natural below beyond
  · refine ⟨(first :: rest) ++ List.replicate e.toNat 0, [],
      ⟨both small (zeros _), .inr ⟨first, rest ++ List.replicate e.toNat 0, rfl, positive, ?_⟩, by simp, by simp⟩, ?_⟩
    · rw [List.length_append, List.length_replicate]
      push_cast at whole
      omega
    · rw [fracText, if_pos rfl, List.append_nil]
  · refine ⟨[0], List.replicate (-(e + (rest.length + 1 : ℕ))).toNat 0 ++ (first :: rest),
      ⟨by simp, .inl rfl, both (zeros _) small, ?_⟩, ?_⟩
    · rw [List.length_append, List.length_replicate, List.length_cons]
      push_cast at *
      omega
    · rw [fracText, if_neg (by simp)]
      rfl
  · push_cast at beyond
    omega
  · refine ⟨(first :: rest).take (e + (rest.length + 1 : ℕ)).toNat, (first :: rest).drop (e + (rest.length + 1 : ℕ)).toNat,
      ⟨fun d member => small d (List.mem_of_mem_take member), .inr ?_,
        fun d member => small d (List.mem_of_mem_drop member), ?_⟩, ?_⟩
    · obtain ⟨n, count⟩ : ∃ n, (e + (rest.length + 1 : ℕ)).toNat = n + 1 :=
        ⟨(e + (rest.length + 1 : ℕ)).toNat - 1, by push_cast at *; omega⟩
      refine ⟨first, rest.take n, by rw [count, List.take_succ_cons], positive, ?_⟩
      rw [List.length_take]
      push_cast at *
      omega
    · rw [List.length_drop, List.length_cons]
      push_cast at *
      omega
    · rw [fracText, if_neg]
      intro none
      have short := List.drop_eq_nil_iff.mp none
      rw [List.length_cons] at short
      push_cast at *
      omega

theorem negative_of_not_lt {d : Decimal} (natural : ¬ d.lt .zero = true) (nonzero : d.coeff ≠ 0) :
    d.negative = false := by
  rw [Decimal.lt_iff, Decimal.value_eq_zero_of_coeff (d := .zero) rfl, not_lt] at natural
  cases sign : d.negative with
  | false => rfl
  | true =>
    have below := Decimal.value_of_negative sign
    have magnitude := Decimal.abs_value d
    have positive : (0 : ℚ) < d.coeff * 10 ^ d.exp :=
      mul_pos (by exact_mod_cast Nat.pos_of_ne_zero nonzero) (Decimal.ten_zpow_pos _)
    rw [magnitude] at below
    linarith

/-- The text of a nonzero decimal is the positional notation of its normal form. -/
theorem decimalText_ok {d : Decimal} {text : String} (nonzero : d.coeff ≠ 0) :
    decimalText d = .ok text ↔ ¬ d.lt .zero = true
      ∧ (decimalDigits (normalizedDecimal d).coeff).length + (normalizedDecimal d).exp ≤ 30 ∧ -(normalizedDecimal d).exp ≤ 30
      ∧ text = String.ofList (printPlain (normalizedDecimal d)) := by
  have digits : trimmedDigits d.coeff = decimalDigits (normalizedDecimal d).coeff := by
    obtain ⟨k, m, indivisible, coeff⟩ := Nat.exists_eq_pow_mul_and_not_dvd nonzero 10 (by norm_num)
    rw [normalizedDecimal, coeff, trimmedDigits_zeros indivisible, ofDigits_decimalDigits]
  unfold decimalText
  rw [if_neg nonzero]
  dsimp only
  rw [digits]
  constructor
  · intro written
    split at written
    · cases written
    next natural =>
      split at written
      · cases written
      next fits =>
        cases written
        simp only [Bool.or_eq_true, decide_eq_true_eq, not_or, not_lt] at fits
        exact ⟨natural, (le_max_right _ _).trans fits.1, (le_max_right _ _).trans fits.2, rfl⟩
  · rintro ⟨natural, whole, fraction, rfl⟩
    rw [if_neg natural, if_neg]
    simp only [Bool.or_eq_true, decide_eq_true_eq, not_or, not_lt]
    exact ⟨max_le (by norm_num) whole, max_le (by norm_num) fraction⟩

/-- What is written is nonnegative, below `10^30` and has 30 decimals at most. -/
theorem decimalText_bounds {d : Decimal} {text : String} (written : decimalText d = .ok text) :
    0 ≤ d.value ∧ d.value < 10 ^ 30 ∧ Decimal.Multiple (-30) d.value := by
  by_cases zero : d.coeff = 0
  · rw [Decimal.value_eq_zero_of_coeff zero]
    exact ⟨le_refl _, by norm_num, Decimal.Multiple.zero _⟩
  · obtain ⟨natural, whole, fraction, -⟩ := (decimalText_ok zero).mp written
    obtain ⟨m, e, indivisible, normal, same⟩ := normalized_spec zero
    rw [← same (negative_of_not_lt natural zero), normal]
    rw [normal] at whole fraction
    dsimp only at whole fraction
    have digits : m < 10 ^ (decimalDigits m).length := by
      have nonzero : m ≠ 0 := fun same => indivisible (same ▸ dvd_zero 10)
      rw [decimalDigits, if_neg nonzero, List.length_reverse]
      exact Nat.lt_base_pow_length_digits (by norm_num)
    have value : (⟨false, m, e⟩ : Decimal).value = m * 10 ^ e := by simp [Decimal.value, Decimal.signed]
    refine ⟨?_, ?_, (Decimal.value_multiple _).of_le (by dsimp only; omega)⟩
    · rw [value]
      exact mul_nonneg (Nat.cast_nonneg m) (Decimal.ten_zpow_pos e).le
    · calc (⟨false, m, e⟩ : Decimal).value
          = m * 10 ^ e := value
        _ < 10 ^ ((decimalDigits m).length : ℤ) * 10 ^ e := by
            rw [zpow_natCast]
            exact mul_lt_mul_of_pos_right (by exact_mod_cast digits) (Decimal.ten_zpow_pos e)
        _ = 10 ^ ((decimalDigits m).length + e) := (zpow_add₀ (by norm_num) _ _).symm
        _ ≤ (10 : ℚ) ^ (30 : ℤ) := zpow_le_zpow_right₀ (by norm_num) whole
        _ = 10 ^ 30 := by norm_num

/-- The text of an amount is accepted, and read back as an amount with this text. -/
structure Canonical (text : String) (value : ℚ) : Prop where
  accepted : walletDecimal text = true
  amount : ∃ d, decimalOfText text = .ok (.finite d) ∧ decimalAmount (.str text) = .ok d
    ∧ decimalText d = .ok text ∧ d.value = value

/-- The text that is written for a decimal is canonical and has its value. -/
theorem decimalText_canonical {d : Decimal} {text : String} (written : decimalText d = .ok text) :
    Canonical text d.value := by
  by_cases zero : d.coeff = 0
  · have digit : text = "0" := by
      unfold decimalText at written
      rw [if_pos zero] at written
      split at written <;> cases written
      rfl
    subst digit
    rw [Decimal.value_eq_zero_of_coeff zero]
    exact ⟨by decide +kernel, .zero, by decide +kernel, by decide +kernel, by decide +kernel,
      Decimal.value_eq_zero_of_coeff rfl⟩
  · obtain ⟨natural, whole, fraction, rfl⟩ := (decimalText_ok zero).mp written
    have bounds := decimalText_bounds written
    obtain ⟨m, e, indivisible, normal, same⟩ := normalized_spec zero
    have value := same (negative_of_not_lt natural zero)
    rw [normal] at whole fraction value ⊢
    dsimp only at whole fraction
    have nonzero : m ≠ 0 := fun same => indivisible (same ▸ dvd_zero 10)
    obtain ⟨left, right, spelling, spelled⟩ := printPlain_spelled nonzero whole fraction
    have read : decimalOfText (String.ofList (printPlain ⟨false, m, e⟩)) = .ok (.finite (plain ⟨false, m, e⟩)) := by
      rw [decimalOfText, String.toList_ofList, readDecimal_printPlain]
      refine if_pos ?_
      have digits : Decimal.numDigits m = (decimalDigits m).length := by
        rw [decimalDigits, if_neg nonzero, List.length_reverse, Nat.length_digits 10 m (by norm_num) nonzero]
        rfl
      unfold plain
      split
      · refine constructible_of_moderate ?_ (by norm_num) (by norm_num)
        dsimp only
        rw [Decimal.numDigits_shift nonzero, digits]
        omega
      · exact constructible_of_moderate (by dsimp only; omega) (by dsimp only; omega) (by dsimp only at *; omega)
    have unsigned : ¬ (plain ⟨false, m, e⟩).lt .zero = true := by
      rw [Decimal.lt_iff, Decimal.value_eq_zero_of_coeff (d := .zero) rfl, value_plain, value]
      exact not_lt.mpr bounds.1
    have back : decimalText (plain ⟨false, m, e⟩) = .ok (String.ofList (printPlain ⟨false, m, e⟩)) := by
      have some : (plain ⟨false, m, e⟩).coeff ≠ 0 := by
        unfold plain
        split <;> simp [nonzero]
      rw [decimalText_ok some, normalized_plain indivisible]
      exact ⟨unsigned, whole, fraction, rfl⟩
    refine ⟨spelled ▸ walletDecimal_spelled spelling, _, read, ?_, back, (value_plain _).trans value⟩
    have short : ¬ ((String.ofList (printPlain ⟨false, m, e⟩)).toList.length = 0
        || 80 < (String.ofList (printPlain ⟨false, m, e⟩)).toList.length) = true := by
      have length := spelling.length
      rw [String.toList_ofList, spelled, List.length_append, digitText, List.length_map]
      simp only [Bool.or_eq_true, decide_eq_true_eq]
      omega
    unfold decimalAmount
    dsimp only
    rw [if_neg short, read]
    dsimp only
    rw [if_neg unsigned, back]
    rfl

/-! ## The sum -/

/-- A row of the response quotes a wallet; one that is not empty is active. -/
def Quotes (row : Value) (wallet : String × ℚ) : Prop :=
  ∃ document active, row = .dict document ∧ pyGet document "walletName" = .str wallet.1
    ∧ pyGet document "activate" = .bool active ∧ Denotes (pyGet document "balance") wallet.2
    ∧ 0 ≤ wallet.2 ∧ (wallet.2 ≠ 0 → active = true)

/-- An amount that is read is finite and can be written. -/
theorem decimalAmount_ok {text : String} {d : Decimal} (read : decimalAmount (.str text) = .ok d) :
    decimalOfText text = .ok (.finite d) ∧ ∃ written, decimalText d = .ok written := by
  unfold decimalAmount at read
  dsimp only at read
  split at read
  · cases read
  · split at read
    next found same =>
      split at read
      · cases read
      · obtain ⟨written, canonical, rfl⟩ := map_ok read
        exact ⟨same, written, canonical⟩
    next => cases read

/-- What one row adds. -/
theorem walletRow_ok {seen after : WalletSum} {row : Value} (added : walletRow seen row = .ok after)
    (multiple : Decimal.Multiple (-30) seen.total.value) (natural : 0 ≤ seen.total.value)
    (small : seen.total.value < 10 ^ 40) :
    ∃ wallet, Quotes row wallet ∧ wallet.1 ∉ seen.names ∧ after.names = wallet.1 :: seen.names
      ∧ after.total.value = seen.total.value + wallet.2 ∧ wallet.2 < 10 ^ 30
      ∧ Decimal.Multiple (-30) after.total.value := by
  cases row with
  | dict document =>
    unfold walletRow at added
    dsimp only at added
    split at added
    · cases added
    · split at added
      next name active named flagged =>
        split at added
        · cases added
        · split at added
          · cases added
          next fresh =>
            split at added
            next text quoted =>
              split at added
              · cases added
              · split at added
                · cases added
                next amount read =>
                  split at added
                  · cases added
                  next allowed =>
                    split at added
                    · cases added
                    next total summed =>
                      cases added
                      obtain ⟨denoted, written, canonical⟩ := decimalAmount_ok read
                      have bounds := decimalText_bounds canonical
                      have both := multiple.add bounds.2.2
                      have fits : Decimal.Fits walletContext (seen.total.value + amount.value) := by
                        refine ⟨-30, by decide, by decide, both, ?_⟩
                        rw [abs_of_nonneg (add_nonneg natural bounds.1)]
                        calc seen.total.value + amount.value < 10 ^ 40 + 10 ^ 30 := add_lt_add small bounds.2.1
                          _ < (10 : ℚ) ^ ((-30 : ℤ) + walletContext.prec) := by
                            rw [show (-30 : ℤ) + walletContext.prec = (70 : ℕ) by decide, zpow_natCast]
                            norm_num
                      rw [← Decimal.value_exactAdd] at fits
                      obtain ⟨out, fixed, value⟩ := Decimal.fix_of_fits fits
                      rw [Decimal.add, fixed] at summed
                      cases summed
                      rw [Decimal.value_exactAdd] at value
                      refine ⟨(name, amount.value), ⟨document, active, rfl, named, flagged, ?_, bounds.1, ?_⟩,
                        fresh, rfl, value, bounds.2.1, value ▸ both⟩
                      · rw [quoted]
                        exact ⟨text, amount, rfl, denoted, rfl⟩
                      · intro nonzero
                        by_contra inactive
                        have some : amount.coeff ≠ 0 := fun zero => nonzero (Decimal.value_eq_zero_of_coeff zero)
                        simp [some, inactive] at allowed
            next => cases added
      next => cases added
  | _ => cases added

/-- What the rows add: wallets with names of their own. -/
theorem walletRows_ok {rows : List Value} {seen after : WalletSum} (summed : walletRows seen rows = .ok after)
    (multiple : Decimal.Multiple (-30) seen.total.value) (natural : 0 ≤ seen.total.value)
    (small : seen.total.value + rows.length * 10 ^ 30 ≤ 10 ^ 32) :
    ∃ wallets, List.Forall₂ Quotes rows wallets ∧ (wallets.map Prod.fst).Nodup
      ∧ (∀ wallet ∈ wallets, wallet.1 ∉ seen.names)
      ∧ after.total.value = seen.total.value + (wallets.map Prod.snd).sum := by
  induction rows generalizing seen with
  | nil =>
    cases summed
    exact ⟨[], .nil, List.nodup_nil, by simp, by simp⟩
  | cons row rest ih =>
    obtain ⟨next, added, summed⟩ := bind_ok summed
    rw [List.length_cons, Nat.cast_succ] at small
    have room : (0 : ℚ) ≤ rest.length * 10 ^ 30 := by positivity
    obtain ⟨wallet, quotes, fresh, names, total, below, multiples⟩ :=
      walletRow_ok added multiple natural (by linarith)
    have positive : 0 ≤ wallet.2 := by
      obtain ⟨_, _, -, -, -, -, positive, -⟩ := quotes
      exact positive
    obtain ⟨wallets, others, distinct, apart, sum⟩ := ih summed multiples (by linarith) (by linarith)
    rw [names] at apart
    refine ⟨wallet :: wallets, .cons quotes others, ?_, ?_, ?_⟩
    · rw [List.map_cons, List.nodup_cons]
      refine ⟨fun again => ?_, distinct⟩
      obtain ⟨other, member, same⟩ := List.mem_map.mp again
      exact apart other member (same ▸ List.mem_cons_self)
    · intro other member
      rcases List.mem_cons.mp member with rfl | later
      · exact fresh
      · exact fun known => apart other later (List.mem_cons_of_mem _ known)
    · rw [sum, total, List.map_cons, List.sum_cons]
      ring

/-! ## The summary -/

/-- The status of the summary decides which of the two checks is made. -/
theorem validate_dispatch {summary : Document}
    (source : pyGet summary "source" = .str walletValuationSource)
    (scope : pyGet summary "scope" = .str walletValuationScope) :
    validateWalletValuation (.dict summary) = if (pyGet summary "status").isStr "available" then validateAvailable summary
      else if (pyGet summary "status").isStr "unavailable" then validateUnavailable summary
      else throw (fail "payload_invalid") := by
  change (do
    require ((pyGet summary "source").isStr walletValuationSource && (pyGet summary "scope").isStr walletValuationScope)
      (fail "payload_invalid")
    if (pyGet summary "status").isStr "available" then validateAvailable summary
    else if (pyGet summary "status").isStr "unavailable" then validateUnavailable summary
    else throw (fail "payload_invalid")) = _
  refine require_bind_of ?_
  rw [source, scope, Bool.and_eq_true]
  exact ⟨(Value.isStr_str _ _).mpr rfl, (Value.isStr_str _ _).mpr rfl⟩

/-- The unavailable summary passes with any reason. -/
theorem validate_unavailable (reasonCode : String) :
    validateWalletValuation (.dict (walletValuationUnavailable reasonCode)) = .ok () := by
  have listed : (if reasonCode ∈ walletValuationFailures then reasonCode else "wallet_response_invalid")
      ∈ walletValuationFailures := by
    split
    next known => exact known
    next => decide
  have status : pyGet (walletValuationUnavailable reasonCode) "status" = .str "unavailable" := rfl
  rw [validate_dispatch rfl rfl, status, if_neg (by decide), if_pos (by decide)]
  have fields : hasExactly (walletValuationUnavailable reasonCode) (summaryFields ++ ["reason_code"]) = true := rfl
  have blank : (["amount", "currency", "observed_at", "wallet_count"].all fun key =>
      isNone (pyGet (walletValuationUnavailable reasonCode) key)) = true := rfl
  unfold validateUnavailable
  dsimp only
  rw [require_bind_of fields, require_bind_of blank]
  change require (decide _) _ = _
  rw [decide_eq_true listed]
  rfl

/-- The available summary passes with a canonical amount and a count in its bounds. -/
theorem validate_available {amount : String} {value : ℚ} (canonical : Canonical amount value)
    (observed : {t : Instant // Representable t}) {count : ℕ} (positive : 1 ≤ count) (few : count ≤ maxWalletRows) :
    validateWalletValuation (.dict (walletValuationAvailable amount
      (replaceText "+00:00" "Z" (isoformat observed.1)) count)) = .ok () := by
  obtain ⟨d, -, read, written, -⟩ := canonical.amount
  have status : pyGet (walletValuationAvailable amount (replaceText "+00:00" "Z" (isoformat observed.1)) count)
      "status" = .str "available" := rfl
  rw [validate_dispatch rfl rfl, status, if_pos (by decide)]
  have fields : (hasExactly (walletValuationAvailable amount
        (replaceText "+00:00" "Z" (isoformat observed.1)) count) summaryFields
      && (pyGet (walletValuationAvailable amount (replaceText "+00:00" "Z" (isoformat observed.1)) count)
        "currency").isStr walletValuationCurrency) = true := rfl
  unfold validateAvailable
  dsimp only
  rw [require_bind_of fields]
  change (do
    require (decide ((1 : ℤ) ≤ count) && decide ((count : ℤ) ≤ maxWalletRows)) _
    require (walletDecimal amount) _
    let parsed ← decimalAmount (.str amount)
    let text ← decimalText parsed
    require (decide (text = amount)) _
    let _ ← parsedTimestamp (.str (replaceText "+00:00" "Z" (isoformat observed.1)))
    return ()) = _
  rw [require_bind_of, require_bind_of canonical.accepted, read]
  · change (do
      let text ← decimalText d
      require (decide (text = amount)) _
      let _ ← parsedTimestamp (.str (replaceText "+00:00" "Z" (isoformat observed.1)))
      return ()) = _
    rw [written]
    change (do
      require (decide (amount = amount)) _
      let _ ← parsedTimestamp (.str (replaceText "+00:00" "Z" (isoformat observed.1)))
      return ()) = _
    rw [require_bind_of (by simp), parsedTimestamp_written]
    rfl
  · rw [Bool.and_eq_true, decide_eq_true_eq, decide_eq_true_eq]
    exact ⟨by exact_mod_cast positive, by exact_mod_cast few⟩

/-- A valuation is refused with a reason, or it is the sum of the wallets it counts. -/
theorem valuation_spec (response : Value) (observedAt : Moment) :
    (∃ reasonCode, walletValuation response observedAt = walletValuationUnavailable reasonCode)
      ∨ ∃ t rows wallets amount, observedAt = some t ∧ response = .list rows ∧ List.Forall₂ Quotes rows wallets
        ∧ (wallets.map Prod.fst).Nodup ∧ 1 ≤ rows.length ∧ rows.length ≤ maxWalletRows
        ∧ Canonical amount (wallets.map Prod.snd).sum
        ∧ walletValuation response observedAt
          = walletValuationAvailable amount (replaceText "+00:00" "Z" (isoformat t.1)) rows.length := by
  unfold walletValuation
  split
  next rows =>
    split
    · exact .inl ⟨_, rfl⟩
    next bounded =>
      simp only [Bool.or_eq_true, decide_eq_true_eq, not_or, not_lt] at bounded
      split
      · exact .inl ⟨_, rfl⟩
      next seen summed =>
        split
        next amount observed written stamped =>
          have short : ((rows.length : ℕ) : ℚ) ≤ 32 := by exact_mod_cast bounded.2
          have empty : (WalletSum.mk [] .zero).total.value = 0 := Decimal.value_eq_zero_of_coeff rfl
          obtain ⟨wallets, quotes, distinct, -, total⟩ := walletRows_ok summed
            (empty ▸ .zero _) empty.ge (by rw [empty]; linarith)
          rw [empty, zero_add] at total
          cases observedAt with
          | none => cases stamped
          | some t =>
            have same : replaceText "+00:00" "Z" (isoformat t.1) = observed := Except.ok.inj stamped
            exact .inr ⟨t, rows, wallets, amount, rfl, rfl, quotes, distinct, bounded.1, bounded.2,
              total ▸ decimalText_canonical written, by rw [same]⟩
        next => exact .inl ⟨_, rfl⟩
  next => exact .inl ⟨_, rfl⟩

/-- The summary passes its own validation, and an available one is the exact sum of the
wallets of the response. -/
theorem valuation_is_exact (response : Value) (observedAt : Moment) :
    validateWalletValuation (.dict (walletValuation response observedAt)) = .ok ()
      ∧ (pyGet (walletValuation response observedAt) "status" = .str "available" →
        ∃ rows wallets, response = .list rows ∧ List.Forall₂ Quotes rows wallets
          ∧ (wallets.map Prod.fst).Nodup
          ∧ pyGet (walletValuation response observedAt) "wallet_count" = .int rows.length
          ∧ Denotes (pyGet (walletValuation response observedAt) "amount") (wallets.map Prod.snd).sum) := by
  rcases valuation_spec response observedAt with
    ⟨reasonCode, refused⟩ | ⟨t, rows, wallets, amount, -, listed, quotes, distinct, some, few, canonical, available⟩
  · rw [refused]
    refine ⟨validate_unavailable reasonCode, fun available => ?_⟩
    exact absurd (Value.str.inj available) (by decide)
  · rw [available]
    refine ⟨validate_available canonical t some few, fun _ => ⟨rows, wallets, listed, quotes, distinct, rfl, ?_⟩⟩
    obtain ⟨d, denoted, -, -, value⟩ := canonical.amount
    exact ⟨amount, d, rfl, denoted, value⟩

/-! ## Exact sums -/

/-- An amount that a sum in the context of the wallets keeps exactly. -/
structure Summable (x : ℚ) : Prop where
  natural : 0 ≤ x
  small : x < 10 ^ 69
  multiple : Decimal.Multiple (-30) x

/-- A written amount can be added. -/
theorem summable_text {d : Decimal} {text : String} (written : decimalText d = .ok text) : Summable d.value := by
  have bounds := decimalText_bounds written
  exact ⟨bounds.1, bounds.2.1.trans (by norm_num), bounds.2.2⟩

theorem summable_sum {d e : Decimal} {first second : String} (left : decimalText d = .ok first)
    (right : decimalText e = .ok second) : Summable (d.value + e.value) := by
  have one := decimalText_bounds left
  have two := decimalText_bounds right
  refine ⟨add_nonneg one.1 two.1, (add_lt_add one.2.1 two.2.1).trans (by norm_num), one.2.2.add two.2.2⟩

/-- The sum of two such amounts is exact in the context of the wallets. -/
theorem add_wallet {a b : Decimal} (left : Summable a.value) (right : Summable b.value) :
    ∃ out, Decimal.add walletContext a b = some out ∧ out.value = a.value + b.value := by
  have fits : Decimal.Fits walletContext (Decimal.exactAdd a b).value := by
    rw [Decimal.value_exactAdd]
    refine ⟨-30, by decide, by decide, left.multiple.add right.multiple, ?_⟩
    rw [abs_of_nonneg (add_nonneg left.natural right.natural)]
    calc a.value + b.value < 10 ^ 69 + 10 ^ 69 := add_lt_add left.small right.small
      _ < (10 : ℚ) ^ ((-30 : ℤ) + walletContext.prec) := by
        rw [show (-30 : ℤ) + walletContext.prec = (70 : ℕ) by decide, zpow_natCast]
        norm_num
  obtain ⟨out, fixed, value⟩ := Decimal.fix_of_fits fits
  exact ⟨out, fixed, by rw [value, Decimal.value_exactAdd]⟩

/-- A written amount is its own canonical text. -/
theorem isCanonical_of {amount : Decimal} {text : String} (written : decimalText amount = .ok text) :
    isCanonical amount text = true := by
  rw [isCanonical, written]
  exact decide_eq_true rfl

theorem ok_of_mapError {ε α : Type} {step : Except ε α} {f : ε → ε} {value : α}
    (success : step.mapError f = .ok value) : step = .ok value := by
  cases step with
  | error raised => cases success
  | ok found => exact success

/-! ## The payload -/

section Payload
variable [CharacterTable] {letterOrNumber : Char → Bool} {sha256 : Document → HexDigest}

/-- Every asset of the facts has a valid name. -/
def Named (letterOrNumber : Char → Bool) (assets : Assets) : Prop :=
  ∀ asset, assets.contains asset = true → validAsset letterOrNumber asset = true

omit [CharacterTable] in
theorem Named.set {assets : Assets} (named : Named letterOrNumber assets) {asset : String}
    (valid : validAsset letterOrNumber asset = true) (amounts : AssetAmounts) :
    Named letterOrNumber (assets.set asset amounts) := by
  intro other present
  rw [Dict.contains, Dict.get?_set] at present
  split at present
  next same => exact same ▸ valid
  next => exact named other present

omit [CharacterTable] in
/-- Every Spot balance that is read is under a valid name. -/
theorem spotBalances_named {rows : List Value} {assets after : Assets}
    (read : spotBalances letterOrNumber assets rows = .ok after) (named : Named letterOrNumber assets) :
    Named letterOrNumber after := by
  induction rows generalizing assets with
  | nil =>
    cases read
    exact named
  | cons row rest ih =>
    obtain ⟨document, -, read⟩ := bind_ok read
    split at read
    next asset _ =>
      obtain ⟨valid, read⟩ := require_bind read
      obtain ⟨-, read⟩ := require_bind read
      obtain ⟨free, -, read⟩ := bind_ok read
      obtain ⟨locked, -, read⟩ := bind_ok read
      exact ih read (named.set valid _)
    next => cases read

omit [CharacterTable] in
/-- A position of Earn is added under a valid name. -/
theorem earnRow_named {row : Value} {positions after : Positions}
    (read : earnRow letterOrNumber positions row = .ok after) (named : Named letterOrNumber positions.assets) :
    Named letterOrNumber after.assets := by
  obtain ⟨document, -, read⟩ := bind_ok read
  split at read
  next asset productId _ _ =>
    obtain ⟨valid, read⟩ := require_bind read
    simp only [Bool.and_eq_true] at valid
    split at read
    · cases read
    · obtain ⟨amount, -, read⟩ := bind_ok read
      obtain ⟨flexible, -, read⟩ := bind_ok read
      cases read
      exact named.set valid.1.1 _
  next => cases read

omit [CharacterTable] in
theorem earnRows_named {rows : List Value} {positions after : Positions}
    (read : earnRows letterOrNumber positions rows = .ok after) (named : Named letterOrNumber positions.assets) :
    Named letterOrNumber after.assets := by
  induction rows generalizing positions with
  | nil =>
    cases read
    exact named
  | cons row rest ih =>
    obtain ⟨next, first, read⟩ := bind_ok read
    exact ih read (earnRow_named first named)

omit [CharacterTable] in
/-- So are those of all pages. -/
theorem earnPages_named {answers : Answers} {current remaining : ℕ} {total : Option ℤ} {positions : Positions}
    {after : Assets} (read : earnPages letterOrNumber answers current total positions remaining = .ok after)
    (named : Named letterOrNumber positions.assets) : Named letterOrNumber after := by
  induction remaining generalizing current total positions with
  | zero => cases read
  | succ remaining ih =>
    unfold earnPages at read
    split at read
    · cases read
    · obtain ⟨page, -, read⟩ := bind_ok read
      obtain ⟨next, rows, read⟩ := bind_ok read
      obtain ⟨-, read⟩ := require_bind read
      have kept := earnRows_named rows named
      split at read
      · cases read
        exact kept
      · exact ih read kept

/-! ### The rows -/

omit [CharacterTable] in
/-- A row that was built is accepted after rows of other assets. -/
theorem validateRow_written {asset : String} {amounts : AssetAmounts} {row : Value} {seen : List String}
    (built : assetRow asset amounts = .ok (some row)) (valid : validAsset letterOrNumber asset = true)
    (fresh : asset ∉ seen) : validateRow letterOrNumber seen row = .ok (asset :: seen) := by
  obtain ⟨spot, spotSum, built⟩ := bind_ok built
  obtain ⟨quantity, quantitySum, built⟩ := bind_ok built
  split at built
  · cases built
  next nonzero =>
    obtain ⟨quantityText, quantityWritten, built⟩ := bind_ok built
    obtain ⟨freeText, freeWritten, built⟩ := bind_ok built
    obtain ⟨lockedText, lockedWritten, built⟩ := bind_ok built
    obtain ⟨flexibleText, flexibleWritten, built⟩ := bind_ok built
    cases built
    have spotAdded := checked_ok (ok_of_mapError spotSum)
    have quantityAdded := checked_ok (ok_of_mapError quantitySum)
    obtain ⟨spotOut, added, spotValue⟩ := add_wallet (summable_text freeWritten) (summable_text lockedWritten)
    cases spotAdded.symm.trans added
    have spotBound : Summable spot.value := spotValue ▸ summable_sum freeWritten lockedWritten
    obtain ⟨quantityOut, added, quantityValue⟩ := add_wallet spotBound (summable_text flexibleWritten)
    cases quantityAdded.symm.trans added
    obtain ⟨free, -, freeRead, freeAgain, freeSame⟩ := (decimalText_canonical freeWritten).amount
    obtain ⟨locked, -, lockedRead, lockedAgain, lockedSame⟩ := (decimalText_canonical lockedWritten).amount
    obtain ⟨flexible, -, flexibleRead, flexibleAgain, flexibleSame⟩ := (decimalText_canonical flexibleWritten).amount
    obtain ⟨total, -, totalRead, totalAgain, totalSame⟩ := (decimalText_canonical quantityWritten).amount
    obtain ⟨again, againAdded, againValue⟩ := add_wallet (summable_text freeAgain) (summable_text lockedAgain)
    have againBound : Summable again.value := againValue ▸ summable_sum freeAgain lockedAgain
    obtain ⟨sum, sumAdded, sumValue⟩ := add_wallet againBound (summable_text flexibleAgain)
    have kept : total.coeff ≠ 0 := by
      intro zero
      have same := Decimal.value_eq_zero_of_coeff zero
      rw [totalSame] at same
      have magnitude := Decimal.abs_value quantity
      rw [same, abs_zero] at magnitude
      have positive : (0 : ℚ) < quantity.coeff * 10 ^ quantity.exp :=
        mul_pos (by exact_mod_cast Nat.pos_of_ne_zero nonzero) (Decimal.ten_zpow_pos _)
      exact positive.ne magnitude
    have equal : total.eqv sum = true := by
      rw [Decimal.eqv_iff, totalSame, sumValue, againValue, freeSame, lockedSame, flexibleSame, quantityValue, spotValue]
    unfold validateRow
    refine (bind_of rfl).trans ((require_bind_of rfl).trans ?_)
    change (require (validAsset letterOrNumber asset && decide (asset ∉ seen)) _ >>= _) = _
    refine (require_bind_of (by rw [valid, decide_eq_true fresh]; rfl)).trans ?_
    refine (bind_of freeRead).trans ((bind_of lockedRead).trans ((bind_of flexibleRead).trans
      ((bind_of totalRead).trans ?_)))
    refine (require_bind_of ?_).trans ((require_bind_of (decide_eq_true kept)).trans ?_)
    · rw [isCanonical_of freeAgain, isCanonical_of lockedAgain, isCanonical_of flexibleAgain, isCanonical_of totalAgain]
      rfl
    refine (bind_of (congrArg checked againAdded)).trans ((bind_of (congrArg checked sumAdded)).trans ?_)
    exact (require_bind_of equal).trans rfl

omit [CharacterTable] in
/-- Rows of distinct valid names pass, one by one. -/
theorem validateRows_written {entries : List (String × AssetAmounts)} {rows : List Value} {seen : List String}
    (built : assetRows entries = .ok rows) (valid : ∀ entry ∈ entries, validAsset letterOrNumber entry.1 = true)
    (distinct : (entries.map Prod.fst).Nodup) (fresh : ∀ entry ∈ entries, entry.1 ∉ seen) :
    validateRows letterOrNumber seen rows = .ok () := by
  induction entries generalizing rows seen with
  | nil =>
    cases built
    rfl
  | cons entry rest ih =>
    obtain ⟨asset, amounts⟩ := entry
    obtain ⟨row, one, built⟩ := bind_ok built
    obtain ⟨others, more, built⟩ := bind_ok built
    cases built
    rw [List.map_cons, List.nodup_cons] at distinct
    have later {known : List String} (apart : ∀ entry ∈ rest, entry.1 ∉ known) :
        validateRows letterOrNumber known others = .ok () :=
      ih more (fun entry member => valid entry (List.mem_cons_of_mem _ member)) distinct.2 apart
    cases row with
    | none => exact later fun entry member => fresh entry (List.mem_cons_of_mem _ member)
    | some row =>
      have accepted := validateRow_written one (valid (asset, amounts) List.mem_cons_self)
        (fresh (asset, amounts) List.mem_cons_self)
      change validateRows letterOrNumber seen (row :: others) = _
      rw [validateRows, bind_of accepted]
      refine later fun entry member known => ?_
      rcases List.mem_cons.mp known with same | known
      · exact distinct.1 (List.mem_map.mpr ⟨entry, member, same⟩)
      · exact fresh entry (List.mem_cons_of_mem _ member) known

omit [CharacterTable] in
/-- The sorted assets have distinct valid names. -/
theorem sortedAssets_valid {assets : Assets} (named : Named letterOrNumber assets) :
    ((sortedAssets assets).map Prod.fst).Nodup
      ∧ ∀ entry ∈ sortedAssets assets, validAsset letterOrNumber entry.1 = true := by
  have sorted : (sortedAssets assets).Perm assets.items := List.perm_insertionSort _ _
  refine ⟨(sorted.map Prod.fst).nodup_iff.mpr assets.items_nodup, fun entry member => named entry.1 ?_⟩
  have present := (assets.mem_items entry.1 entry.2).mp (sorted.mem_iff.mp member)
  rw [Dict.contains, present]
  rfl

/-! ### The parts of the payload -/

variable {request : FactsRequest} {readings : Readings} {started bindingId productType : String}
  {assets : List Value} {wallet : Document}

/-- The fields of a payload. -/
def payloadFields : List String :=
  ["schema_version", "platform", "target_id", "account_scope_sha256", "source_binding", "source_revision",
    "approved_application_revision", "observed_started_at", "observed_finished_at", "spot_observed_at",
    "provider_product_type", "earn_observed_at", "snapshot_atomic", "scope", "completeness", "assets",
    "wallet_valuation", "uncovered_scopes", "no_order", "execution_authority_granted"]

omit [CharacterTable] in
/-- The fields of the payload, in the order they are written. -/
theorem keys_factsPayload :
    (factsPayload request readings started bindingId productType assets wallet).keys = payloadFields := by
  have distinct : (factsPayload request readings started bindingId productType assets wallet).keyList.Nodup := by
    change payloadFields.Nodup
    decide
  rw [Dict.keys, Dict.items_eq_entries distinct]
  rfl

omit [CharacterTable] in
theorem required_written : (requiredFields.all fun name =>
    (factsPayload request readings started bindingId productType assets wallet).contains name) = true := by
  have listed : ∀ name ∈ requiredFields, name ∈ payloadFields := by decide
  refine List.all_eq_true.mpr fun name member => ?_
  exact (Dict.mem_keys _ _).mp (keys_factsPayload ▸ listed name member)

omit [CharacterTable] in
theorem keys_written : ((factsPayload request readings started bindingId productType assets wallet).keys.all
    fun key => key ∈ requiredFields ++ ["wallet_valuation", "provider_product_type"]) = true := by
  rw [keys_factsPayload]
  decide

/-- The header of the payload is that of a request that passed its checks. -/
theorem header_written (target : validTarget request.targetId = true)
    (account : fullMatch lowerHex 64 64 request.expectedAccountScopeSha256 = true)
    (reader : fullMatch lowerHex 40 40 request.readerPublicRevision = true)
    (application : fullMatch lowerHex 40 40 request.approvedApplicationRevision = true) :
    headerValid (factsPayload request readings started bindingId productType assets wallet) = true := by
  change (true && true && validTarget request.targetId && true && true && true && true && true && true
    && fullMatch lowerHex 64 64 request.expectedAccountScopeSha256
    && fullMatch lowerHex 40 40 request.readerPublicRevision
    && fullMatch lowerHex 40 40 request.approvedApplicationRevision) = true
  rw [target, account, reader, application]
  rfl

/-- The binding that is written is recomputed from the same three fields. -/
theorem binding_written (bound : buildSourceBindingId sha256 (.str request.expectedAccountScopeSha256)
      (.str request.readerPublicRevision) (.str request.approvedApplicationRevision) = .ok bindingId) :
    validateBinding sha256 (factsPayload request readings started bindingId productType assets wallet) = .ok () := by
  have hex : fullMatch lowerHex 64 64 bindingId = true := by
    obtain ⟨-, made⟩ := require_bind bound
    obtain ⟨-, made⟩ := require_bind made
    obtain ⟨-, made⟩ := require_bind made
    rw [← show (HexDigest.text _) = bindingId from Except.ok.inj made]
    exact HexDigest.hex _
  unfold validateBinding
  refine (bind_of rfl).trans ?_
  change (require (true && true && fullMatch lowerHex 64 64 bindingId) _ >>= _) = _
  refine (require_bind_of (by rw [hex]; rfl)).trans ((bind_of bound).trans ?_)
  exact require_ok.mpr ((Value.isStr_str _ _).mpr rfl)

omit [CharacterTable] in
/-- Both product types that the collector writes are known to the validation. -/
theorem productType_written (known : productType = "SPOT" ∨ productType = "unknown") :
    validateProductType (factsPayload request readings started bindingId productType assets wallet) = .ok () := by
  have value : ((Value.str productType).isStr "SPOT" || (Value.str productType).isStr "unknown") = true := by
    rcases known with rfl | rfl <;> decide
  unfold validateProductType
  refine (bind_of rfl).trans ?_
  change (require (true && ((Value.str productType).isStr "SPOT" || (Value.str productType).isStr "unknown") && true) _
    >>= _) = _
  refine (require_bind_of (by rw [value]; rfl)).trans ?_
  change (require ((stamped readings.spotFinishedAt).isStr
    (replaceText "+00:00" "Z" (isoformat readings.spotFinishedAt.1))) _ >>= _) = _
  refine (require_bind_of ((Value.isStr_str _ _).mpr rfl)).trans ?_
  refine (bind_of (parsedTimestamp_written readings.spotFinishedAt)).trans ?_
  exact require_ok.mpr (decide_eq_true rfl)

omit [CharacterTable] in
/-- What is written of the wallets passes in the order of the readings. -/
theorem wallet_written {answers : Answers} (ordered : timesInOrder readings (walletFacts answers readings).2 = true) :
    validateWallet (.dict (walletFacts answers readings).1) readings.earnFinishedAt.1 readings.finishedAt.1
      = .ok () := by
  have refused (reasonCode : String) :
      validateWallet (.dict (walletValuationUnavailable reasonCode)) readings.earnFinishedAt.1 readings.finishedAt.1
        = .ok () :=
    (bind_of (validate_unavailable reasonCode)).trans ((bind_of rfl).trans
      (if_neg (show ¬ (Value.str "unavailable").isStr "available" = true by decide)))
  unfold walletFacts at ordered ⊢
  split at ordered
  · exact refused _
  next response _ =>
    rcases valuation_spec response (some readings.walletObservedAt) with
      ⟨reasonCode, unavailable⟩ | ⟨t, rows, wallets, amount, same, -, -, -, some, few, canonical, available⟩
    · dsimp only
      rw [unavailable]
      exact refused reasonCode
    · cases same
      dsimp only
      rw [available]
      refine (bind_of (validate_available canonical _ some few)).trans ((bind_of rfl).trans ?_)
      refine (if_pos (show (Value.str "available").isStr "available" = true by decide)).trans
        ((bind_of (parsedTimestamp_written _)).trans (require_ok.mpr ?_))
      simp only [timesInOrder, Bool.not_true, Bool.false_or, Bool.and_eq_true] at ordered ⊢
      exact ordered.2

/-- What is collected is accepted. -/
theorem facts_are_accepted {observationSha256 : Document → String} {answers : Answers} {payload : Document}
    (collected : collectAccountFacts letterOrNumber sha256 observationSha256 answers readings request = .ok payload) :
    validateAccountFactsPayload letterOrNumber sha256 (.dict payload) = .ok payload := by
  obtain ⟨target, collected⟩ := require_bind collected
  obtain ⟨account, collected⟩ := require_bind collected
  obtain ⟨reader, collected⟩ := require_bind collected
  obtain ⟨application, collected⟩ := require_bind collected
  split at collected
  · cases collected
  next startedAt _ =>
    obtain ⟨started, stamp, collected⟩ := bind_ok collected
    obtain ⟨response, -, collected⟩ := bind_ok collected
    obtain ⟨accountDocument, -, collected⟩ := bind_ok collected
    obtain ⟨-, -, collected⟩ := bind_ok collected
    dsimp only at collected
    split at collected
    next balances _ =>
      obtain ⟨-, collected⟩ := require_bind collected
      obtain ⟨spot, spotRead, collected⟩ := bind_ok collected
      obtain ⟨first, collected⟩ := require_bind collected
      obtain ⟨assets, pages, collected⟩ := bind_ok collected
      obtain ⟨ordered, collected⟩ := require_bind collected
      obtain ⟨rows, built, collected⟩ := bind_ok collected
      obtain ⟨bindingId, bound, collected⟩ := bind_ok collected
      have startedText : replaceText "+00:00" "Z" (isoformat startedAt.1) = started := Except.ok.inj stamp
      have same := Except.ok.inj collected
      subst same startedText
      have named : Named letterOrNumber assets :=
        earnPages_named pages (spotBalances_named spotRead fun _ present => absurd present Bool.false_ne_true)
      obtain ⟨distinct, valid⟩ := sortedAssets_valid named
      refine (bind_of rfl).trans ((require_bind_of required_written).trans ((require_bind_of keys_written).trans ?_))
      refine (require_bind_of (header_written target account reader application)).trans
        ((bind_of (binding_written bound)).trans ?_)
      refine (bind_of (parsedTimestamp_written startedAt)).trans ((bind_of (parsedTimestamp_written _)).trans
        ((bind_of (parsedTimestamp_written _)).trans ((bind_of (parsedTimestamp_written _)).trans ?_)))
      refine (require_bind_of ?_).trans ?_
      · have times := ordered
        simp only [timesInOrder, Bool.and_eq_true] at times ⊢
        exact ⟨⟨first, times.1.1⟩, times.1.2⟩
      change (validateProductType _ >>= _) = _
      refine (bind_of (productType_written ?_)).trans ?_
      · split
        · exact .inl rfl
        · exact .inr rfl
      change (validateRows letterOrNumber [] rows >>= _) = _
      refine (bind_of (validateRows_written built valid distinct fun _ _ => List.not_mem_nil)).trans ?_
      change (validateWallet _ _ _ >>= _) = _
      exact (bind_of (wallet_written ordered)).trans rfl
    next => cases collected

end Payload

/-! ## One account -/

section Account

local instance : CharacterTable := asciiTable

def someDigest : HexDigest := ⟨String.ofList (List.replicate 64 'a'), by decide⟩

def someRevision : String := String.ofList (List.replicate 40 'b')

def midnight : {t : Instant // Representable t} := ⟨0, by rw [Representable, minInstant_eq, endInstant_eq]; decide⟩

-- the summary of two wallets is available, with their sum
example :
    let summary := walletValuation (.list [
      .dict ⟨[("activate", .bool true), ("balance", .str "175000.10"), ("walletName", .str "Spot")]⟩,
      .dict ⟨[("activate", .bool true), ("balance", .str "0.25"), ("walletName", .str "Earn")]⟩]) (some midnight)
    (pyGet summary "status").isStr "available" = true ∧ (pyGet summary "amount").isStr "175000.35" = true := by
  decide +kernel

/-- Bitcoin in Spot and in a Flexible product, and one wallet. -/
def bitcoinAnswers : Answers where
  account := .ok (.dict ⟨[("uid", .int 7), ("accountType", .str "SPOT"), ("balances", .list [.dict
    ⟨[("asset", .str "BTC"), ("free", .str "1.50"), ("locked", .str "0")]⟩])]⟩)
  flexiblePosition _ := .ok (.dict ⟨[("total", .int 1), ("rows", .list [.dict
    ⟨[("asset", .str "BTC"), ("productId", .str "BTC001"), ("totalAmount", .str "0.25")]⟩])]⟩)
  walletValuation := .ok (.list [.dict
    ⟨[("activate", .bool true), ("balance", .str "175000.10"), ("walletName", .str "Spot")]⟩])

def bitcoinRequest : FactsRequest :=
  ⟨.str "account", someDigest.text, someRevision, someRevision, some midnight⟩

def bitcoinReadings : Readings := ⟨midnight, midnight, midnight, midnight⟩

theorem facts_are_accepted_bitcoin : ∃ payload,
    collectAccountFacts (fun _ => true) (fun _ => someDigest) (fun _ => someDigest.text) bitcoinAnswers
        bitcoinReadings bitcoinRequest = .ok payload
      ∧ validateAccountFactsPayload (fun _ => true) (fun _ => someDigest) (.dict payload) = .ok payload := by
  have returned : (collectAccountFacts (fun _ => true) (fun _ => someDigest) (fun _ => someDigest.text)
      bitcoinAnswers bitcoinReadings bitcoinRequest).isOk = true := by
    decide +kernel
  cases outcome : collectAccountFacts (fun _ => true) (fun _ => someDigest) (fun _ => someDigest.text)
      bitcoinAnswers bitcoinReadings bitcoinRequest with
  | ok payload => exact ⟨payload, rfl, facts_are_accepted outcome⟩
  | error raised =>
    rw [outcome] at returned
    cases returned

end Account
end BinancePlatform.Guarantees.AcceptedFacts
