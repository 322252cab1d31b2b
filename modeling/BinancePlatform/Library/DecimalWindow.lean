import BinancePlatform.Library.Decimal

/-!
# Decimals in a window of digits

Rounding to a context keeps the value of a decimal whose digits, trailing zeros aside,
lie in a window no wider than the precision, however long its coefficient is written.
`Fits` says so of a value; a fold of `add` is exact at every step just when every
running sum fits (`sumsExactly_iff`).
-/

set_option autoImplicit false

namespace BinancePlatform.Library.Decimal

/-- The value has no digit below the exponent. -/
def Multiple (lo : ℤ) (x : ℚ) : Prop := ∃ n : ℤ, x = n * (10 : ℚ) ^ lo

theorem Multiple.add {lo : ℤ} {x y : ℚ} (first : Multiple lo x) (second : Multiple lo y) :
    Multiple lo (x + y) := by
  obtain ⟨m, rfl⟩ := first
  obtain ⟨n, rfl⟩ := second
  exact ⟨m + n, by push_cast; ring⟩

theorem Multiple.sub {lo : ℤ} {x y : ℚ} (first : Multiple lo x) (second : Multiple lo y) :
    Multiple lo (x - y) := by
  obtain ⟨m, rfl⟩ := first
  obtain ⟨n, rfl⟩ := second
  exact ⟨m - n, by push_cast; ring⟩

theorem Multiple.zero (lo : ℤ) : Multiple lo 0 := ⟨0, by simp⟩

theorem Multiple.sum {lo : ℤ} {xs : List ℚ} (each : ∀ x ∈ xs, Multiple lo x) : Multiple lo xs.sum := by
  induction xs with
  | nil => exact Multiple.zero lo
  | cons x rest ih =>
    rw [List.sum_cons]
    exact (each x List.mem_cons_self).add (ih fun y member => each y (List.mem_cons_of_mem x member))

theorem Multiple.of_le {lo e : ℤ} (low : lo ≤ e) {x : ℚ} (multiple : Multiple e x) : Multiple lo x := by
  obtain ⟨n, rfl⟩ := multiple
  refine ⟨n * 10 ^ (e - lo).toNat, ?_⟩
  have split : (10 : ℚ) ^ e = 10 ^ (e - lo).toNat * 10 ^ lo := by
    rw [← zpow_natCast, ← zpow_add₀ (by norm_num)]
    congr 1
    omega
  rw [split]
  push_cast
  ring

theorem value_multiple (d : Decimal) : Multiple d.exp d.value := ⟨d.signed, rfl⟩

/-- A coefficient is a multiple of the powers of ten below its window. -/
theorem coeff_dvd {d : Decimal} {lo : ℤ} (multiple : Multiple lo d.value) {k : ℕ}
    (below : d.exp + k ≤ lo) : 10 ^ k ∣ d.coeff := by
  obtain ⟨n, value⟩ := multiple
  have split : (10 : ℚ) ^ lo = 10 ^ (lo - d.exp).toNat * 10 ^ d.exp := by
    rw [← zpow_natCast, ← zpow_add₀ (by norm_num)]
    congr 1
    omega
  have signed : (d.signed : ℚ) = n * 10 ^ (lo - d.exp).toNat := by
    have both : (d.signed : ℚ) * 10 ^ d.exp = n * 10 ^ (lo - d.exp).toNat * 10 ^ d.exp := by
      rw [mul_assoc, ← split]
      exact value
    exact mul_right_cancel₀ (ten_zpow_pos d.exp).ne' both
  have exact : d.signed = n * 10 ^ (lo - d.exp).toNat := by exact_mod_cast signed
  have natAbs : d.signed.natAbs = d.coeff := by
    unfold Decimal.signed
    split <;> simp
  rw [← natAbs, exact, Int.natAbs_mul, Int.natAbs_pow]
  exact Dvd.dvd.mul_left (pow_dvd_pow 10 (by omega)) _

theorem roundCoeff_of_dvd {c k : ℕ} (divides : 10 ^ k ∣ c) : roundCoeff c k = c / 10 ^ k := by
  have rest : c % 10 ^ k = 0 := Nat.mod_eq_zero_of_dvd divides
  rw [roundCoeff, rest]
  exact if_pos (by positivity)

theorem numDigits_shift {m : ℕ} (nonzero : m ≠ 0) (k : ℕ) :
    numDigits (m * 10 ^ k) = numDigits m + k := by
  induction k with
  | zero => simp
  | succ k ih =>
    have more : Nat.log 10 (m * 10 ^ k * 10) = Nat.log 10 (m * 10 ^ k) + 1 :=
      Nat.log_mul_base (by norm_num) (by positivity)
    rw [numDigits] at ih ⊢
    rw [pow_succ, ← mul_assoc, more, ih]
    rfl

theorem numDigits_div {c k : ℕ} (divides : 10 ^ k ∣ c) (nonzero : c ≠ 0) :
    numDigits (c / 10 ^ k) + k = numDigits c := by
  obtain ⟨m, rfl⟩ := divides
  have positive : m ≠ 0 := by
    rintro rfl
    exact nonzero (mul_zero _)
  rw [Nat.mul_div_cancel_left m (by positivity), mul_comm, numDigits_shift positive]

/-- Trailing zeros may move into the exponent. -/
theorem value_shift {d : Decimal} {e : ℤ} (below : d.exp ≤ e)
    (divides : 10 ^ (e - d.exp).toNat ∣ d.coeff) :
    (⟨d.negative, d.coeff / 10 ^ (e - d.exp).toNat, e⟩ : Decimal).value = d.value := by
  obtain ⟨m, coeff⟩ := divides
  have split : (10 : ℚ) ^ e = 10 ^ (e - d.exp).toNat * 10 ^ d.exp := by
    rw [← zpow_natCast, ← zpow_add₀ (by norm_num)]
    congr 1
    omega
  rw [value, value, signed, signed, coeff, Nat.mul_div_cancel_left m (by positivity), split]
  cases d.negative <;> simp only [if_true, Bool.false_eq_true, if_false] <;> push_cast <;> ring

theorem fix_window (ctx : Context) (d : Decimal) (lo hi : ℤ) (multiple : Multiple lo d.value)
    (bound : |d.value| < (10 : ℚ) ^ hi) (window : hi - lo ≤ ctx.prec) (tiny : ctx.etiny ≤ lo)
    (top : hi - ctx.prec ≤ ctx.etop) : ∃ out, fix ctx d = some out ∧ out.value = d.value := by
  by_cases zero : d.coeff = 0
  · refine ⟨_, if_pos zero, ?_⟩
    rw [value_eq_zero_of_coeff (d := d) zero]
    exact value_eq_zero_of_coeff zero
  · have digits := numDigits_le_of_lt zero bound
    rw [fix, if_neg zero, if_neg (by omega)]
    dsimp only
    split
    · rename_i long
      set floorExp := max (numDigits d.coeff + d.exp - ctx.prec) ctx.etiny with floored
      have divides : 10 ^ (floorExp - d.exp).toNat ∣ d.coeff := coeff_dvd multiple (by omega)
      have shorter := numDigits_div divides zero
      rw [roundCoeff_of_dvd divides, if_neg (by omega)]
      exact ⟨_, rfl, value_shift (by omega) divides⟩
    · exact ⟨d, rfl, rfl⟩

/-- A context in which a window of the precision lies between the exponent bounds. -/
structure Context.Proper (ctx : Context) : Prop where
  prec : 0 < ctx.prec
  order : ctx.etiny ≤ ctx.etop
  emax : ctx.etop ≤ ctx.emax

/-- The digits of the value lie in one window of the context. -/
def Fits (ctx : Context) (x : ℚ) : Prop :=
  ∃ lo : ℤ, ctx.etiny ≤ lo ∧ lo ≤ ctx.etop ∧ Multiple lo x ∧ |x| < (10 : ℚ) ^ (lo + ctx.prec)

theorem Fits.zero {ctx : Context} (proper : ctx.Proper) : Fits ctx 0 :=
  ⟨ctx.etiny, le_refl _, proper.order, Multiple.zero _, by simpa using ten_zpow_pos _⟩

theorem fix_of_fits {ctx : Context} {d : Decimal} (fits : Fits ctx d.value) :
    ∃ out, fix ctx d = some out ∧ out.value = d.value := by
  obtain ⟨lo, tiny, top, multiple, bound⟩ := fits
  exact fix_window ctx d lo (lo + ctx.prec) multiple bound (by omega) tiny (by omega)

theorem roundCoeff_le (c k : ℕ) : roundCoeff c k ≤ c / 10 ^ k + 1 := by
  unfold roundCoeff
  dsimp only
  split_ifs <;> omega

/-- The coefficient and the exponent of a decimal that stands in a context. -/
structure Within (ctx : Context) (d : Decimal) : Prop where
  tiny : ctx.etiny ≤ d.exp
  digits : d.coeff < 10 ^ ctx.prec
  top : d.coeff ≠ 0 → numDigits d.coeff + d.exp ≤ ctx.etop + ctx.prec

theorem Within.fits {ctx : Context} (proper : ctx.Proper) {d : Decimal} (within : Within ctx d) :
    Fits ctx d.value := by
  by_cases zero : d.coeff = 0
  · rw [value_eq_zero_of_coeff zero]
    exact Fits.zero proper
  have below : d.coeff < 10 ^ numDigits d.coeff := Nat.lt_pow_succ_log_self (by norm_num) d.coeff
  have magnitude : ∀ n : ℕ, d.coeff < 10 ^ n → |d.value| < (10 : ℚ) ^ ((n : ℤ) + d.exp) := by
    intro n small
    rw [abs_value, zpow_add₀ (by norm_num), zpow_natCast]
    refine mul_lt_mul_of_pos_right ?_ (ten_zpow_pos _)
    exact_mod_cast small
  refine ⟨min d.exp ctx.etop, le_min within.tiny proper.order, min_le_right _ _,
    (value_multiple d).of_le (min_le_left _ _), ?_⟩
  rcases le_total d.exp ctx.etop with low | high
  · rw [min_eq_left low, add_comm]
    exact magnitude _ within.digits
  · rw [min_eq_right high]
    exact (magnitude _ below).trans_le (zpow_le_zpow_right₀ (by norm_num) (within.top zero))

theorem within_of_fix {ctx : Context} (proper : ctx.Proper) {d out : Decimal}
    (fixed : fix ctx d = some out) : Within ctx out := by
  by_cases zero : d.coeff = 0
  · rw [fix, if_pos zero] at fixed
    cases fixed
    refine ⟨le_max_left _ _, ?_, fun nonzero => absurd zero nonzero⟩
    rw [zero]
    positivity
  have lead : d.coeff < 10 ^ numDigits d.coeff := Nat.lt_pow_succ_log_self (by norm_num) d.coeff
  rw [fix, if_neg zero] at fixed
  dsimp only at fixed
  split at fixed
  · cases fixed
  split at fixed
  case isFalse kept =>
    cases fixed
    refine ⟨by omega, lead.trans_le ?_, fun _ => by omega⟩
    exact Nat.pow_le_pow_right (by norm_num) (by omega)
  case isTrue below =>
    generalize floor : max (numDigits d.coeff + d.exp - ctx.prec : ℤ) ctx.etiny = floorExp at *
    generalize rounded : roundCoeff d.coeff (floorExp - d.exp).toNat = c at *
    -- The quotient has at most `prec` digits, so rounding up reaches `10 ^ prec` at most.
    have quotient : d.coeff / 10 ^ (floorExp - d.exp).toNat < 10 ^ ctx.prec := by
      rw [Nat.div_lt_iff_lt_mul (by positivity), ← pow_add]
      exact lead.trans_le (Nat.pow_le_pow_right (by norm_num) (by omega))
    have most : c ≤ 10 ^ ctx.prec := by
      rw [← rounded]
      exact (roundCoeff_le _ _).trans quotient
    split at fixed
    case isTrue carry =>
      split at fixed
      · cases fixed
      cases fixed
      have prec := proper.prec
      have positive : c ≠ 0 := by
        rintro rfl
        simp [numDigits] at carry
        omega
      have long : 10 ^ ctx.prec ≤ c :=
        (Nat.pow_le_pow_right (by norm_num) (Nat.lt_succ_iff.mp carry)).trans
          (Nat.pow_log_le_self 10 positive)
      obtain ⟨p, precision⟩ : ∃ p, ctx.prec = p + 1 := ⟨ctx.prec - 1, by omega⟩
      have shown : c / 10 = 10 ^ p := by
        rw [le_antisymm most long, precision, pow_succ, Nat.mul_div_cancel _ (by norm_num)]
      refine ⟨by dsimp only; omega, ?_, fun _ => ?_⟩
      · dsimp only
        rw [shown, precision]
        exact Nat.pow_lt_pow_right (by norm_num) (by omega)
      · dsimp only
        rw [shown, numDigits, Nat.log_pow (by norm_num)]
        omega
    case isFalse short =>
      cases fixed
      have order := proper.order
      have digits : c < 10 ^ ctx.prec :=
        (Nat.lt_pow_succ_log_self (by norm_num : 1 < 10) c).trans_le
          (Nat.pow_le_pow_right (by norm_num) (not_lt.mp short))
      refine ⟨by dsimp only; omega, digits, fun _ => ?_⟩
      dsimp only
      omega

/-- Whatever `fix` returns fits. -/
theorem fits_of_fix {ctx : Context} (proper : ctx.Proper) {d out : Decimal}
    (fixed : fix ctx d = some out) : Fits ctx out.value := (within_of_fix proper fixed).fits proper

theorem numDigits_le_of_lt_pow {c n : ℕ} (positive : 0 < n) (bound : c < 10 ^ n) :
    numDigits c ≤ n := by
  rcases Nat.eq_zero_or_pos c with rfl | nonzero
  · rw [numDigits, Nat.log_zero_right]
    omega
  · have := Nat.log_lt_of_lt_pow nonzero.ne' bound
    rw [numDigits]
    omega

theorem fix_exact_iff {ctx : Context} (proper : ctx.Proper) (d : Decimal) :
    (∃ out, fix ctx d = some out ∧ out.value = d.value) ↔ Fits ctx d.value := by
  constructor
  · rintro ⟨out, fixed, same⟩
    exact same ▸ fits_of_fix proper fixed
  · exact fix_of_fits

/-! ## Running sums -/

/-- The exact sum of the values. -/
def exactSum (amounts : List Decimal) : ℚ := (amounts.map value).sum

@[simp] theorem exactSum_nil : exactSum [] = 0 := rfl

@[simp] theorem exactSum_cons (d : Decimal) (rest : List Decimal) :
    exactSum (d :: rest) = d.value + exactSum rest := by simp [exactSum]

@[simp] theorem exactSum_append (first second : List Decimal) :
    exactSum (first ++ second) = exactSum first + exactSum second := by simp [exactSum]

/-- The fold is exact from `start` over the whole list. -/
def SumsExactly (ctx : Context) (start : Decimal) (amounts : List Decimal) : Prop :=
  ∃ total, sum ctx start amounts = some total ∧ total.value = start.value + exactSum amounts

/-- Every running sum fits. -/
def RunningSumsFit (ctx : Context) (start : ℚ) (amounts : List Decimal) : Prop :=
  ∀ taken, taken <+: amounts → Fits ctx (start + exactSum taken)

theorem runningSumsFit_cons {ctx : Context} {start : ℚ} {d : Decimal} {rest : List Decimal} :
    RunningSumsFit ctx start (d :: rest)
      ↔ Fits ctx start ∧ RunningSumsFit ctx (start + d.value) rest := by
  constructor
  · intro running
    refine ⟨by simpa using running [] List.nil_prefix, fun taken initial => ?_⟩
    rw [add_assoc, ← exactSum_cons]
    exact running (d :: taken) (List.cons_prefix_cons.mpr ⟨rfl, initial⟩)
  · rintro ⟨first, running⟩ taken initial
    cases taken with
    | nil => simpa using first
    | cons e taken =>
      obtain ⟨rfl, within⟩ := List.cons_prefix_cons.mp initial
      rw [exactSum_cons, ← add_assoc]
      exact running taken within

theorem sum_append (ctx : Context) (start : Decimal) (first second : List Decimal) :
    sum ctx start (first ++ second)
      = (sum ctx start first).bind fun total => sum ctx total second := by
  induction first generalizing start with
  | nil => rfl
  | cons d rest ih =>
    simp only [List.cons_append, sum]
    cases add ctx start d with
    | none => rfl
    | some total => exact ih total

theorem sumsExactly_of_fit {ctx : Context} {start : Decimal} {amounts : List Decimal}
    (running : RunningSumsFit ctx start.value amounts) : SumsExactly ctx start amounts := by
  induction amounts generalizing start with
  | nil => exact ⟨start, rfl, by simp⟩
  | cons d rest ih =>
    obtain ⟨-, later⟩ := runningSumsFit_cons.mp running
    have fits : Fits ctx (exactAdd start d).value := by
      rw [value_exactAdd]
      simpa using later [] List.nil_prefix
    obtain ⟨next, added, value⟩ := fix_of_fits fits
    rw [value_exactAdd] at value
    obtain ⟨total, summed, exact⟩ := ih (value ▸ later)
    refine ⟨total, ?_, ?_⟩
    · rw [sum, add, added]
      exact summed
    · rw [exact, value, exactSum_cons, add_assoc]

/-- The fold is exact at every step just when every running sum fits. -/
theorem sumsExactly_iff {ctx : Context} (proper : ctx.Proper) {start : Decimal}
    (opening : Fits ctx start.value) (amounts : List Decimal) :
    (∀ taken, taken <+: amounts → SumsExactly ctx start taken)
      ↔ RunningSumsFit ctx start.value amounts := by
  constructor
  · intro exact taken initial
    obtain ⟨total, summed, value⟩ := exact taken initial
    rw [← value]
    rcases List.eq_nil_or_concat taken with rfl | ⟨before, last, rfl⟩
    · cases summed
      exact opening
    · rw [List.concat_eq_append, sum_append] at summed
      obtain ⟨reached, -, added⟩ := Option.bind_eq_some_iff.mp summed
      rw [sum] at added
      obtain ⟨out, fixed, done⟩ := Option.bind_eq_some_iff.mp added
      cases done
      exact fits_of_fix proper fixed
  · intro running taken initial
    exact sumsExactly_of_fit fun shorter within => running shorter (within.trans initial)

/-- Rounding a nonnegative value at or above the grid at most doubles it. -/
theorem fix_double {ctx : Context} {d : Decimal} {lo hi : ℤ} (low : lo ≤ d.exp)
    (nonneg : 0 ≤ d.value) (bound : d.value < (10 : ℚ) ^ hi) (prec : 0 < ctx.prec)
    (tiny : ctx.etiny ≤ lo) (top : hi - ctx.prec < ctx.etop) (emax : lo ≤ ctx.emax) :
    ∃ out, fix ctx d = some out ∧ lo ≤ out.exp ∧ 0 ≤ out.value ∧ out.value ≤ 2 * d.value := by
  by_cases zero : d.coeff = 0
  · refine ⟨_, if_pos zero, ?_, ?_⟩
    · dsimp only
      omega
    · rw [value_eq_zero_of_coeff (d := d) zero]
      have nothing : (⟨d.negative, d.coeff, max ctx.etiny (min d.exp ctx.emax)⟩ : Decimal).value = 0 :=
        value_eq_zero_of_coeff zero
      exact ⟨nothing.ge, by rw [nothing, mul_zero]⟩
  have magnitude : |d.value| = d.value := abs_of_nonneg nonneg
  have digits := numDigits_le_of_lt zero (by rwa [magnitude])
  have positive : d.negative = false := by
    by_contra negative
    rw [Bool.not_eq_false] at negative
    have := value_of_negative negative
    have strict : 0 < |d.value| := by
      rw [abs_value]
      have := ten_zpow_pos d.exp
      positivity
    linarith
  have shown : ∀ (c : ℕ) (e : ℤ), (⟨d.negative, c, e⟩ : Decimal).value = c * (10 : ℚ) ^ e := by
    intro c e
    rw [positive]
    simp [value, signed]
  rw [fix, if_neg zero, if_neg (by omega)]
  dsimp only
  split
  case isFalse => exact ⟨d, rfl, low, nonneg, by linarith⟩
  case isTrue below =>
    set floorExp := max (numDigits d.coeff + d.exp - ctx.prec : ℤ) ctx.etiny with floored
    set k := (floorExp - d.exp).toNat with steps
    have place : floorExp = d.exp + k := by omega
    have lead : 10 ^ (numDigits d.coeff - 1) ≤ d.coeff := by
      simpa [numDigits] using Nat.pow_log_le_self 10 zero
    have within : 10 ^ k ≤ d.coeff := by
      refine (Nat.pow_le_pow_right (by norm_num) ?_).trans lead
      omega
    have rounded : roundCoeff d.coeff k * 10 ^ k ≤ 2 * d.coeff := by
      have most := Nat.mul_le_mul_right (10 ^ k) (roundCoeff_le d.coeff k)
      have quotient := Nat.div_mul_le_self d.coeff (10 ^ k)
      rw [add_mul, one_mul] at most
      omega
    have value : d.value = d.coeff * (10 : ℚ) ^ d.exp := by rw [← magnitude, abs_value]
    have doubled : (roundCoeff d.coeff k : ℚ) * (10 : ℚ) ^ floorExp ≤ 2 * d.value := by
      rw [value, place, zpow_add₀ (by norm_num), zpow_natCast]
      have cast : (roundCoeff d.coeff k : ℚ) * 10 ^ k ≤ 2 * d.coeff := by exact_mod_cast rounded
      have scaled := mul_le_mul_of_nonneg_right cast (ten_zpow_pos d.exp).le
      linarith
    split
    case isTrue carry =>
      rw [if_neg (by omega)]
      refine ⟨_, rfl, by dsimp only; omega, ?_, ?_⟩
      · rw [shown]
        exact mul_nonneg (Nat.cast_nonneg _) (ten_zpow_pos _).le
      · rw [shown]
        refine le_trans ?_ doubled
        have tenth : ((roundCoeff d.coeff k / 10 : ℕ) : ℚ) * 10 ≤ roundCoeff d.coeff k := by
          exact_mod_cast Nat.div_mul_le_self _ 10
        rw [zpow_add₀ (by norm_num), zpow_one, mul_comm ((10 : ℚ) ^ floorExp) 10, ← mul_assoc]
        exact mul_le_mul_of_nonneg_right tenth (ten_zpow_pos _).le
    case isFalse =>
      refine ⟨_, rfl, by dsimp only; omega, ?_, ?_⟩
      · rw [shown]
        exact mul_nonneg (Nat.cast_nonneg _) (ten_zpow_pos _).le
      · rw [shown]
        exact doubled

end BinancePlatform.Library.Decimal
