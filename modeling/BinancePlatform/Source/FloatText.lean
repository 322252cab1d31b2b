import BinancePlatform.Library.Nearest
import BinancePlatform.Library.SpelledNumbers
import BinancePlatform.Source.Python

/-!
# The text of a float

`float.__repr__` writes the shortest decimal that rounds to the float. Seventeen digits
are enough for a binary64 value, so such a decimal exists, and the text spells it with a
point or a power.
-/

set_option autoImplicit false

namespace BinancePlatform.Source
open BinancePlatform.Library NumberText

/-! ## The shortest decimal -/

namespace PyFloat

/-- A float that is not finite, or whose magnitude is a binary64 value. -/
def Native : PyFloat → Prop
  | .finite _ magnitude => Binary64.OnGrid magnitude
  | _ => True

theorem shortestAt_some {x : ℚ} {k : ℕ} {found : ℕ × ℤ} (positive : 0 < x)
    (shown : shortestAt x k = some found) :
    0 < found.1 ∧ Binary64.round (found.1 * (10 : ℚ) ^ found.2) = x := by
  unfold shortestAt at shown
  obtain ⟨c, first, rfl⟩ := Option.map_eq_some_iff.mp shown
  have reads := List.find?_some first
  rw [decide_eq_true_eq] at reads
  have some : 0 < c := by
    by_contra none
    have low : (c : ℚ) * 10 ^ (Int.log 10 x - k + 1) ≤ 0 :=
      mul_nonpos_of_nonpos_of_nonneg (by exact_mod_cast not_lt.mp none) (Decimal.ten_zpow_pos _).le
    have rounded := Binary64.round_mono low
    rw [reads, show Binary64.round 0 = 0 by simp [Binary64.round, show roundHalfEven 0 = 0 from roundHalfEven_intCast 0]]
      at rounded
    linarith
  refine ⟨by dsimp only; omega, ?_⟩
  have cast : ((c.toNat : ℕ) : ℚ) = c := by exact_mod_cast Int.toNat_of_nonneg some.le
  rw [cast]
  exact reads

/-- Seventeen digits are always enough. -/
theorem shortestAt_seventeen {x : ℚ} (positive : 0 < x) (fixed : Binary64.round x = x) :
    (shortestAt x 17).isSome = true := by
  unfold shortestAt
  rw [Option.isSome_map, List.find?_isSome]
  refine ⟨_, List.mem_cons_self, ?_⟩
  rw [decide_eq_true_eq]
  push_cast
  apply Binary64.round_near positive fixed
  have step := Decimal.ten_zpow_pos (Int.log 10 x - 17 + 1)
  have lead : (10 : ℚ) ^ Int.log 10 x ≤ x := by
    exact_mod_cast Int.zpow_log_le_self (b := 10) (by norm_num) positive
  have fine : (10 : ℚ) ^ (Int.log 10 x - 17 + 1) ≤ x / 10 ^ 16 := by
    rw [le_div_iff₀ (by positivity), ← zpow_natCast, ← zpow_add₀ (by norm_num)]
    refine (zpow_le_zpow_right₀ (by norm_num) ?_).trans lead
    push_cast
    omega
  generalize (10 : ℚ) ^ (Int.log 10 x - 17 + 1) = unit at step fine ⊢
  have whole : x / unit * unit = x := div_mul_cancel₀ x step.ne'
  calc |(roundHalfEven (x / unit) : ℚ) * unit - x|
      = |(roundHalfEven (x / unit) : ℚ) - x / unit| * unit := by
        rw [← abs_of_pos step, ← abs_mul, abs_of_pos step, sub_mul, whole]
    _ ≤ 1 / 2 * (x / 10 ^ 16) := mul_le_mul (roundHalfEven_near _) fine step.le (by norm_num)
    _ = x * Binary64.share := by
        rw [Binary64.share]
        ring

theorem carried_value (c : ℕ) (e : ℤ) :
    ((carried c e).1 : ℚ) * 10 ^ (carried c e).2 = c * (10 : ℚ) ^ e := by
  unfold carried
  split_ifs with ten
  · rw [ten, zpow_add₀ (by norm_num), zpow_one]
    push_cast
    ring
  · rfl

theorem carried_pos {c : ℕ} (positive : 0 < c) (e : ℤ) : 0 < (carried c e).1 := by
  unfold carried
  split_ifs
  · exact Nat.one_pos
  · exact positive

theorem shortest_reads {x : ℚ} (positive : 0 < x) (fixed : Binary64.round x = x) :
    0 < (shortest x).1 ∧ Binary64.round ((shortest x).1 * (10 : ℚ) ^ (shortest x).2) = x := by
  obtain ⟨found, last⟩ := Option.isSome_iff_exists.mp (shortestAt_seventeen positive fixed)
  have member : found ∈ (List.range 17).filterMap fun k => shortestAt x (k + 1) :=
    List.mem_filterMap.mpr ⟨16, by simp, last⟩
  unfold shortest
  cases candidates : (List.range 17).filterMap fun k => shortestAt x (k + 1) with
  | nil =>
    rw [candidates] at member
    cases member
  | cons first rest =>
    have inside : first ∈ (List.range 17).filterMap fun k => shortestAt x (k + 1) := by
      rw [candidates]
      exact List.mem_cons_self
    obtain ⟨k, -, shown⟩ := List.mem_filterMap.mp inside
    obtain ⟨some, rounds⟩ := shortestAt_some positive shown
    exact ⟨carried_pos some _, (congrArg Binary64.round (carried_value _ _)).trans rounds⟩

/-! ## The text of a float -/

theorem leading_of_positive {c : ℕ} (positive : 0 < c) (zeros : ℕ) :
    Leading (decimalDigits c ++ List.replicate zeros 0) := by
  have leading := leading_decimalDigits c
  refine ⟨fun d member => ?_, ?_⟩
  · rcases List.mem_append.mp member with digit | zero
    · exact leading.digits d digit
    · rw [List.eq_of_mem_replicate zero]
      norm_num
  · rcases leading.lead with single | ⟨d, rest, list, nonzero⟩
    · have value := ofDigits_decimalDigits c
      rw [single] at value
      exact absurd value positive.ne
    · exact .inr ⟨d, rest ++ List.replicate zeros 0, by rw [list]; rfl, nonzero⟩

/-- What the text of a positive decimal spells. -/
structure Spells (text : List Char) (c : ℕ) (e : ℤ) (whole frac : List ℕ) (power : Option ℤ) : Prop where
  text : text = spelled whole frac power
  leading : Leading whole
  digits : ∀ d ∈ frac, d < 10
  float : frac ≠ [] ∨ power.isSome = true
  value : (ofDigits (whole ++ frac) : ℚ) * 10 ^ (power.getD 0 - frac.length : ℤ) = c * (10 : ℚ) ^ e

theorem spells_pointed {c : ℕ} (positive : 0 < c) (e : ℤ) :
    ∃ whole frac, Spells (pointed (decimalDigits c) (e + (decimalDigits c).length)
      ++ if ((decimalDigits c).length : ℤ) ≤ e + (decimalDigits c).length then ".0".toList else [])
      c e whole frac none := by
  have digits := decimalDigits_lt c
  have value := ofDigits_decimalDigits c
  have leading := leading_decimalDigits c
  generalize list : decimalDigits c = ds at digits value leading
  have positiveLength := List.length_pos_iff.mpr leading.nonempty
  by_cases before : e + (ds.length : ℤ) ≤ 0
  · have padded : ∀ d ∈ List.replicate (-(e + ds.length)).toNat 0 ++ ds, d < 10 := by
      intro d member
      rcases List.mem_append.mp member with zero | digit
      · rw [List.eq_of_mem_replicate zero]
        norm_num
      · exact digits d digit
    refine ⟨[0], List.replicate (-(e + ds.length)).toNat 0 ++ ds, ?_, ⟨by simp, .inl rfl⟩, padded,
      .inl (by simp [leading.nonempty]), ?_⟩
    · rw [pointed, if_pos before, if_neg (by omega), spelled, fracText, if_neg (by simp [leading.nonempty])]
      simp [digitText, powerTail]
    · have zeros : ofDigits ([0] ++ (List.replicate (-(e + ds.length)).toNat 0 ++ ds)) = c := by
        rw [← List.append_assoc, ofDigits_append, value,
          show ([0] ++ List.replicate (-(e + (ds.length : ℤ))).toNat 0 : List ℕ)
            = List.replicate ((-(e + (ds.length : ℤ))).toNat + 1) 0 from rfl, ofDigits_replicate_zero]
        omega
      rw [zeros]
      congr 2
      simp only [Option.getD_none, List.length_append, List.length_replicate]
      omega
  by_cases after : (ds.length : ℤ) ≤ e + ds.length
  · refine ⟨ds ++ List.replicate e.toNat 0, [0], ?_, list ▸ leading_of_positive positive e.toNat, by simp,
      .inl (by simp), ?_⟩
    · have count : (e + (ds.length : ℤ) - ds.length).toNat = e.toNat := by omega
      rw [pointed, if_neg before, if_pos after, if_pos after, count, spelled, fracText, if_neg (by simp)]
      simp [digitText, powerTail, digitChar]
    · have scaled : ofDigits (ds ++ List.replicate e.toNat 0 ++ [0]) = c * 10 ^ e.toNat * 10 := by
        rw [ofDigits_append, ofDigits_append_zeros, value]
        simp [ofDigits]
      have exponent : (10 : ℚ) ^ e = 10 ^ e.toNat := by
        rw [← zpow_natCast, Int.toNat_of_nonneg (by omega)]
      rw [scaled, exponent]
      simp
  · refine ⟨ds.take (e + ds.length).toNat, ds.drop (e + ds.length).toNat, ?_, ⟨?_, ?_⟩, ?_, .inl ?_, ?_⟩
    · rw [pointed, if_neg before, if_neg after, if_neg after, spelled, fracText, if_neg]
      · simp [powerTail]
      · rw [List.drop_eq_nil_iff]
        omega
    · exact fun d member => digits d (List.mem_of_mem_take member)
    · obtain ⟨k, hk⟩ : ∃ k, (e + (ds.length : ℤ)).toNat = k + 1 := ⟨(e + ds.length).toNat - 1, by omega⟩
      rw [hk]
      rcases leading.lead with rfl | ⟨d, rest, rfl, nonzero⟩
      · exact .inl (by simp)
      · exact .inr ⟨d, rest.take k, by simp, nonzero⟩
    · exact fun d member => digits d (List.mem_of_mem_drop member)
    · rw [Ne, List.drop_eq_nil_iff]
      omega
    · rw [List.take_append_drop, value]
      congr 2
      rw [List.length_drop]
      simp only [Option.getD_none]
      omega

theorem spells_power {c : ℕ} (e : ℤ) : ∃ whole frac,
    Spells ((if (decimalDigits c).length = 1 then digitText (decimalDigits c)
      else pointed (decimalDigits c) 1) ++ powerText (e + (decimalDigits c).length - 1))
      c e whole frac (some (e + (decimalDigits c).length - 1)) := by
  have digits := decimalDigits_lt c
  have value := ofDigits_decimalDigits c
  have leading := leading_decimalDigits c
  generalize decimalDigits c = ds at digits value leading
  have positiveLength := List.length_pos_iff.mpr leading.nonempty
  by_cases single : ds.length = 1
  · refine ⟨ds, [], ?_, leading, by simp, .inr rfl, ?_⟩
    · rw [if_pos single, spelled]
      simp [fracText, powerTail]
    · rw [List.append_nil, value]
      congr 2
      simp [single]
  · refine ⟨ds.take 1, ds.drop 1, ?_, ⟨?_, ?_⟩, ?_, .inr rfl, ?_⟩
    · rw [if_neg single, pointed, if_neg (by norm_num), if_neg (by omega), spelled, fracText, if_neg]
      · simp [powerTail]
      · rw [List.drop_eq_nil_iff]
        omega
    · exact fun d member => digits d (List.mem_of_mem_take member)
    · rcases leading.lead with rfl | ⟨d, rest, rfl, nonzero⟩
      · exact .inl (by simp)
      · exact .inr ⟨d, [], by simp, nonzero⟩
    · exact fun d member => digits d (List.mem_of_mem_drop member)
    · rw [List.take_append_drop, value]
      congr 2
      rw [List.length_drop]
      simp only [Option.getD_some]
      omega

/-- A nonzero float is written as a number with a point or a power, of a decimal that
rounds to it. -/
theorem repr_spells {negative : Bool} {magnitude : ℚ≥0} (grid : Binary64.OnGrid magnitude) :
    ∃ whole frac power c e, Spells (spelled whole frac power) c e whole frac power
      ∧ repr (.finite negative magnitude) = signText negative ++ spelled whole frac power
      ∧ Binary64.round (c * (10 : ℚ) ^ e) = magnitude := by
  by_cases zero : magnitude = 0
  · refine ⟨[0], [0], none, 0, 0, ⟨rfl, ⟨by simp, .inl rfl⟩, by simp, .inl (by simp), by simp [ofDigits]⟩, ?_, ?_⟩
    · rw [repr, if_pos zero]
      rfl
    · rw [zero]
      simp [Binary64.round, show roundHalfEven 0 = 0 from roundHalfEven_intCast 0]
  · have positive : (0 : ℚ) < magnitude := by
      exact_mod_cast pos_iff_ne_zero.mpr zero
    obtain ⟨some, rounds⟩ := shortest_reads positive grid.fixed
    rw [repr, if_neg zero]
    generalize shortest magnitude = found at some rounds
    obtain ⟨c, e⟩ := found
    dsimp only at some rounds ⊢
    split
    · obtain ⟨whole, frac, spells⟩ := spells_pointed some e
      exact ⟨whole, frac, none, c, e, spells.text ▸ spells, by rw [← spells.text], rounds⟩
    · obtain ⟨whole, frac, spells⟩ := @spells_power c e
      exact ⟨whole, frac, _, c, e, spells.text ▸ spells, by rw [← spells.text]; rfl, rounds⟩

end PyFloat
end BinancePlatform.Source
