import BinancePlatform.Guarantees.DepositsOnce
import BinancePlatform.Source.DecimalText

/-!
# The deposit principal of one slice

`new_deposit_principal_usdt` adds the newly final supported deposits in the ambient
context of 28 digits. It is their exact sum when every running sum has its digits in
one window of the context (`principal_exact`), and the running total is exact at every
deposit only then. An amount may be 80 characters long, and
`principal_rounded` is a slice where the last digit of one is lost.
-/

set_option autoImplicit false

namespace BinancePlatform.Guarantees.DepositPrincipal
open BinancePlatform.Library BinancePlatform.Source BinancePlatform.Guarantees.DepositsOnce

section Slice
variable [CharacterTable] {digest : Document → String}

/-- The amounts of the newly final supported deposits of an accepted call. -/
def newAmounts (digest : Document → String) (entry : Entry) : List Decimal :=
  (contributions digest entry).map fun s => s.deposit.amount

omit [CharacterTable] in
theorem externalAmount_positive {value : Value} {amount : Decimal}
    (success : externalAmount value = .ok amount) : 0 < amount.value := by
  unfold externalAmount at success
  split at success
  case h_1 s =>
    obtain ⟨-, success⟩ := require_bind success
    split at success
    case h_1 d read =>
      obtain ⟨positive, success⟩ := require_bind success
      cases success
      simpa using (Decimal.lt_iff _ _).mp positive
    case h_2 => cases success
  case h_2 => cases success

theorem readDeposit_positive {startMs endMs : ℤ} {row : Document} {deposit : Deposit}
    (success : readDeposit startMs endMs row = .ok deposit) : 0 < deposit.amount.value := by
  obtain ⟨id, -, success⟩ := bind_ok success
  obtain ⟨-, success⟩ := require_bind success
  obtain ⟨status, -, success⟩ := bind_ok success
  obtain ⟨-, success⟩ := require_bind success
  obtain ⟨insertTime, -, success⟩ := bind_ok success
  obtain ⟨-, success⟩ := require_bind success
  obtain ⟨amount, read, success⟩ := bind_ok success
  obtain ⟨coin, -, success⟩ := bind_ok success
  obtain ⟨-, success⟩ := require_bind success
  obtain ⟨walletType, -, success⟩ := bind_ok success
  obtain ⟨transferType, -, success⟩ := bind_ok success
  cases success
  exact externalAmount_positive read

theorem sightings_positive {call : Call} {sighting : Sighting} (member : sighting ∈ sightings call) :
    0 < sighting.deposit.amount.value := by
  obtain ⟨row, -, read⟩ := List.mem_filterMap.mp member
  unfold sighting? at read
  split at read
  · cases read
  rename_i deposit success
  have positive := readDeposit_positive success
  split at read
  · split at read <;> cases read
    exact positive
  · cases read
    exact positive

theorem newAmounts_positive {entry : Entry} {amount : Decimal}
    (member : amount ∈ newAmounts digest entry) : 0 < amount.value := by
  obtain ⟨sighting, contributed, rfl⟩ := List.mem_map.mp member
  have seen := (contributions_mem contributed).1
  unfold accepted at seen
  split at seen
  · exact sightings_positive seen
  · cases seen

omit [CharacterTable] in
theorem exactSum_positive {amounts : List Decimal} (each : ∀ amount ∈ amounts, 0 < amount.value)
    (nonempty : amounts ≠ []) : 0 < Decimal.exactSum amounts := by
  obtain ⟨first, rest, rfl⟩ := List.exists_cons_of_ne_nil nonempty
  rw [Decimal.exactSum_cons]
  refine add_pos_of_pos_of_nonneg (each first List.mem_cons_self) (List.sum_nonneg ?_)
  intro x member
  obtain ⟨amount, inRest, rfl⟩ := List.mem_map.mp member
  exact (each amount (List.mem_cons_of_mem first inRest)).le

/-- The text of the new principal is the exact sum, and "0" just when there is nothing to add. -/
structure ExactPrincipal (digest : Document → String) (entry : Entry) (result : Document) :
    Prop where
  sum : Denotes (pyGet result "new_deposit_principal_usdt") (Decimal.exactSum (newAmounts digest entry))
  zero : pyGet result "new_deposit_principal_usdt" = .str "0" ↔ contributions digest entry = []

omit [CharacterTable] in
theorem zero_denotes : Denotes (.str "0") 0 := ⟨"0", .zero, rfl, by decide, Decimal.value_zero⟩

omit [CharacterTable] in
theorem principalText_zero : principalText .zero = "0" := by decide

omit [CharacterTable] in
theorem sum_within {start : Decimal} {amounts : List Decimal} {total : Decimal}
    (opening : Decimal.Within defaultContext start)
    (summed : Decimal.sum defaultContext start amounts = some total) :
    Decimal.Within defaultContext total := by
  induction amounts generalizing start with
  | nil =>
    cases summed
    exact opening
  | cons d rest ih =>
    obtain ⟨next, added, later⟩ := Option.bind_eq_some_iff.mp summed
    exact ih (Decimal.within_of_fix default_proper added) later

/-- The principal is exact when every running sum fits in the ambient context, and the
running total is exact at every deposit only then. -/
theorem principal_exact {call : Call} {cursor : Value} {result : Document}
    (outcome : (attempt digest cursor call).outcome = .ok result) :
    (Decimal.RunningSumsFit defaultContext 0 (newAmounts digest (attempt digest cursor call)) →
        ExactPrincipal digest (attempt digest cursor call) result)
      ∧ ((∀ taken, taken <+: newAmounts digest (attempt digest cursor call) →
            Decimal.SumsExactly defaultContext .zero taken)
          ↔ Decimal.RunningSumsFit defaultContext 0
            (newAmounts digest (attempt digest cursor call))) := by
  set entry := attempt digest cursor call with attempted
  have opening : Decimal.Fits defaultContext Decimal.zero.value := by
    rw [Decimal.value_zero]
    exact Decimal.Fits.zero default_proper
  have steps := Decimal.sumsExactly_iff default_proper opening (newAmounts digest entry)
  rw [Decimal.value_zero] at steps
  refine ⟨fun running => ?_, steps⟩
  obtain ⟨total, summed, shown⟩ := (attempt_totals outcome).principal
  change Decimal.sum defaultContext .zero (newAmounts digest entry) = some total at summed
  obtain ⟨exact, found, value⟩ := steps.mpr running _ (List.prefix_refl _)
  obtain rfl : exact = total := Option.some.inj (found.symm.trans summed)
  rw [Decimal.value_zero, zero_add] at value
  by_cases nothing : contributions digest entry = []
  · have none : newAmounts digest entry = [] := by rw [newAmounts, nothing, List.map_nil]
    rw [none] at summed value
    cases summed
    rw [principalText_zero] at shown
    exact ⟨by rw [shown, none]; exact zero_denotes, by simp [shown, nothing]⟩
  · have some : newAmounts digest entry ≠ [] := by simpa [newAmounts] using nothing
    have positive := exactSum_positive (fun amount member => newAmounts_positive member) some
    have nonzero : exact.value ≠ 0 := by rw [value]; exact positive.ne'
    have within := sum_within ⟨by decide, by decide, by decide⟩ summed
    have text : principalText exact = String.ofList (NumberText.printPlain exact) := by
      refine if_neg fun same => nonzero ?_
      rw [(Decimal.eqv_iff _ _).mp same, Decimal.value_zero]
    have denotes := denotes_printPlain within nonzero
    rw [← text, ← shown, value] at denotes
    refine ⟨denotes, ⟨fun zero => ?_, fun empty => absurd empty nothing⟩⟩
    rw [zero] at denotes
    exact absurd (denotes.unique zero_denotes) positive.ne'

end Slice

/-! ## Samples -/

local instance : CharacterTable := asciiTable

def amountRow (amount : String) : Value :=
  .dict ⟨[("id", .str "D1"), ("status", .int 1), ("insertTime", .int firstInsert),
    ("completeTime", .int (firstInsert + 1000)), ("txId", .str "T1"), ("amount", .str amount),
    ("coin", .str "USDT"), ("walletType", .int 0), ("transferType", .int 0)]⟩

/-- The second call of a sequence, after a first call that saw nothing. -/
def amountEntry (amount : String) : Entry :=
  attempt sampleDigest (cursorAfter sampleDigest .none [callAfter 0 []]) (callAfter 1 [amountRow amount])

/-- An amount of 29 significant digits. -/
def longAmount : String := "1.0000000000000000000000000001"

def shortEntry : Entry := amountEntry "25"

theorem shortEntry_amounts : newAmounts sampleDigest shortEntry = [⟨false, 25, 0⟩] := by
  decide +kernel

theorem principal_exact_sample : ∃ result, shortEntry.outcome = .ok result
    ∧ ExactPrincipal sampleDigest shortEntry result := by
  have accepted : shortEntry.outcome.toOption.isSome = true := by decide +kernel
  cases outcome : shortEntry.outcome with
  | error raised =>
    rw [outcome] at accepted
    cases accepted
  | ok result =>
    refine ⟨result, rfl, (principal_exact outcome).1 ?_⟩
    have amounts := shortEntry_amounts
    rw [shortEntry, amountEntry] at amounts
    rw [amounts, Decimal.runningSumsFit_cons]
    refine ⟨Decimal.Fits.zero default_proper, fun taken initial => ?_⟩
    obtain rfl := List.prefix_nil.mp initial
    refine ⟨0, by decide, by decide, ⟨25, by norm_num [Decimal.value, Decimal.signed]⟩, ?_⟩
    norm_num [Decimal.value, Decimal.signed, defaultContext]

theorem longEntry_principal : (amountEntry longAmount).outcome.toOption.any (fun result =>
    (pyGet result "new_deposit_principal_usdt").isStr "1.000000000000000000000000000") = true := by
  decide +kernel

theorem longEntry_amounts : newAmounts sampleDigest (amountEntry longAmount)
    = [⟨false, 10000000000000000000000000001, -28⟩] := by
  decide +kernel

/-- The last digit of the amount is lost. -/
theorem principal_rounded :
    ¬ ∀ [CharacterTable] (digest : Document → String) (cursor : Value) (call : Call)
      (result : Document), (attempt digest cursor call).outcome = .ok result →
      ExactPrincipal digest (attempt digest cursor call) result := by
  intro exact
  have principal := longEntry_principal
  cases outcome : (amountEntry longAmount).outcome with
  | error raised =>
    rw [outcome] at principal
    cases principal
  | ok result =>
    have denotes := (exact sampleDigest _ _ result outcome).sum
    rw [outcome] at principal
    have text := Value.eq_str_of_isStr principal
    have amounts := longEntry_amounts
    rw [amountEntry] at amounts
    rw [text, amounts] at denotes
    have rounded : Denotes (.str "1.000000000000000000000000000") 1 :=
      ⟨_, ⟨false, 10 ^ 27, -27⟩, rfl, by decide +kernel, by norm_num [Decimal.value, Decimal.signed]⟩
    have same := denotes.unique rounded
    norm_num [Decimal.exactSum, Decimal.value, Decimal.signed] at same

end BinancePlatform.Guarantees.DepositPrincipal
