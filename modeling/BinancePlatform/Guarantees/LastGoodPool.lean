import BinancePlatform.Source.TrendPool
import Mathlib.Tactic.IntervalCases

/-!
# The last good pool stays acceptable

What a validation stores is a fixed point of the validation: the symbols, their map, the
date, the mode, the version and the project are read back as they are, and a later time
makes them older but never unacceptable, because the stored pool is not asked to be fresh.

* The written date is read back (`parseDateText_dateText`, `parseTrendPoolDate_stored`).
* The stored symbols and their map are read back in their order (`parse_stored`,
  `extract_stored`, `ordered_stored`).
* A size and a mode without errors have none again, and a date that was not in the future
  never is (`sizeErrors_again`, `modeErrors_again`, `ageErrors_later`).
* So a stored payload is validated at every later time, with the same result
  (`validated_again`, `last_good_pool_stays_acceptable`).

Which characters count as letters, digits and spaces is the `CharacterTable`.
-/

set_option autoImplicit false

namespace BinancePlatform.Guarantees.LastGoodPool
open BinancePlatform.Library BinancePlatform.Source DateTime

/-! ## The date -/

theorem yearOfText_padded {year : ℕ} (bound : year ≤ 9999) : yearOfText (padded 4 year) = some year := by
  have digits := NumberText.decimalDigits_lt year
  have short : (NumberText.decimalDigits year).length ≤ 4 := by
    unfold NumberText.decimalDigits
    split
    · simp
    · rw [List.length_reverse]
      exact (Nat.digits_length_le_iff (by norm_num) year).mpr (by omega)
  have text : padded 4 year = NumberText.digitText
      (List.replicate (4 - (NumberText.decimalDigits year).length) 0 ++ NumberText.decimalDigits year) := by
    simp only [padded, NumberText.natText, NumberText.digitText, List.map_append, List.length_map,
      List.map_replicate]
    rfl
  have all : ∀ d ∈ List.replicate (4 - (NumberText.decimalDigits year).length) 0
      ++ NumberText.decimalDigits year, d < 10 := by
    intro d member
    rcases List.mem_append.mp member with zero | digit
    · rw [List.eq_of_mem_replicate zero]
      norm_num
    · exact digits d digit
  rw [yearOfText, text, if_pos (by simp [NumberText.digitText]; omega)]
  have read : ∀ ds : List ℕ, (∀ d ∈ ds, d < 10) →
      (NumberText.digitText ds).mapM NumberText.digitOf? = some ds := by
    intro ds small
    induction ds with
    | nil => rfl
    | cons d rest ih =>
      simp only [NumberText.digitText, List.map_cons, List.mapM_cons] at ih ⊢
      rw [NumberText.digitOf?_digitChar (small d List.mem_cons_self),
        ih fun e member => small e (List.mem_cons_of_mem _ member)]
      rfl
  rw [read _ all, Option.map_some, NumberText.ofDigits_append, NumberText.ofDigits_replicate_zero,
    NumberText.ofDigits_decimalDigits]
  simp

theorem monthOfText_padded {month : ℕ} (first : 1 ≤ month) (last : month ≤ 12) :
    monthOfText (padded 2 month) = some month := by
  interval_cases month <;> decide +kernel

theorem dayOfText_padded {day : ℕ} (first : 1 ≤ day) (last : day ≤ 31) :
    dayOfText (padded 2 day) = some day := by
  interval_cases day <;> decide +kernel

theorem daysInMonth_le (year month : ℕ) : daysInMonth year month ≤ 31 := by
  unfold daysInMonth
  split_ifs <;> norm_num

theorem padded_digit {width n : ℕ} : ∀ c ∈ padded width n, ∃ d < 10, c = NumberText.digitChar d := by
  intro c member
  rcases List.mem_append.mp member with zero | digit
  · exact ⟨0, by norm_num, List.eq_of_mem_replicate zero⟩
  · obtain ⟨d, listed, rfl⟩ := List.mem_map.mp digit
    exact ⟨d, NumberText.decimalDigits_lt n d listed, rfl⟩

theorem padded_plain {width n : ℕ} : ∀ c ∈ padded width n, c ≠ '-' ∧ NumberText.isSpace c = false := by
  intro c member
  obtain ⟨d, small, rfl⟩ := padded_digit c member
  interval_cases d <;> decide

theorem padded_length {width n : ℕ} (bound : (NumberText.decimalDigits n).length ≤ width) :
    (padded width n).length = width := by
  simp only [padded, NumberText.natText, NumberText.digitText, List.length_append, List.length_replicate,
    List.length_map]
  omega

theorem splitOn_plain {separator : Char} {cs : List Char} (plain : ∀ c ∈ cs, c ≠ separator) :
    splitOn separator cs = [cs] := by
  induction cs with
  | nil => rfl
  | cons c rest ih =>
    rw [splitOn, if_neg (plain c List.mem_cons_self), ih fun d member => plain d (List.mem_cons_of_mem _ member)]

theorem splitOn_append {separator : Char} {cs : List Char} (rest : List Char)
    (plain : ∀ c ∈ cs, c ≠ separator) :
    splitOn separator (cs ++ separator :: rest) = cs :: splitOn separator rest := by
  induction cs with
  | nil => rw [List.nil_append, splitOn, if_pos rfl]
  | cons c front ih =>
    rw [List.cons_append, splitOn, if_neg (plain c List.mem_cons_self),
      ih fun d member => plain d (List.mem_cons_of_mem _ member)]

theorem decimalDigits_length {n width : ℕ} (positive : 0 < width) (bound : n < 10 ^ width) :
    (NumberText.decimalDigits n).length ≤ width := by
  unfold NumberText.decimalDigits
  split
  · exact positive
  · rw [List.length_reverse]
    exact (Nat.digits_length_le_iff (by norm_num) n).mpr bound

theorem dateText_length {date : Date} (valid : date.valid = true) : (dateText date).length = 10 := by
  simp only [Date.valid, Bool.and_eq_true, decide_eq_true_eq] at valid
  have days := daysInMonth_le date.year date.month
  have year : (padded 4 date.year).length = 4 :=
    padded_length (decimalDigits_length (by norm_num) (by omega))
  have month : (padded 2 date.month).length = 2 :=
    padded_length (decimalDigits_length (by norm_num) (by omega))
  have day : (padded 2 date.day).length = 2 :=
    padded_length (decimalDigits_length (by norm_num) (by omega))
  simp only [dateText, List.length_append, List.length_cons, year, month, day]

/-- A written date is read back. -/
theorem parseDateText_dateText {date : Date} (valid : date.valid = true) :
    parseDateText (dateText date) = some date := by
  have ranges := valid
  simp only [Date.valid, Bool.and_eq_true, decide_eq_true_eq] at ranges
  have days := daysInMonth_le date.year date.month
  have parts : splitOn '-' (dateText date) = [padded 4 date.year, padded 2 date.month, padded 2 date.day] := by
    rw [dateText, List.append_assoc, List.cons_append, splitOn_append _ fun c member => (padded_plain c member).1,
      splitOn_append _ fun c member => (padded_plain c member).1,
      splitOn_plain fun c member => (padded_plain c member).1]
  rw [parseDateText, parts]
  dsimp only
  rw [yearOfText_padded (by omega), monthOfText_padded (by omega) (by omega),
    dayOfText_padded (by omega) (by omega)]
  exact if_pos valid

theorem parseDateText_valid {cs : List Char} {date : Date} (read : parseDateText cs = some date) :
    date.valid = true := by
  unfold parseDateText at read
  split at read
  · obtain ⟨year, -, read⟩ := Option.bind_eq_some_iff.mp read
    obtain ⟨month, -, read⟩ := Option.bind_eq_some_iff.mp read
    obtain ⟨day, -, read⟩ := Option.bind_eq_some_iff.mp read
    dsimp only at read
    split at read
    · rename_i valid
      rw [← Option.some.inj read]
      exact valid
    · cases read
  · cases read

theorem dateText_plain {date : Date} : ∀ c ∈ dateText date, NumberText.isSpace c = false := by
  intro c member
  simp only [dateText, List.append_assoc, List.mem_append, List.mem_cons, List.cons_append] at member
  rcases member with year | rfl | month | rfl | day
  · exact (padded_plain c year).2
  · rfl
  · exact (padded_plain c month).2
  · rfl
  · exact (padded_plain c day).2

theorem strip_dateToText (date : Date) : strip (dateToText date) = dateToText date := by
  rw [strip, dateToText, String.toList_ofList, NumberText.strip_eq_self dateText_plain]

/-- A stored date is read back. -/
theorem parseTrendPoolDate_stored {date : Date} (valid : date.valid = true) :
    parseTrendPoolDate (.str (dateToText date)) = some date := by
  have size := dateText_length valid
  have shown : dateToText date ≠ "" := by
    intro blank
    have empty : dateText date = [] := by
      rw [← String.toList_ofList (l := dateText date)]
      exact congrArg String.toList blank
    rw [empty] at size
    cases size
  rw [parseTrendPoolDate, strip_dateToText, if_neg shown, dateToText, String.toList_ofList,
    List.take_of_length_le size.le, parseDateText_dateText valid]

theorem parseTrendPoolDate_valid {value : Value} {date : Date} (read : parseTrendPoolDate value = some date) :
    date.valid = true := by
  cases value with
  | str s =>
    rw [parseTrendPoolDate] at read
    split at read
    · cases read
    · exact parseDateText_valid read
  | _ => cases read

/-! ## The symbols and their map -/

section Symbols
variable [CharacterTable]

/-- An entry that reads back as it is. -/
def Settled (symbol base : String) : Prop := endsWithUSDT symbol = true ∧ base ≠ "" ∧ strip base = base

theorem settled_of_configured {symbol base : String} {configured : Value}
    (read : configuredBase symbol configured = some base) : Settled symbol base := by
  unfold configuredBase at read
  split at read
  · rename_i suffixed
    dsimp only at read
    split at read
    · cases read
    · rename_i shown
      rw [← Option.some.inj read]
      exact ⟨suffixed, shown, strip_strip _⟩
  · cases read

theorem configuredBase_stored {symbol base : String} (settled : Settled symbol base) :
    configuredBase symbol (.str base) = some base := by
  obtain ⟨suffixed, shown, trimmed⟩ := settled
  have kept : (Value.str base).orElse (.str (inferBaseAsset symbol)) = .str base := by
    unfold Value.orElse
    rw [if_pos]
    simpa [Value.truthy] using shown
  rw [configuredBase, if_pos suffixed, kept]
  change (if strip base = "" then none else some (strip base)) = some base
  rw [trimmed, if_neg shown]

def AllSettled (mapping : UniverseMapping) : Prop :=
  ∀ symbol base, mapping.get? symbol = some base → Settled symbol base

theorem AllSettled.entered {mapping : UniverseMapping} (settled : AllSettled mapping) (symbol : String)
    (configured : Value) : AllSettled (admitEntry mapping symbol configured) := by
  unfold admitEntry
  split
  · rename_i base read
    intro other held found
    rw [Dict.get?_set] at found
    split at found
    · rename_i same
      rw [← Option.some.inj found]
      exact same ▸ settled_of_configured read
    · exact settled other held found
  · exact settled

theorem allSettled_parsed (payload : Value) : AllSettled (parseTrendUniverseMapping payload) := by
  have empty : AllSettled (Dict.empty : UniverseMapping) := by
    intro symbol base held
    cases held
  have fold : ∀ {α : Type} (body : UniverseMapping → α → UniverseMapping),
      (∀ mapping x, AllSettled mapping → AllSettled (body mapping x)) →
      ∀ (xs : List α) (mapping : UniverseMapping), AllSettled mapping → AllSettled (xs.foldl body mapping) := by
    intro α body keeps xs
    induction xs with
    | nil => exact fun mapping settled => settled
    | cons x rest ih => exact fun mapping settled => ih _ (keeps mapping x settled)
  unfold parseTrendUniverseMapping
  split
  · dsimp only
    split
    · exact fold _ (fun mapping entry settled => settled.entered _ _) _ _ empty
    · refine fold _ (fun mapping name settled => ?_) _ _ empty
      cases name with
      | str symbol => exact settled.entered _ _
      | _ => exact settled
    · exact empty
  · exact empty

omit [CharacterTable] in
theorem setEntries_absent {entries : List (String × String)} {symbol base : String}
    (absent : symbol ∉ entries.map Prod.fst) :
    Dict.setEntries symbol base entries = entries ++ [(symbol, base)] := by
  induction entries with
  | nil => rfl
  | cons first rest ih =>
    rw [List.map_cons, List.mem_cons, not_or] at absent
    rw [Dict.setEntries, if_neg (Ne.symm absent.1), ih absent.2, List.cons_append]

/-- A stored map is read back entry by entry. -/
theorem foldl_stored {entries front : List (String × String)}
    (settled : ∀ entry ∈ entries, Settled entry.1 entry.2)
    (distinct : ((front ++ entries).map Prod.fst).Nodup) :
    (entries.map fun entry => (entry.1, baseAssetMeta entry.2)).foldl
        (fun parsed entry => admitEntry parsed entry.1 (metaBase entry.2)) (⟨front⟩ : UniverseMapping)
      = ⟨front ++ entries⟩ := by
  induction entries generalizing front with
  | nil => rw [List.append_nil]; rfl
  | cons first rest ih =>
    have absent : first.1 ∉ front.map Prod.fst := by
      rw [List.map_append, List.nodup_append] at distinct
      intro listed
      exact distinct.2.2 _ listed _ (by simp) rfl
    have admitted : admitEntry (⟨front⟩ : UniverseMapping) first.1 (metaBase (baseAssetMeta first.2))
        = ⟨front ++ [first]⟩ := by
      have configured : configuredBase first.1 (metaBase (baseAssetMeta first.2)) = some first.2 :=
        configuredBase_stored (settled first List.mem_cons_self)
      rw [admitEntry, configured]
      exact congrArg Dict.mk (setEntries_absent absent)
    rw [List.map_cons, List.foldl_cons, admitted,
      ih fun entry member => settled entry (List.mem_cons_of_mem _ member),
      List.append_assoc, List.singleton_append]
    rwa [List.append_assoc, List.singleton_append]

omit [CharacterTable] in
/-- What the deduplication keeps is distinct and mapped. -/
theorem dedup_kept {mapping : UniverseMapping} {ordered start : List String} (distinct : start.Nodup)
    (mapped : ∀ symbol ∈ start, mapping.contains symbol = true) :
    (ordered.foldl (fun deduped symbol => if mapping.contains symbol && !deduped.contains symbol then
        deduped ++ [symbol] else deduped) start).Nodup
      ∧ ∀ symbol ∈ ordered.foldl (fun deduped symbol => if mapping.contains symbol && !deduped.contains symbol then
        deduped ++ [symbol] else deduped) start, mapping.contains symbol = true := by
  induction ordered generalizing start with
  | nil => exact ⟨distinct, mapped⟩
  | cons first rest ih =>
    rw [List.foldl_cons]
    split
    · rename_i fresh
      rw [Bool.and_eq_true, Bool.not_eq_true', List.contains_eq_mem, decide_eq_false_iff_not] at fresh
      refine ih ?_ ?_
      · exact List.nodup_append.mpr ⟨distinct, List.nodup_singleton _, fun a inStart b only same =>
          fresh.2 (by rw [List.mem_singleton] at only; rwa [← only, ← same])⟩
      · intro symbol member
        rcases List.mem_append.mp member with early | last
        · exact mapped symbol early
        · rw [List.mem_singleton.mp last]
          exact fresh.1
    · exact ih distinct mapped

omit [CharacterTable] in
/-- Distinct mapped symbols are all kept. -/
theorem dedup_distinct {mapping : UniverseMapping} {ordered start : List String}
    (distinct : (start ++ ordered).Nodup) (mapped : ∀ symbol ∈ ordered, mapping.contains symbol = true) :
    ordered.foldl (fun deduped symbol => if mapping.contains symbol && !deduped.contains symbol then
      deduped ++ [symbol] else deduped) start = start ++ ordered := by
  induction ordered generalizing start with
  | nil => rw [List.append_nil]; rfl
  | cons first rest ih =>
    have absent : first ∉ start := by
      rw [List.nodup_append] at distinct
      exact fun listed => distinct.2.2 _ listed _ List.mem_cons_self rfl
    rw [List.foldl_cons, mapped first List.mem_cons_self, Bool.true_and, List.contains_eq_mem,
      decide_eq_false absent, Bool.not_false, if_pos rfl, ih, List.append_assoc, List.singleton_append]
    · rwa [List.append_assoc, List.singleton_append]
    · exact fun symbol member => mapped symbol (List.mem_cons_of_mem _ member)

omit [CharacterTable] in
theorem extracted_kept (payload : Value) (mapping : UniverseMapping) :
    (extractTrendPoolSymbols payload mapping).Nodup
      ∧ ∀ symbol ∈ extractTrendPoolSymbols payload mapping, mapping.contains symbol = true :=
  dedup_kept List.nodup_nil (by simp)

omit [CharacterTable] in
/-- The ordered map lists the symbols with their bases. -/
theorem ordered_entries {mapping : UniverseMapping} {symbols : List String}
    (mapped : ∀ symbol ∈ symbols, mapping.contains symbol = true) :
    (symbols.filterMap fun symbol => (mapping.get? symbol).map fun base => (symbol, base)).map Prod.fst = symbols
      ∧ ∀ entry ∈ symbols.filterMap fun symbol => (mapping.get? symbol).map fun base => (symbol, base),
        mapping.get? entry.1 = some entry.2 := by
  induction symbols with
  | nil => exact ⟨rfl, by simp⟩
  | cons first rest ih =>
    obtain ⟨keys, values⟩ := ih fun symbol member => mapped symbol (List.mem_cons_of_mem _ member)
    obtain ⟨base, held⟩ := Option.isSome_iff_exists.mp (mapped first List.mem_cons_self)
    rw [List.filterMap_cons_some (b := (first, base)) (by rw [held]; rfl)]
    refine ⟨by rw [List.map_cons, keys], ?_⟩
    intro entry member
    rcases List.mem_cons.mp member with rfl | later
    · exact held
    · exact values entry later

/-- A pool whose map reads back as it is. -/
structure ReadsBack (symbols : List String) (mapping : UniverseMapping) : Prop where
  keys : mapping.entries.map Prod.fst = symbols
  distinct : symbols.Nodup
  settled : ∀ entry ∈ mapping.entries, Settled entry.1 entry.2

theorem readsBack_validated (payload : Value) :
    ReadsBack (extractTrendPoolSymbols payload (parseTrendUniverseMapping payload)) (orderedSymbolMap payload) := by
  obtain ⟨distinct, mapped⟩ := extracted_kept payload (parseTrendUniverseMapping payload)
  obtain ⟨keys, values⟩ := ordered_entries mapped
  exact ⟨keys, distinct, fun entry member => allSettled_parsed payload _ _ (values entry member)⟩

section Stored
variable {symbols : List String} {mapping : UniverseMapping} {stored : Document}

/-- The stored map is parsed to the mapping it was made from. -/
theorem parse_stored (reads : ReadsBack symbols mapping) (held : pyGet stored "symbol_map"
      = .dict ⟨mapping.entries.map fun entry => (entry.1, baseAssetMeta entry.2)⟩) :
    parseTrendUniverseMapping (.dict stored) = mapping := by
  have keys : (mapping.entries.map fun entry => (entry.1, baseAssetMeta entry.2)).map Prod.fst = symbols := by
    rw [List.map_map, ← reads.keys]
    rfl
  have items : (⟨mapping.entries.map fun entry => (entry.1, baseAssetMeta entry.2)⟩ : Document).items
      = mapping.entries.map fun entry => (entry.1, baseAssetMeta entry.2) :=
    Dict.items_eq_entries (by rw [Dict.keyList, keys]; exact reads.distinct)
  have folded := @foldl_stored _ mapping.entries [] reads.settled
    (by rw [List.nil_append, reads.keys]; exact reads.distinct)
  have known : mappingOrList (pyGet stored "symbol_map") = true := by
    rw [held]
    rfl
  simp only [parseTrendUniverseMapping, if_pos known]
  rw [held]
  dsimp only
  rw [items]
  exact folded

omit [CharacterTable] in
theorem find_entries_isSome {entries : List (String × String)} {symbol : String}
    (listed : symbol ∈ entries.map Prod.fst) : (Dict.find symbol entries).isSome = true := by
  rw [Option.isSome_iff_ne_none, ne_eq, Dict.find_eq_none]
  exact not_not.mpr listed

omit [CharacterTable] in
/-- The stored symbols are extracted in their order. -/
theorem extract_stored (reads : ReadsBack symbols mapping)
    (held : pyGet stored "symbols" = .list (symbols.map Value.str)) :
    extractTrendPoolSymbols (.dict stored) mapping = symbols := by
  have kept := @dedup_distinct mapping symbols [] (by rw [List.nil_append]; exact reads.distinct)
    fun symbol member => find_entries_isSome (by rw [reads.keys]; exact member)
  unfold extractTrendPoolSymbols
  dsimp only
  rw [held]
  dsimp only
  rw [List.filterMap_map]
  change List.foldl _ [] (List.filterMap some symbols) = symbols
  rw [List.filterMap_some, kept, List.nil_append]

/-- The map ordered by the stored symbols is the stored one. -/
theorem ordered_stored (reads : ReadsBack symbols mapping)
    (map : pyGet stored "symbol_map" = .dict ⟨mapping.entries.map fun entry => (entry.1, baseAssetMeta entry.2)⟩)
    (list : pyGet stored "symbols" = .list (symbols.map Value.str)) :
    orderedSymbolMap (.dict stored) = mapping := by
  unfold orderedSymbolMap
  dsimp only
  rw [parse_stored reads map, extract_stored reads list, ← reads.keys]
  have nodup : (mapping.entries.map Prod.fst).Nodup := by
    rw [reads.keys]
    exact reads.distinct
  have look : ∀ entry ∈ mapping.entries, mapping.get? entry.1 = some entry.2 := fun entry member =>
    (Dict.find_eq_some_iff_mem mapping.entries nodup _ _).mpr member
  have same : ∀ entries : List (String × String), (∀ entry ∈ entries, mapping.get? entry.1 = some entry.2) →
      ((entries.map Prod.fst).filterMap fun symbol => (mapping.get? symbol).map fun base => (symbol, base))
        = entries := by
    intro entries found
    induction entries with
    | nil => rfl
    | cons first rest ih =>
      rw [List.map_cons, List.filterMap_cons_some (b := first) (by rw [found first List.mem_cons_self]; rfl),
        ih fun entry member => found entry (List.mem_cons_of_mem _ member)]
  exact congrArg Dict.mk (same mapping.entries look)

end Stored
end Symbols

/-! ## The texts -/

theorem strippedText_trimmed (value : Value) : strip (strippedText value) = strippedText value := by
  cases value with
  | str s => exact strip_strip s
  | _ => rfl

theorem poolMode_trimmed (settings : TrendPoolSettings) {stored : String} (trimmed : strip stored = stored) :
    strip (poolMode settings stored) = poolMode settings stored := by
  unfold poolMode
  split
  · cases modes : settings.acceptableModes with
    | nil => rfl
    | cons first rest => exact (settings.stripped first (by rw [modes]; exact List.mem_cons_self)).1
  · exact trimmed

/-- The mode that was stored or assumed stands on the next reading. -/
theorem poolMode_again (settings : TrendPoolSettings) (stored : String) :
    poolMode settings (poolMode settings stored) = poolMode settings stored := by
  by_cases blank : poolMode settings stored = ""
  · have missing : stored = "" := by
      by_contra shown
      rw [poolMode, if_neg shown] at blank
      exact shown blank
    rw [blank]
    rwa [missing] at blank
  · rw [poolMode, if_neg blank]

/-- The mode that is stored is accepted as the mode it was read from. -/
theorem modeErrors_again {settings : TrendPoolSettings} {stored : String} (clean : modeErrors settings stored = []) :
    modeErrors settings (poolMode settings stored) = [] := by
  unfold poolMode
  split
  · cases modes : settings.acceptableModes with
    | nil => simp [modeErrors, reportWhen, modes]
    | cons first rest => simp [modeErrors, reportWhen, modes]
  · exact clean

theorem poolVersion_again (stored : String) (date : Option Date) (mode : String) :
    poolVersion (poolVersion stored date mode) date mode = poolVersion stored date mode := by
  by_cases blank : poolVersion stored date mode = ""
  · have missing : stored = "" := by
      by_contra shown
      have kept : poolVersion stored date mode = stored := if_pos shown
      exact shown (kept.symm.trans blank)
    rw [blank]
    rwa [missing] at blank
  · exact if_pos blank

theorem poolVersion_trimmed {stored mode : String} (date : Option Date) (trimmed : strip stored = stored)
    (modeTrimmed : strip mode = mode) : strip (poolVersion stored date mode) = poolVersion stored date mode := by
  unfold poolVersion
  split
  · exact trimmed
  · cases date with
    | none => rfl
    | some day =>
      dsimp only
      split
      · have text : (dateToText day ++ "-" ++ mode).toList = dateText day ++ '-' :: mode.toList := by
          simp [dateToText]
        have inner : NumberText.strip mode.toList = mode.toList := by
          have held := congrArg String.toList modeTrimmed
          rwa [strip, String.toList_ofList] at held
        rw [strip, text, NumberText.strip_of_ends, ← text, String.ofList_toList]
        · intro c first
          have nonempty : dateText day ≠ [] := by simp [dateText]
          rw [List.head?_append_of_ne_nil _ nonempty] at first
          exact dateText_plain c (List.mem_of_mem_head? first)
        · intro c last
          rw [List.getLast?_append, List.getLast?_cons] at last
          cases tail : mode.toList.getLast? with
          | none =>
            rw [tail] at last
            obtain rfl : '-' = c := by simpa using last
            rfl
          | some d =>
            rw [tail] at last
            obtain rfl : d = c := by simpa using last
            exact NumberText.ends_of_strip inner d tail
      · rfl

/-! ## The errors -/

theorem reportWhen_eq_nil {condition : Prop} [Decidable condition] {key : String} {shown : List Value} :
    reportWhen condition key shown = [] ↔ ¬condition := by
  unfold reportWhen
  split <;> simp_all

/-- A pool whose size agreed once agrees with its own count. -/
theorem sizeErrors_again {settings : TrendPoolSettings} {declared : Option ℤ} {parsed : ℕ}
    (clean : sizeErrors settings declared parsed = []) : sizeErrors settings (some (parsed : ℤ)) parsed = [] := by
  simp only [sizeErrors, List.append_eq_nil_iff, reportWhen_eq_nil] at clean ⊢
  obtain ⟨⟨-, agrees⟩, expected⟩ := clean
  have same : declared.getD (parsed : ℤ) = parsed := not_not.mp agrees
  rw [same] at expected
  exact ⟨⟨by simp, by simp⟩, expected⟩

/-- A date that was not in the future never is; its age alone is no error. -/
theorem ageErrors_later {settings : TrendPoolSettings} {enforceFreshness : Bool} {now later : Instant} {date : Date}
    (clean : ageErrors settings enforceFreshness now date = []) (order : now ≤ later) :
    ageErrors settings false later date = [] := by
  have days : dayOf now ≤ dayOf later := Int.ediv_le_ediv (by decide) order
  have past : ¬dayOf now - dateDay date < 0 := by
    intro future
    rw [ageErrors, if_pos future] at clean
    cases clean
  rw [ageErrors, if_neg (by omega), reportWhen_eq_nil]
  simp

/-! ## The stored payload -/

section Accepted
variable [CharacterTable]

/-- What a pool must show for its payload to be read back as the same pool. -/
structure Stable (settings : TrendPoolSettings) (now : Instant) (pool : ValidatedPool) : Prop where
  reads : ReadsBack pool.symbols pool.symbolMap
  listed : pool.symbols ≠ []
  dated : ∃ date, date.valid = true ∧ pool.asOfDate = dateToText date
    ∧ poolVersion pool.version (some date) pool.mode = pool.version
    ∧ ∀ later, now ≤ later → ageErrors settings false later date = []
  mode : strip pool.mode = pool.mode ∧ poolMode settings pool.mode = pool.mode
    ∧ modeErrors settings pool.mode = []
  version : strip pool.version = pool.version
  size : sizeErrors settings (some (pool.symbols.length : ℤ)) pool.symbols.length = []
  project : strip pool.sourceProject = pool.sourceProject ∧ pool.sourceProject ≠ ""

theorem stable_of_accepted {settings : TrendPoolSettings} {enforceFreshness : Bool} {now : Instant}
    {sourceLabel : String} {payload : Value} {fields : Document}
    (accepted : (validatedPool settings enforceFreshness now sourceLabel payload fields).accepted = true) :
    Stable settings now (validatedPool settings enforceFreshness now sourceLabel payload fields) := by
  have clean : (validatedPool settings enforceFreshness now sourceLabel payload fields).errors = [] :=
    List.isEmpty_iff.mp accepted
  simp only [validatedPool, List.append_eq_nil_iff, reportWhen_eq_nil] at clean
  obtain ⟨⟨⟨⟨⟨dated, modes⟩, -⟩, listed⟩, size⟩, ages⟩ := clean
  obtain ⟨date, read⟩ := Option.ne_none_iff_exists'.mp dated
  rw [read, Option.map_some, Option.getD_some] at ages
  have modeTrimmed := poolMode_trimmed settings (strippedText_trimmed (pyGet fields "mode"))
  refine ⟨readsBack_validated payload, listed, ⟨date, parseTrendPoolDate_valid read, ?_, ?_, ?_⟩,
    ⟨modeTrimmed, poolMode_again settings _, modeErrors_again modes⟩, ?_, sizeErrors_again size, ?_⟩
  · simp only [validatedPool, read, Option.map_some, Option.getD_some]
  · simp only [validatedPool, read]
    exact poolVersion_again _ _ _
  · exact fun later order => ageErrors_later ages order
  · exact poolVersion_trimmed _ (strippedText_trimmed _) modeTrimmed
  · by_cases unnamed : strippedText (pyGet fields "source_project") = ""
    · simp only [validatedPool, if_pos unnamed]
      decide
    · simp only [validatedPool, if_neg unnamed]
      exact ⟨strippedText_trimmed _, unnamed⟩

/-- A stable pool's own payload is accepted at every later time and gives the pool again. -/
theorem validated_again {settings : TrendPoolSettings} {now later : Instant} {pool : ValidatedPool}
    (stable : Stable settings now pool) (order : now ≤ later) (label : String) :
    ∃ again, validateTrendPoolPayload settings false later label (.dict pool.payload) = .ok again
      ∧ again.accepted = true ∧ again.symbols = pool.symbols ∧ again.symbolMap = pool.symbolMap
      ∧ again.version = pool.version ∧ again.mode = pool.mode ∧ again.asOfDate = pool.asOfDate
      ∧ again.sourceProject = pool.sourceProject := by
  obtain ⟨date, valid, shown, dated, young⟩ := stable.dated
  have list : pyGet pool.payload "symbols" = .list (pool.symbols.map Value.str) := rfl
  have map : pyGet pool.payload "symbol_map"
      = .dict ⟨pool.symbolMap.entries.map fun entry => (entry.1, baseAssetMeta entry.2)⟩ := rfl
  have parsed := parse_stored stable.reads map
  have symbols : extractTrendPoolSymbols (.dict pool.payload) pool.symbolMap = pool.symbols :=
    extract_stored stable.reads list
  have ordered := ordered_stored stable.reads map list
  have dateRead : parseTrendPoolDate (pyGet pool.payload "as_of_date") = some date := by
    change parseTrendPoolDate (.str pool.asOfDate) = some date
    rw [shown, parseTrendPoolDate_stored valid]
  have modeRead : strippedText (pyGet pool.payload "mode") = pool.mode := stable.mode.1
  have versionRead : strippedText (pyGet pool.payload "version") = pool.version := stable.version
  have projectRead : strippedText (pyGet pool.payload "source_project") = pool.sourceProject := stable.project.1
  have sizeRead : integerOf ((pool.payload.get? "pool_size").getD (.int pool.symbols.length))
      = some (pool.symbols.length : ℤ) := rfl
  have hashed : hashableSymbols (.dict pool.payload) = true := by
    rw [hashableSymbols, list]
    simp [Value.hashable]
  have filled : pool.symbolMap.items ≠ [] := by
    rw [Dict.items_eq_entries (by rw [Dict.keyList, stable.reads.keys]; exact stable.reads.distinct)]
    intro empty
    have keys := stable.reads.keys
    rw [empty] at keys
    exact stable.listed keys.symm
  refine ⟨validatedPool settings false later label (.dict pool.payload) pool.payload,
    validateTrendPoolPayload_ok.mpr ⟨hashed, _, rfl, rfl⟩, ?_, ?_⟩
  · apply List.isEmpty_iff.mpr
    simp only [validatedPool, parsed, symbols, dateRead, modeRead, sizeRead, Option.map_some, Option.getD_some,
      List.append_eq_nil_iff, reportWhen_eq_nil]
    exact ⟨⟨⟨⟨⟨by simp, stable.mode.2.2⟩, filled⟩, stable.listed⟩, stable.size⟩, young later order⟩
  · simp only [validatedPool, parsed, symbols, ordered, dateRead, modeRead, versionRead, projectRead, stable.mode.2.1,
      if_neg stable.project.2, dated, shown, Option.map_some, Option.getD_some, and_self]

/-- The stored payload survives the merge of the state's defaults. -/
theorem get?_stored {trendUniverse : TrendUniverse} {state normalized : Document} {pool : ValidatedPool}
    {degraded : Bool} {loadedAt : Instant} {messages : List String}
    (saved : normalizeTradeState trendUniverse (.dict (updateTrendPoolState state
      (buildTrendPoolResolution pool "fresh_upstream" degraded loadedAt messages))) = .ok normalized) :
    normalized.get? trendPoolLastGoodPayloadKey = some (.dict pool.payload) := by
  have default : Dict.find trendPoolLastGoodPayloadKey defaultFields = some emptyDict := rfl
  have held := get?_normalized_default saved default (not_symbol_of_suffix trendUniverse (by decide)) (by decide)
    (by decide)
  have distinct : pool.payload.keyList.Nodup := by
    change (["as_of_date", "version", "mode", "pool_size", "symbols", "symbol_map", "source_project"]
      : List String).Nodup
    decide
  rw [held, updateTrendPoolState, buildTrendPoolResolution]
  dsimp only
  rw [if_pos rfl, Dict.get?_set_self]
  change some (Value.dict (Dict.empty.update pool.payload)) = some (.dict pool.payload)
  rw [Dict.update, Dict.items_eq_entries distinct, Dict.setAll_empty distinct]

/-- A pool accepted with freshness enforced, stored and normalized with the state, is the
last known good pool at every later time, with the same symbols, map, version, mode, date
and project. -/
theorem last_good_pool_stays_acceptable {settings : TrendPoolSettings} {now later loadedAt : Instant}
    {sourceLabel : String} {payload : Value} {pool : ValidatedPool}
    (validated : validateTrendPoolPayload settings true now sourceLabel payload = .ok pool)
    (accepted : pool.accepted = true) {trendUniverse : TrendUniverse} {state normalized : Document}
    {degraded : Bool} {messages : List String}
    (saved : normalizeTradeState trendUniverse (.dict (updateTrendPoolState state
      (buildTrendPoolResolution pool "fresh_upstream" degraded loadedAt messages))) = .ok normalized)
    (order : now ≤ later) :
    ∃ again, getLastKnownGoodTrendPool normalized later settings = .ok again ∧ again.accepted = true
      ∧ again.symbols = pool.symbols ∧ again.symbolMap = pool.symbolMap ∧ again.version = pool.version
      ∧ again.mode = pool.mode ∧ again.asOfDate = pool.asOfDate ∧ again.sourceProject = pool.sourceProject := by
  obtain ⟨-, fields, -, rfl⟩ := validateTrendPoolPayload_ok.mp validated
  obtain ⟨again, found, rest⟩ :=
    validated_again (stable_of_accepted accepted) order "state:last_known_good"
  refine ⟨again, ?_, rest⟩
  rw [getLastKnownGoodTrendPool, get?_stored saved, Option.getD_some, found]

end Accepted

/-! ## A pool of one symbol -/

local instance : CharacterTable := asciiTable

def coreMajor : TrendPoolSettings where
  maxAgeDays := 7
  acceptableModes := ["core_major"]
  expectedPoolSize := 1
  stripped := by decide

/-- A payload that names no mode and no version and repeats its symbol. -/
def etherPayload : Document :=
  ⟨[("as_of_date", .str "2026-09-12"), ("symbols", .list [.str "ETHUSDT", .str "ETHUSDT"])]⟩

def etherPool : ValidatedPool :=
  validatedPool coreMajor true 1789207200000000 "upstream" (.dict etherPayload) etherPayload

def etherState : Document :=
  updateTrendPoolState .empty (buildTrendPoolResolution etherPool "fresh_upstream" false 1789207200000000 [])

theorem last_good_pool_stays_acceptable_ether :
    ∃ normalized again, normalizeTradeState ⟨[], List.nodup_nil, by simp⟩ (.dict etherState) = .ok normalized
      ∧ getLastKnownGoodTrendPool normalized 1799207200000000 coreMajor = .ok again ∧ again.accepted = true
      ∧ again.symbols = ["ETHUSDT"] ∧ again.mode = "core_major" ∧ again.asOfDate = "2026-09-12"
      ∧ again.sourceProject = "unknown" := by
  obtain ⟨normalized, saved⟩ := (normalizeTradeState_returns_iff ⟨[], List.nodup_nil, by simp⟩ etherState).mpr
    (by intro recorded; cases recorded)
  obtain ⟨again, found, accepted, symbols, -, -, mode, date, project⟩ :=
    last_good_pool_stays_acceptable (validateTrendPoolPayload_ok.mpr ⟨rfl, etherPayload, rfl, rfl⟩)
      (show etherPool.accepted = true by decide +kernel) saved
      (show (1789207200000000 : Instant) ≤ 1799207200000000 by decide)
  refine ⟨normalized, again, saved, found, accepted, symbols.trans ?_, mode.trans ?_, date.trans ?_, project.trans ?_⟩
  all_goals exact (by decide +kernel)

end BinancePlatform.Guarantees.LastGoodPool
