import BinancePlatform.Source.FloatText
import BinancePlatform.Source.JsonReader
import BinancePlatform.Source.Equality

/-!
# Documents are read back

`json.loads` of a written document gives the document with the entries of every
mapping in the order of their keys (`jsonLoads_written`). That form is equal to the
document as Python compares the two, and it is written alike.
-/

set_option autoImplicit false

namespace BinancePlatform.Source
namespace JsonReader
open BinancePlatform.Library NumberText

/-- The text does not go on with a digit. -/
def NoDigit (rest : List Char) : Prop := ∀ c ∈ rest.head?, c.isDigit = false

theorem Follows.noDigit {rest : List Char} (follows : Follows rest) : NoDigit rest := by
  intro c first
  rcases follows c first with rfl | rfl | rfl <;> decide

theorem isDigit_digitChar {d : ℕ} (small : d < 10) :
    (digitChar d).isDigit = true ∧ (digitChar d).toNat - '0'.toNat = d := by
  interval_cases d <;> decide

theorem digitsOf_digitText {ds : List ℕ} (digits : ∀ d ∈ ds, d < 10) {rest : List Char}
    (ends : NoDigit rest) : digitsOf (digitText ds ++ rest) = digitText ds := by
  induction ds with
  | nil =>
    cases rest with
    | nil => rfl
    | cons c more =>
      have stop := ends c rfl
      simp [digitsOf, digitText, stop]
  | cons d ds ih =>
    have first := (isDigit_digitChar (digits d List.mem_cons_self)).1
    have others := ih fun e member => digits e (List.mem_cons_of_mem d member)
    simp only [digitsOf, digitText, List.map_cons, List.cons_append, List.takeWhile_cons, first,
      if_true] at others ⊢
    rw [others]

theorem noDigit_powerTail (power : Option ℤ) {rest : List Char} (ends : NoDigit rest) :
    NoDigit (powerTail power ++ rest) := by
  cases power with
  | none => simpa [powerTail] using ends
  | some k =>
    intro c first
    obtain rfl : 'e' = c := by simpa [powerTail, powerText] using first
    decide

theorem noDigit_fracText (frac : List ℕ) {rest : List Char} (ends : NoDigit rest) :
    NoDigit (fracText frac ++ rest) := by
  unfold fracText
  split
  · simpa using ends
  · intro c first
    obtain rfl : '.' = c := by simpa using first
    decide

theorem digitChar_ne {d : ℕ} (small : d < 10) {c : Char} (other : c.isDigit = false) : digitChar d ≠ c := by
  rintro rfl
  rw [(isDigit_digitChar small).1] at other
  cases other

theorem zero_of_digitChar {d : ℕ} (small : d < 10) (zero : digitChar d = '0') : d = 0 := by
  have value := (isDigit_digitChar small).2
  rw [zero] at value
  exact value.symm

/-- The first group of a number. -/
theorem wholePart {whole : List ℕ} (leading : Leading whole) {rest : List Char} (ends : NoDigit rest) :
    (if (digitText whole ++ rest).head? = some '0' then ['0'] else digitsOf (digitText whole ++ rest))
      = digitText whole := by
  rcases leading.lead with rfl | ⟨d, more, rfl, nonzero⟩
  · rw [if_pos (by rfl)]
    rfl
  · rw [if_neg, digitsOf_digitText leading.digits ends]
    intro zero
    exact nonzero (zero_of_digitChar (leading.digits d List.mem_cons_self) (Option.some.inj zero))

/-- The second group. -/
theorem fracPart {frac : List ℕ} (digits : ∀ d ∈ frac, d < 10) {rest : List Char}
    (ends : NoDigit rest) (noPoint : rest.head? ≠ some '.') :
    (if (fracText frac ++ rest).head? = some '.' ∧ (digitsOf (fracText frac ++ rest).tail).length ≠ 0 then
      '.' :: digitsOf (fracText frac ++ rest).tail else []) = fracText frac := by
  unfold fracText
  split
  case isTrue none =>
    rw [if_neg]
    exact fun point => noPoint point.1
  case isFalse some =>
    have tail : ('.' :: digitText frac ++ rest).tail = digitText frac ++ rest := rfl
    have filled : (digitText frac).length ≠ 0 := by simpa [digitText] using some
    rw [tail, digitsOf_digitText digits ends, if_pos ⟨rfl, filled⟩]

/-- The third group. -/
theorem powerPart (power : Option ℤ) {rest : List Char} (follows : Follows rest) :
    (if ((powerTail power ++ rest).head? = some 'e' ∨ (powerTail power ++ rest).head? = some 'E')
        ∧ ¬ (digitsOf ((powerTail power ++ rest).drop (1
          + (if ((powerTail power ++ rest).drop 1).head? = some '-'
              ∨ ((powerTail power ++ rest).drop 1).head? = some '+' then
            ((powerTail power ++ rest).drop 1).take 1 else []).length))).isEmpty then
      (powerTail power ++ rest).take 1
        ++ (if ((powerTail power ++ rest).drop 1).head? = some '-'
              ∨ ((powerTail power ++ rest).drop 1).head? = some '+' then
            ((powerTail power ++ rest).drop 1).take 1 else [])
        ++ digitsOf ((powerTail power ++ rest).drop (1
          + (if ((powerTail power ++ rest).drop 1).head? = some '-'
              ∨ ((powerTail power ++ rest).drop 1).head? = some '+' then
            ((powerTail power ++ rest).drop 1).take 1 else []).length))
      else []) = powerTail power := by
  cases power with
  | none =>
    rw [if_neg]
    · rfl
    · rintro ⟨marked, -⟩
      rcases marked with mark | mark
      · rcases follows 'e' mark with same | same | same <;> revert same <;> decide
      · rcases follows 'E' mark with same | same | same <;> revert same <;> decide
  | some k =>
    obtain ⟨digits, nonempty, -⟩ := powerDigits_spec k
    have read := digitsOf_digitText digits follows.noDigit
    have shape : powerTail (some k) ++ rest
        = 'e' :: (if k < 0 then '-' else '+') :: (digitText (powerDigits k) ++ rest) := by
      rw [powerTail, Option.elim_some, powerText_eq]
      rfl
    have signed : (if k < 0 then '-' else '+') = '-' ∨ (if k < 0 then '-' else '+') = '+' := by
      split
      · exact .inl rfl
      · exact .inr rfl
    have sign : (if ((powerTail (some k) ++ rest).drop 1).head? = some '-'
        ∨ ((powerTail (some k) ++ rest).drop 1).head? = some '+' then
          ((powerTail (some k) ++ rest).drop 1).take 1 else [])
        = [if k < 0 then '-' else '+'] := by
      rw [shape, if_pos]
      · rfl
      · rcases signed with minus | plus
        · exact .inl (congrArg some minus)
        · exact .inr (congrArg some plus)
    have after : (powerTail (some k) ++ rest).drop (1 + [if k < 0 then '-' else '+'].length)
        = digitText (powerDigits k) ++ rest := by
      rw [shape]
      rfl
    have filled : (digitText (powerDigits k)).isEmpty = false := by
      simpa [digitText] using nonempty
    have marked : (powerTail (some k) ++ rest).head? = some 'e' := by
      rw [shape]
      rfl
    have letter : (powerTail (some k) ++ rest).take 1 = ['e'] := by
      rw [shape]
      rfl
    rw [sign, after, read, marked, letter, if_pos ⟨.inl rfl, by simp [filled]⟩, powerTail, Option.elim_some,
      powerText_eq]
    rfl

theorem head_signText (negative : Bool) {whole : List ℕ} (leading : Leading whole) (rest : List Char) :
    (if (signText negative ++ (digitText whole ++ rest)).head? = some '-' then ['-'] else [])
      = signText negative := by
  obtain ⟨d, more, rfl⟩ := List.exists_cons_of_ne_nil leading.nonempty
  cases negative with
  | true => rfl
  | false =>
    rw [if_neg]
    · rfl
    · intro minus
      exact digitChar_ne (leading.digits d List.mem_cons_self) (by decide) (Option.some.inj minus)

/-- The groups of a spelled number, up to what follows it. -/
theorem numberParts_spelled (negative : Bool) {whole frac : List ℕ} (leading : Leading whole)
    (digits : ∀ d ∈ frac, d < 10) (power : Option ℤ) {rest : List Char} (follows : Follows rest) :
    numberParts (signText negative ++ (spelled whole frac power ++ rest))
      = some (signText negative ++ digitText whole, fracText frac, powerTail power) := by
  have endsPower := noDigit_powerTail power follows.noDigit
  have endsFrac := noDigit_fracText frac endsPower
  have noPoint : (powerTail power ++ rest).head? ≠ some '.' := by
    intro point
    cases power with
    | none => rcases follows '.' point with same | same | same <;> revert same <;> decide
    | some k =>
      have first : 'e' = '.' := Option.some.inj point
      revert first
      decide
  have shape : spelled whole frac power ++ rest
      = digitText whole ++ (fracText frac ++ (powerTail power ++ rest)) := by
    rw [spelled, List.append_assoc, List.append_assoc]
  have filled : (digitText whole).isEmpty = false := by
    simpa [digitText] using leading.nonempty
  rw [shape]
  simp only [numberParts, head_signText negative leading, List.drop_left, wholePart leading endsFrac,
    fracPart digits endsPower noPoint, powerPart power follows]
  simp [filled]

/-! ## Numbers -/

theorem digits_filtered (negative : Bool) {whole : List ℕ} (digits : ∀ d ∈ whole, d < 10) :
    (signText negative ++ digitText whole).filter Char.isDigit = digitText whole
      ∧ (digitText whole).map (fun c => c.toNat - '0'.toNat) = whole := by
  have kept : (digitText whole).filter Char.isDigit = digitText whole := by
    rw [List.filter_eq_self]
    intro c member
    obtain ⟨d, inDigits, rfl⟩ := List.mem_map.mp member
    exact (isDigit_digitChar (digits d inDigits)).1
  constructor
  · rw [List.filter_append, kept]
    cases negative <;> rfl
  · rw [digitText, List.map_map]
    refine (List.map_congr_left fun d inDigits => ?_).trans (List.map_id _)
    exact (isDigit_digitChar (digits d inDigits)).2

theorem intText_spelled (n : ℤ) :
    intText n = signText (decide (n < 0)) ++ spelled (decimalDigits n.natAbs) [] none := by
  by_cases negative : n < 0
  · simp [intText, negative, signText, spelled, fracText, powerTail, natText]
  · simp [intText, negative, signText, spelled, fracText, powerTail, natText]

/-- An integer of at most 4300 digits is read back. -/
theorem readNumber_intText {n : ℤ} (short : (decimalDigits n.natAbs).length ≤ 4300) {rest : List Char}
    (follows : Follows rest) : readNumber (intText n ++ rest) = some (.int n, rest) := by
  have leading := leading_decimalDigits n.natAbs
  obtain ⟨kept, values⟩ := digits_filtered (decide (n < 0)) leading.digits
  have none' : ∀ d ∈ ([] : List ℕ), d < 10 := by simp
  have parts := numberParts_spelled (decide (n < 0)) leading none' none follows
  have sign : (signText (decide (n < 0)) ++ digitText (decimalDigits n.natAbs)).head? = some '-' ↔ n < 0 := by
    obtain ⟨d, more, shape⟩ := List.exists_cons_of_ne_nil leading.nonempty
    have small := leading.digits d (by rw [shape]; exact List.mem_cons_self)
    rw [shape]
    by_cases negative : n < 0
    · simp [signText, negative]
    · simp only [signText, negative, decide_false, iff_false]
      intro minus
      exact digitChar_ne small (by decide) (Option.some.inj minus)
  rw [intText_spelled, List.append_assoc, readNumber, parts]
  simp only [Option.bind_eq_bind, Option.bind_some, kept, values, ofDigits_decimalDigits, sign]
  have groups : signText (decide (n < 0)) ++ digitText (decimalDigits n.natAbs) ++ fracText []
      ++ powerTail none = signText (decide (n < 0)) ++ spelled (decimalDigits n.natAbs) [] none := by
    simp [spelled, fracText, powerTail]
  rw [groups, ← List.append_assoc, List.drop_left, if_pos ⟨rfl, rfl⟩, if_neg (by simpa [digitText] using short)]
  by_cases negative : n < 0
  · simp only [negative, if_true, Option.some.injEq, Prod.mk.injEq, Value.int.injEq, and_true]
    omega
  · simp only [negative, if_false, Option.some.injEq, Prod.mk.injEq, Value.int.injEq, and_true]
    omega

end JsonReader

/-! ## Floats -/

namespace PyFloat
open BinancePlatform.Library NumberText

theorem nearest_of_round {negative : Bool} {magnitude : ℚ≥0} {x : ℚ} (grid : Binary64.OnGrid magnitude)
    (rounds : Binary64.round x = magnitude) : nearest negative x = .finite negative magnitude := by
  have below : ¬ Binary64.overflow ≤ x := by
    intro above
    have rounded := Binary64.round_mono above
    rw [Binary64.round_overflow, rounds] at rounded
    exact absurd grid.below (not_lt.mpr rounded)
  rw [nearest, if_neg below, rounds, NNRat.toNNRat_coe]

theorem ofText_spelled {negative : Bool} {magnitude : ℚ≥0} {c : ℕ} {e : ℤ} {whole frac : List ℕ}
    {power : Option ℤ} (grid : Binary64.OnGrid magnitude)
    (spells : Spells (spelled whole frac power) c e whole frac power)
    (rounds : Binary64.round (c * (10 : ℚ) ^ e) = magnitude) :
    ofText (String.ofList (signText negative ++ spelled whole frac power)) = .ok (.finite negative magnitude) := by
  rw [ofText, String.toList_ofList, readFloat_spelled negative spells.leading spells.digits power]
  have value : |(Decimal.mk negative (ofDigits (whole ++ frac)) (power.getD 0 - frac.length)).value|
      = c * (10 : ℚ) ^ e := by
    rw [← spells.value]
    have step := Decimal.ten_zpow_pos (power.getD 0 - frac.length)
    cases negative <;> simp [Decimal.value, Decimal.signed, abs_mul, abs_of_pos step]
  exact congrArg Except.ok (by rw [value]; exact nearest_of_round grid rounds)

end PyFloat

namespace JsonReader
open BinancePlatform.Library NumberText

/-- A finite float is read back from its text. -/
theorem readNumber_repr {negative : Bool} {magnitude : ℚ≥0} (grid : Binary64.OnGrid magnitude)
    {rest : List Char} (follows : Follows rest) :
    readNumber ((PyFloat.finite negative magnitude).repr ++ rest)
      = some (.float (.finite negative magnitude), rest) := by
  obtain ⟨whole, frac, power, c, e, spells, shown, rounds⟩ := @PyFloat.repr_spells negative magnitude grid
  have parts := numberParts_spelled negative spells.leading spells.digits power follows
  have groups : signText negative ++ digitText whole ++ fracText frac ++ powerTail power
      = signText negative ++ spelled whole frac power := by
    rw [spelled, List.append_assoc, List.append_assoc]
  have marked : ¬ ((fracText frac).isEmpty = true ∧ (powerTail power).isEmpty = true) := by
    rintro ⟨noFrac, noPower⟩
    rcases spells.float with some | some
    · simp [fracText, some] at noFrac
    · obtain ⟨k, rfl⟩ := Option.isSome_iff_exists.mp some
      simp [powerTail, powerText] at noPower
  rw [shown, List.append_assoc, readNumber, parts]
  simp only [Option.bind_eq_bind, Option.bind_some]
  rw [if_neg marked, groups, PyFloat.ofText_spelled grid spells rounds, ← List.append_assoc, List.drop_left]

end JsonReader
/-! ## The form that is read -/

namespace Value
open BinancePlatform.Library

mutual

/-- The value with the entries of every mapping in the order in which they are written. -/
def canon : Value → Value
  | .none => .none
  | .bool b => .bool b
  | .int n => .int n
  | .float x => .float x
  | .str s => .str s
  | .list items => .list (canonItems items)
  | .dict entries => .dict (canonDict entries)

def canonDict : Dict String Value → Document
  | ⟨entries⟩ => ⟨(Dict.dedupe (canonEntries entries)).insertionSort fun a b => a.1 ≤ b.1⟩

def canonItems : List Value → List Value
  | [] => []
  | item :: rest => item.canon :: canonItems rest

def canonEntries : List (String × Value) → List (String × Value)
  | [] => []
  | entry :: rest => canonEntry entry :: canonEntries rest

def canonEntry : String × Value → String × Value
  | (key, value) => (key, value.canon)

end

mutual

/-- Every finite float inside is a binary64 value. -/
def Native : Value → Prop
  | .float x => x.Native
  | .list items => NativeItems items
  | .dict entries => NativeDict entries
  | _ => True

def NativeDict : Dict String Value → Prop
  | ⟨entries⟩ => ∀ e ∈ Dict.dedupe (nativeEntries entries), e.2

def NativeItems : List Value → Prop
  | [] => True
  | item :: rest => item.Native ∧ NativeItems rest

def nativeEntries : List (String × Value) → List (String × Prop)
  | [] => []
  | entry :: rest => nativeEntry entry :: nativeEntries rest

def nativeEntry : String × Value → String × Prop
  | (key, value) => (key, value.Native)

end

/-- Induction over a value, where the entries of a mapping are those that count. -/
theorem induct {P : Value → Prop} (none : P .none) (bool : ∀ b, P (.bool b)) (int : ∀ n, P (.int n))
    (float : ∀ x, P (.float x)) (str : ∀ s, P (.str s))
    (list : ∀ items, (∀ v ∈ items, P v) → P (.list items))
    (dict : ∀ d : Document, (∀ e ∈ d.entries, P e.2) → P (.dict d)) (v : Value) : P v :=
  @Value.rec P (fun items => ∀ v ∈ items, P v) (fun d => ∀ e ∈ d.entries, P e.2)
    (fun entries => ∀ e ∈ entries, P e.2) (fun e => P e.2) none bool int float str list dict
    (fun _ member => nomatch member)
    (fun _ _ first others => List.forall_mem_cons.mpr ⟨first, others⟩)
    (fun _ each => each)
    (fun _ member => nomatch member)
    (fun _ _ first others => List.forall_mem_cons.mpr ⟨first, others⟩)
    (fun _ _ each => each) v

theorem canonItems_eq (items : List Value) : canonItems items = items.map canon := by
  induction items with
  | nil => rfl
  | cons item rest ih => rw [canonItems, ih, List.map_cons]

theorem canonEntries_eq (entries : List (String × Value)) :
    canonEntries entries = entries.map fun e => (e.1, e.2.canon) := by
  induction entries with
  | nil => rfl
  | cons entry rest ih =>
    obtain ⟨key, value⟩ := entry
    rw [canonEntries, canonEntry, ih, List.map_cons]

theorem canonDict_eq (d : Document) :
    canonDict d = ⟨(sortedItems d).map fun e => (e.1, e.2.canon)⟩ := by
  obtain ⟨entries⟩ := d
  rw [canonDict, canonEntries_eq, Dict.dedupe_map]
  exact congrArg Dict.mk (List.map_insertionSort (fun a b : String × Value => a.1 ≤ b.1)
    (fun a b : String × Value => a.1 ≤ b.1) (fun e => (e.1, e.2.canon)) _ fun a _ b _ => Iff.rfl).symm

theorem get?_canonDict (d : Document) (key : String) :
    (canonDict d).get? key = (d.get? key).map canon := by
  have sorted : Dict.find key (sortedItems d) = d.get? key := by
    apply Option.ext
    intro value
    have distinct : ((sortedItems d).map Prod.fst).Nodup :=
      ((perm_sortedItems d).map Prod.fst).nodup_iff.mpr d.items_nodup
    rw [Dict.find_eq_some_iff_mem _ distinct, (perm_sortedItems d).mem_iff, Dict.mem_items]
  rw [canonDict_eq, Dict.get?, Dict.find_map, sorted]

theorem mem_keys_canonDict (d : Document) (key : String) : key ∈ (canonDict d).keys ↔ key ∈ d.keys := by
  rw [Dict.mem_keys, Dict.mem_keys, get?_canonDict, Option.isSome_map]

theorem pyGet_canonDict (d : Document) (key : String) : pyGet (canonDict d) key = (pyGet d key).canon := by
  rw [pyGet, pyGet, get?_canonDict]
  cases d.get? key <;> rfl

theorem native_item {items : List Value} (native : NativeItems items) : ∀ v ∈ items, v.Native := by
  induction items with
  | nil => simp
  | cons item rest ih => exact List.forall_mem_cons.mpr ⟨native.1, ih native.2⟩

theorem nativeEntries_eq (entries : List (String × Value)) :
    nativeEntries entries = entries.map fun e => (e.1, e.2.Native) := by
  induction entries with
  | nil => rfl
  | cons entry rest ih =>
    obtain ⟨key, value⟩ := entry
    rw [nativeEntries, nativeEntry, ih, List.map_cons]

theorem native_dict (d : Document) :
    (Value.dict d).Native ↔ ∀ key value, d.get? key = some value → value.Native := by
  obtain ⟨entries⟩ := d
  rw [Native, NativeDict, nativeEntries_eq, Dict.dedupe_map, List.forall_mem_map]
  constructor
  · exact fun each key value stored => each (key, value) ((Dict.mem_items _ _ _).mpr stored)
  · exact fun each e member => each e.1 e.2 ((Dict.mem_items _ _ _).mp member)

end Value

/-! ## It is written alike, and equal -/

section Forms
open BinancePlatform.Library

theorem jsonItems_eq (items : List Value) : Value.jsonItems items = items.mapM Value.json := by
  induction items with
  | nil => rfl
  | cons item rest ih =>
    rw [Value.jsonItems, ih, List.mapM_cons]

/-- A mapping is written from the texts of its values. -/
theorem json_congr {d e : Document}
    (same : ∀ key, (d.get? key).map Value.json = (e.get? key).map Value.json) :
    (Value.dict d).json = (Value.dict e).json := by
  have keys : (sortedItems d).map Prod.fst = (sortedItems e).map Prod.fst := by
    refine sortedItems_of_keys (sortedItems_keys e) fun key => ?_
    rw [Dict.mem_keys, ← Option.isSome_map, same, Option.isSome_map, ← Dict.mem_keys, Dict.keys]
    exact (((perm_sortedItems e).map Prod.fst).mem_iff).symm
  have members : (sortedItems d).map memberText = (sortedItems e).map memberText := by
    refine List.ext_getElem (by simpa using congrArg List.length keys) fun i hi hj => ?_
    rw [List.length_map] at hi hj
    have key : (sortedItems d)[i].1 = (sortedItems e)[i].1 := by
      have both := List.getElem_of_eq keys (by simpa using hi)
      rwa [List.getElem_map, List.getElem_map] at both
    have value : (sortedItems d)[i].2.json = (sortedItems e)[i].2.json := by
      have both := same (sortedItems d)[i].1
      rw [get?_of_sortedItems (List.getElem_mem hi), key, get?_of_sortedItems (List.getElem_mem hj)] at both
      exact Option.some.inj both
    rw [List.getElem_map, List.getElem_map, memberText, memberText, key, value]
  rw [json_dict, json_dict, mapM_congr_map members]

theorem json_canon (v : Value) : v.canon.json = v.json := by
  induction v using Value.induct with
  | none | bool | int | float | str => rfl
  | list items ih =>
    have same : (items.map Value.canon).mapM Value.json = items.mapM Value.json := by
      apply mapM_congr_map
      rw [List.map_map]
      exact List.map_congr_left ih
    rw [Value.canon, Value.json, Value.json, Value.canonItems_eq, jsonItems_eq, jsonItems_eq, same]
  | dict d ih =>
    rw [Value.canon]
    refine json_congr fun key => ?_
    rw [Value.get?_canonDict]
    cases stored : d.get? key with
    | none => rfl
    | some value => exact congrArg some (ih _ (Dict.mem_of_find stored))

/-- The parts of a written list and of a written mapping are written. -/
theorem json_list_ok {items : List Value} {text : List Char} (written : (Value.list items).json = .ok text) :
    ∃ texts, List.Forall₂ (fun (v : Value) t => v.json = .ok t) items texts
      ∧ text = '[' :: commaSeparated texts ++ [']'] := by
  rw [Value.json, jsonItems_eq] at written
  obtain ⟨texts, each, rfl⟩ := map_ok written
  exact ⟨texts, mapM_ok each, rfl⟩

theorem json_dict_ok {d : Document} {text : List Char} (written : (Value.dict d).json = .ok text) :
    ∃ members : List (String × List Char), List.Forall₂ (fun (e : String × Value) m => m.1 = e.1 ∧ e.2.json = .ok m.2)
        (sortedItems d) members
      ∧ text = '{' :: commaSeparated (members.map JsonReader.memberOf) ++ ['}'] := by
  rw [json_dict] at written
  obtain ⟨texts, each, rfl⟩ := map_ok written
  have paired := mapM_ok each
  suffices split : ∃ members : List (String × List Char),
      List.Forall₂ (fun (e : String × Value) m => m.1 = e.1 ∧ e.2.json = .ok m.2) (sortedItems d) members
        ∧ texts = members.map JsonReader.memberOf by
    obtain ⟨members, related, rfl⟩ := split
    exact ⟨members, related, rfl⟩
  clear each written
  generalize sortedItems d = items at paired ⊢
  induction paired with
  | nil => exact ⟨[], .nil, rfl⟩
  | @cons e t entries texts head _ ih =>
    obtain ⟨members, related, rfl⟩ := ih
    obtain ⟨found, own, rfl⟩ := map_ok head
    exact ⟨(e.1, found) :: members, .cons ⟨rfl, own⟩ related, rfl⟩

theorem json_of_get? {d : Document} {text : List Char} (written : (Value.dict d).json = .ok text)
    {key : String} {value : Value} (stored : d.get? key = some value) : ∃ own, value.json = .ok own := by
  obtain ⟨members, related, -⟩ := json_dict_ok written
  have member : (key, value) ∈ sortedItems d :=
    (perm_sortedItems d).mem_iff.mpr ((Dict.mem_items _ _ _).mpr stored)
  obtain ⟨m, -, -, own⟩ := forall₂_exists related member
  exact ⟨_, own⟩

/-- A mapping is written if all its values are. -/
theorem json_total {d : Document}
    (each : ∀ key value, d.get? key = some value → ∃ text, value.json = .ok text) :
    ∃ text, (Value.dict d).json = .ok text := by
  have members : ∀ e ∈ sortedItems d, ∃ text, memberText e = .ok text := by
    intro e member
    obtain ⟨text, own⟩ := each e.1 e.2 (get?_of_sortedItems member)
    exact ⟨_, by rw [memberText, jsonMember, own]; rfl⟩
  obtain ⟨texts, written⟩ := mapM_total members
  exact ⟨_, by rw [json_dict, written]; rfl⟩

/-- What can be written is equal to its form that is read. -/
theorem equals_canon (v : Value) : ∀ {text : List Char}, v.json = .ok text → v.equals v.canon = true := by
  induction v using Value.induct with
  | none => exact fun _ => rfl
  | bool b => exact fun _ => by simp [Value.canon, Value.equals, equalsNumber]
  | int n => exact fun _ => by simp [Value.canon, Value.equals, equalsNumber]
  | float x =>
    intro text written
    cases x with
    | finite negative magnitude => simp [Value.canon, Value.equals, equalsFloat, equalsNumber]
    | _ => cases written
  | str s => exact fun _ => equals_self_str s
  | list items ih =>
    intro text written
    obtain ⟨texts, each, -⟩ := json_list_ok written
    clear written
    rw [Value.canon, Value.equals]
    induction each with
    | nil => rfl
    | @cons item t rest texts head _ others =>
      have first := ih item List.mem_cons_self head
      have later := others fun v member => ih v (List.mem_cons_of_mem _ member)
      rw [Value.canonItems, Value.equalsItems, first, later]
      rfl
  | dict d ih =>
    intro text written
    have size : d.items.length = (Value.canonDict d).items.length := by
      have perm : d.keys.Perm (Value.canonDict d).keys :=
        (List.perm_ext_iff_of_nodup d.keys_nodup (Dict.keys_nodup _)).mpr fun key =>
          (Value.mem_keys_canonDict d key).symm
      simpa using perm.length_eq
    rw [Value.canon, Value.equals, equalsDict_eq, allEqual, List.length_map, size, decide_eq_true rfl,
      Bool.true_and, List.all_eq_true]
    intro entry member
    obtain ⟨⟨key, value⟩, inItems, rfl⟩ := List.mem_map.mp member
    have stored := (Dict.mem_items _ _ _).mp inItems
    obtain ⟨own, shown⟩ := json_of_get? written stored
    rw [Value.get?_canonDict, stored]
    exact ih _ (Dict.mem_of_find stored) shown

end Forms

/-! ## The reader -/

namespace JsonReader
open BinancePlatform.Library NumberText

/-- A number's text: no other kind of value starts like it. -/
structure NumberHead (text : List Char) : Prop where
  starts : Starts text
  digit : ∃ negative d rest, d < 10 ∧ text = signText negative ++ digitChar d :: rest

theorem numberHead_spelled (negative : Bool) {whole : List ℕ} (leading : Leading whole) (frac : List ℕ)
    (power : Option ℤ) : NumberHead (signText negative ++ spelled whole frac power) := by
  obtain ⟨d, small, rest, shape⟩ := head_spelled leading frac power
  rw [shape]
  refine ⟨?_, negative, d, rest, small, rfl⟩
  cases negative with
  | true => exact ⟨'-', digitChar d :: rest, rfl, by decide⟩
  | false => exact ⟨digitChar d, rest, rfl, by interval_cases d <;> decide⟩

/-- A text that starts like a number is read as one. -/
theorem readValue_number {text : List Char} (head : NumberHead text) (fuel : ℕ) (rest : List Char) :
    readValue (fuel + 1) (text ++ rest) = readNumber (text ++ rest) := by
  obtain ⟨-, negative, d, more, small, rfl⟩ := head
  cases negative with
  | true =>
    change (readLiteral ('-' :: digitChar d :: (more ++ rest))).or _ = _
    have other : readLiteral ('-' :: digitChar d :: (more ++ rest)) = none := by
      interval_cases d <;> rfl
    rw [other]
    rfl
  | false =>
    have other : readLiteral (digitChar d :: (more ++ rest)) = none := by
      interval_cases d <;> rfl
    have fallen : readValue (fuel + 1) (digitChar d :: (more ++ rest))
        = (readLiteral (digitChar d :: (more ++ rest))).or (readNumber (digitChar d :: (more ++ rest))) := by
      interval_cases d <;> rfl
    change readValue (fuel + 1) (digitChar d :: (more ++ rest)) = _
    rw [fallen, other]
    rfl

theorem numberHead_intText (n : ℤ) : NumberHead (intText n) := by
  rw [intText_spelled]
  exact numberHead_spelled _ (leading_decimalDigits _) [] none

theorem numberHead_repr {negative : Bool} {magnitude : ℚ≥0} (grid : Binary64.OnGrid magnitude) :
    NumberHead (PyFloat.finite negative magnitude).repr := by
  obtain ⟨whole, frac, power, c, e, spells, shown, -⟩ := @PyFloat.repr_spells negative magnitude grid
  rw [shown]
  exact numberHead_spelled negative spells.leading frac power

/-- A written value is read back, and its text starts with no space. -/
def ReadsBack (text : List Char) (value : Value) : Prop := Starts text ∧ Reads text value

theorem readsBack_number {text : List Char} {value : Value} (head : NumberHead text)
    (read : ∀ rest, Follows rest → readNumber (text ++ rest) = some (value, rest)) :
    ReadsBack text value := by
  refine ⟨head.starts, fun fuel rest follows enough => ?_⟩
  obtain ⟨c, more, shape, -⟩ := head.starts
  obtain ⟨fuel, rfl⟩ : ∃ n, fuel = n + 1 := ⟨fuel - 1, by rw [shape, List.length_cons] at enough; omega⟩
  rw [readValue_number head, read rest follows]

/-- A literal is read as itself. -/
theorem readsBack_literal {text : List Char} {value : Value} {c : Char} {more : List Char}
    (shape : text = c :: more) (visible : isSpace c = false) (other : c ∉ ['"', '{', '['])
    (found : ∀ rest, readLiteral (text ++ rest) = some (value, rest)) : ReadsBack text value := by
  refine ⟨⟨c, more, shape, visible⟩, fun fuel rest _ enough => ?_⟩
  obtain ⟨fuel, rfl⟩ : ∃ n, fuel = n + 1 := ⟨fuel - 1, by rw [shape, List.length_cons] at enough; omega⟩
  have fallen : readValue (fuel + 1) (text ++ rest)
      = (readLiteral (text ++ rest)).or (readNumber (text ++ rest)) := by
    simp only [List.mem_cons, List.not_mem_nil, or_false, not_or] at other
    rw [shape, List.cons_append, readValue]
    all_goals exact fun tail same => by simp_all
  rw [fallen, found rest]
  rfl

/-! ### Lists -/

theorem readItems_first {fuel : ℕ} {text : List Char} {value : Value} (reads : Reads text value)
    (enough : text.length ≤ fuel) {rest : List Char} (follows : Follows rest) :
    readItems (fuel + 1) (text ++ rest)
      = match skipSpace rest with
        | ']' :: tail => some ([value], tail)
        | ',' :: more => (readItems fuel (skipSpace more)).bind fun found =>
            some (value :: found.1, found.2)
        | _ => none := by
  rw [readItems, reads fuel rest follows enough]
  rfl

theorem head_commaSeparated {text : List Char} (texts : List (List Char)) (starts : Starts text) :
    ∃ c own more, text = c :: own ∧ commaSeparated (text :: texts) = c :: more ∧ isSpace c = false := by
  obtain ⟨c, own, rfl, visible⟩ := starts
  cases texts with
  | nil => exact ⟨c, own, own, rfl, by simp [commaSeparated, List.intercalate], visible⟩
  | cons second texts =>
    exact ⟨c, own, own ++ ',' :: commaSeparated (second :: texts), rfl, commaSeparated_cons_cons .., visible⟩

theorem readItems_written {texts : List (List Char)} {values : List Value}
    (paired : List.Forall₂ ReadsBack texts values) (nonempty : texts ≠ []) {fuel : ℕ} (rest : List Char)
    (enough : (commaSeparated texts).length < fuel) :
    readItems fuel (commaSeparated texts ++ ']' :: rest) = some (values, rest) := by
  induction paired generalizing fuel with
  | nil => exact absurd rfl nonempty
  | @cons text value texts values head tail ih =>
    obtain ⟨starts, reads⟩ := head
    cases tail with
    | nil =>
      have alone : commaSeparated [text] = text := by
        simp [commaSeparated, List.intercalate]
      rw [alone] at enough ⊢
      obtain ⟨fuel, rfl⟩ : ∃ n, fuel = n + 1 := ⟨fuel - 1, by omega⟩
      rw [readItems_first reads (by omega) (follows_mark rest (by decide)), skipSpace_cons _ (by decide)]
      rfl
    | @cons second w texts values next tail =>
      rw [commaSeparated_cons_cons, List.length_append, List.length_cons] at enough
      rw [commaSeparated_cons_cons, List.append_assoc, List.cons_append]
      obtain ⟨fuel, rfl⟩ : ∃ n, fuel = n + 1 := ⟨fuel - 1, by omega⟩
      have others := @ih (by simp) fuel (by omega)
      rw [readItems_first reads (by omega) (follows_mark _ (by decide)), skipSpace_cons _ (by decide)]
      change (readItems fuel (skipSpace _)).bind _ = _
      obtain ⟨c, own, more, -, shape, visible⟩ := head_commaSeparated texts next.1
      rw [Starts.skipSpace ⟨c, more, shape, visible⟩, others]
      rfl

/-- No value starts with the mark that ends a list. -/
theorem Reads.head_ne {text : List Char} {value : Value} (reads : Reads text value) (more : List Char) :
    text ≠ ']' :: more := by
  rintro rfl
  have none : readValue (more.length + 2) (']' :: more ++ []) = none := by
    rw [List.append_nil, readValue]
    · rfl
    all_goals exact fun tail same => by simp at same
  have found := reads (more.length + 2) [] (fun _ first => by simp at first) (by simp)
  rw [none] at found
  cases found

/-- A list of readable items is read as the list of their values. -/
theorem readsBack_list {texts : List (List Char)} {values : List Value}
    (paired : List.Forall₂ ReadsBack texts values) :
    ReadsBack ('[' :: commaSeparated texts ++ [']']) (.list values) := by
  refine ⟨⟨'[', commaSeparated texts ++ [']'], rfl, by decide⟩, fun fuel rest _ enough => ?_⟩
  simp only [List.length_append, List.length_cons, List.length_nil] at enough
  obtain ⟨fuel, rfl⟩ : ∃ n, fuel = n + 1 := ⟨fuel - 1, by omega⟩
  cases paired with
  | nil => rfl
  | @cons text value texts values head tail =>
    have read := readItems_written (.cons head tail) (by simp) rest (Nat.le_of_lt_succ enough)
    obtain ⟨c, own, more, shape, joined, visible⟩ := head_commaSeparated texts head.1
    have notEnd : c ≠ ']' := by
      rintro rfl
      exact head.2.head_ne own shape
    rw [joined, List.cons_append] at read
    have opened : '[' :: commaSeparated (text :: texts) ++ [']'] ++ rest = '[' :: c :: (more ++ ']' :: rest) := by
      rw [joined]
      simp
    rw [opened, readValue, skipSpace_cons _ visible]
    split
    case h_1 tail same => exact absurd (List.cons.inj same).1 notEnd
    case h_2 =>
      change (readItems fuel (c :: (more ++ ']' :: rest))).bind _ = _
      rw [read]
      rfl

/-! ### Documents -/

theorem readsBack_object {entries : List (String × List Char)} {values : List Value}
    (paired : List.Forall₂ (fun e v => ReadsBack e.2 v) entries values) :
    ReadsBack ('{' :: commaSeparated (entries.map memberOf) ++ ['}'])
      (.dict (Dict.empty.setAll ((entries.map Prod.fst).zip values))) := by
  refine ⟨⟨'{', commaSeparated (entries.map memberOf) ++ ['}'], rfl, by decide⟩, ?_⟩
  cases paired with
  | nil =>
    intro fuel rest _ enough
    obtain ⟨fuel, rfl⟩ : ∃ n, fuel = n + 1 := ⟨fuel - 1, by simp [commaSeparated] at enough; omega⟩
    rfl
  | cons head tail => exact reads_object (.cons head tail) (by simp)

/-- What is written is read back as the form that is read. -/
theorem readsBack_json (v : Value) :
    ∀ {text : List Char}, v.Native → v.json = .ok text → ReadsBack text v.canon := by
  induction v using Value.induct with
  | none =>
    rintro _ - ⟨⟩
    exact readsBack_literal rfl (by decide) (by decide) fun rest => rfl
  | bool b =>
    rintro _ - ⟨⟩
    cases b with
    | true => exact readsBack_literal rfl (by decide) (by decide) fun rest => rfl
    | false => exact readsBack_literal rfl (by decide) (by decide) fun rest => rfl
  | int n =>
    intro text _ written
    rw [Value.json] at written
    split at written
    case isFalse => cases written
    case isTrue short =>
      cases written
      exact readsBack_number (numberHead_intText n) fun rest follows => readNumber_intText short follows
  | float x =>
    intro text native written
    cases x with
    | finite negative magnitude =>
      cases written
      exact readsBack_number (numberHead_repr native) fun rest follows => readNumber_repr native follows
    | _ => cases written
  | str s =>
    rintro _ - ⟨⟩
    exact ⟨by simpa using starts_quoted s [], reads_text s⟩
  | list items ih =>
    intro text native written
    obtain ⟨texts, each, rfl⟩ := json_list_ok written
    clear written
    have natives := Value.native_item native
    rw [Value.canon, Value.canonItems_eq]
    refine readsBack_list ?_
    induction each with
    | nil => exact .nil
    | @cons item t rest texts head _ others =>
      obtain ⟨first, later⟩ := List.forall_mem_cons.mp natives
      exact .cons (ih item List.mem_cons_self first head)
        (others (fun v member => ih v (List.mem_cons_of_mem _ member)) native.2 later)
  | dict d ih =>
    intro text native written
    obtain ⟨members, related, rfl⟩ := json_dict_ok written
    have inside : ∀ e ∈ sortedItems d, e ∈ d.entries ∧ e.2.Native := fun e member =>
      have stored := get?_of_sortedItems member
      ⟨Dict.mem_of_find stored, (Value.native_dict d).mp native _ _ stored⟩
    have distinct : ((sortedItems d).map Prod.fst).Nodup :=
      ((perm_sortedItems d).map Prod.fst).nodup_iff.mpr d.items_nodup
    have paired : List.Forall₂ (fun (e : String × List Char) v => ReadsBack e.2 v) members
        ((sortedItems d).map fun e => e.2.canon) ∧ (members.map Prod.fst).zip
          ((sortedItems d).map fun e => e.2.canon) = (sortedItems d).map fun e => (e.1, e.2.canon) := by
      clear written distinct
      generalize sortedItems d = items at related inside ⊢
      induction related with
      | nil => exact ⟨.nil, rfl⟩
      | @cons e m items members head _ others =>
        obtain ⟨here, later⟩ := List.forall_mem_cons.mp inside
        obtain ⟨reads, zipped⟩ := others later
        refine ⟨.cons (ih e here.1 here.2 head.2) reads, ?_⟩
        rw [List.map_cons, List.map_cons, List.zip_cons_cons, zipped, head.1, List.map_cons]
    have read := readsBack_object paired.1
    rw [paired.2, Dict.setAll_empty (by rw [List.map_map]; exact distinct), ← Value.canonDict_eq] at read
    exact read

end JsonReader

/-- `json.loads(json.dumps(value))`. -/
theorem jsonLoads_written {v : Value} {text : List Char} (native : v.Native) (written : v.json = .ok text) :
    jsonLoads text = .ok v.canon := by
  obtain ⟨starts, reads⟩ := JsonReader.readsBack_json v native written
  have trimmed := starts.skipSpace []
  have read := reads (text.length + 1) [] (fun _ first => nomatch first) (Nat.le_succ _)
  rw [List.append_nil] at trimmed read
  rw [jsonLoads, trimmed, read]
  rfl

end BinancePlatform.Source
