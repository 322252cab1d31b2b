import BinancePlatform.Source.Python
import Mathlib.Data.List.Sort
import Mathlib.Data.String.Basic

/-!
# Canonical JSON

`json.dumps(value, ensure_ascii=True, sort_keys=True, separators=(",", ":"),
allow_nan=False)`, the text by which documents are compared and digested.
-/

set_option autoImplicit false

namespace BinancePlatform.Source
open BinancePlatform.Library

def unicodeEscape (n : ℕ) : List Char := '\\' :: 'u' :: hexDigits 4 n

def jsonChar (c : Char) : List Char :=
  if c = '"' ∨ c = '\\' then ['\\', c]
  else if c = '\n' then ['\\', 'n']
  else if c = '\r' then ['\\', 'r']
  else if c = '\t' then ['\\', 't']
  else if c.toNat = 0x8 then ['\\', 'b']
  else if c.toNat = 0xc then ['\\', 'f']
  else if ' ' ≤ c ∧ c ≤ '~' then [c]
  else if c.toNat < 0x10000 then unicodeEscape c.toNat
  else
    -- A character beyond the basic plane is written as a surrogate pair.
    unicodeEscape (0xd800 + (c.toNat - 0x10000) / 0x400)
      ++ unicodeEscape (0xdc00 + (c.toNat - 0x10000) % 0x400)

def jsonText (s : String) : List Char := '"' :: s.toList.flatMap jsonChar ++ ['"']

def commaSeparated (texts : List (List Char)) : List Char := [','].intercalate texts

def jsonMember (member : String × Except PyException (List Char)) : Except PyException (List Char) :=
  member.2.map fun text => jsonText member.1 ++ ':' :: text

def sortedMembers (members : List (String × Except PyException (List Char))) :
    List (String × Except PyException (List Char)) :=
  members.insertionSort fun a b => a.1 ≤ b.1

namespace Value

mutual

def json : Value → Except PyException (List Char)
  | .none => .ok "null".toList
  | .bool b => .ok (if b then "true".toList else "false".toList)
  | .int n =>
    if (NumberText.decimalDigits n.natAbs).length ≤ 4300 then .ok (NumberText.intText n)
    else .error (valueError "Exceeds the limit (4300 digits) for integer string conversion")
  | .float x =>
    if x.isFinite then .ok x.repr
    else .error (valueError "Out of range float values are not JSON compliant")
  | .str s => .ok (jsonText s)
  | .list items => (jsonItems items).map fun texts => '[' :: commaSeparated texts ++ [']']
  | .dict entries => jsonDict entries

def jsonDict : Dict String Value → Except PyException (List Char)
  | ⟨entries⟩ =>
    ((sortedMembers (Dict.dedupe (jsonEntries entries))).mapM jsonMember).map
      fun texts => '{' :: commaSeparated texts ++ ['}']

def jsonItems : List Value → Except PyException (List (List Char))
  | [] => .ok []
  | item :: rest => do
    let text ← item.json
    let texts ← jsonItems rest
    return text :: texts

def jsonEntries : List (String × Value) → List (String × Except PyException (List Char))
  | [] => []
  | entry :: rest => jsonEntry entry :: jsonEntries rest

def jsonEntry : String × Value → String × Except PyException (List Char)
  | (key, value) => (key, value.json)

end

end Value

/-! ## A written text can be read back -/

def hexValue (c : Char) : ℕ := if c.toNat ≤ '9'.toNat then c.toNat - '0'.toNat else c.toNat - 'a'.toNat + 10

/-- The value of four hexadecimal digits, and what follows them. -/
def readHex (cs : List Char) : ℕ × List Char :=
  (Nat.ofDigits 16 ((cs.take 4).reverse.map hexValue), cs.drop 4)

theorem hexValue_digitChar {d : ℕ} (h : d < 16) : hexValue (Nat.digitChar d) = d := by
  interval_cases d <;> decide

theorem hexDigits_length {n : ℕ} (h : n < 0x10000) : (hexDigits 4 n).length = 4 := by
  have short : (Nat.digits 16 n).length ≤ 4 := Nat.digits_length_le_iff (by norm_num) n |>.mpr (by norm_num; exact h)
  simp only [hexDigits, List.length_append, List.length_replicate, List.length_reverse, List.length_map]
  omega

theorem readHex_hexDigits {n : ℕ} (h : n < 0x10000) (rest : List Char) :
    readHex (hexDigits 4 n ++ rest) = (n, rest) := by
  have length := hexDigits_length h
  have values : (hexDigits 4 n).reverse.map hexValue
      = Nat.digits 16 n ++ List.replicate (4 - (Nat.digits 16 n).length) 0 := by
    have digits : (Nat.digits 16 n).map (hexValue ∘ Nat.digitChar) = Nat.digits 16 n := by
      refine (List.map_congr_left fun d member => ?_).trans (List.map_id _)
      exact hexValue_digitChar (Nat.digits_lt_base (by norm_num) member)
    have zero : hexValue '0' = 0 := by decide
    simp [hexDigits, List.map_map, digits, zero]
  have taken : (hexDigits 4 n ++ rest).take 4 = hexDigits 4 n := by
    rw [List.take_append_of_le_length length.ge, List.take_of_length_le length.le]
  have dropped : (hexDigits 4 n ++ rest).drop 4 = rest := by
    rw [List.drop_append_of_le_length length.ge, List.drop_of_length_le length.le, List.nil_append]
  rw [readHex, taken, dropped, values, Nat.ofDigits_append, Nat.ofDigits_digits,
    Nat.ofDigits_replicate_zero, mul_zero, add_zero]

def readJsonChar : List Char → Char × List Char
  | '\\' :: 'u' :: rest =>
    let (n, rest) := readHex rest
    if 0xd800 ≤ n ∧ n < 0xe000 then
      let (low, tail) := readHex (rest.drop 2)
      (Char.ofNat (0x10000 + (n - 0xd800) * 0x400 + (low - 0xdc00)), tail)
    else (Char.ofNat n, rest)
  | '\\' :: 'n' :: rest => ('\n', rest)
  | '\\' :: 'r' :: rest => ('\r', rest)
  | '\\' :: 't' :: rest => ('\t', rest)
  | '\\' :: 'b' :: rest => (Char.ofNat 0x8, rest)
  | '\\' :: 'f' :: rest => (Char.ofNat 0xc, rest)
  | '\\' :: c :: rest => (c, rest)
  | c :: rest => (c, rest)
  | [] => (' ', [])

theorem toNat_cases (c : Char) : c.toNat < 0xd800 ∨ 0xdfff < c.toNat ∧ c.toNat < 0x110000 := c.valid

/-- A character that is written as it is. -/
theorem readJsonChar_plain {c : Char} (rest : List Char) (other : c ≠ '\\') :
    readJsonChar (c :: rest) = (c, rest) := by
  unfold readJsonChar
  split <;> simp_all

theorem readJsonChar_unicode {n : ℕ} (rest : List Char) (basic : n < 0xd800 ∨ 0xdfff < n)
    (low : n < 0x10000) : readJsonChar (unicodeEscape n ++ rest) = (Char.ofNat n, rest) := by
  rw [unicodeEscape, List.cons_append, List.cons_append, readJsonChar, readHex_hexDigits low]
  dsimp only
  rw [if_neg (by omega)]

theorem readJsonChar_pair {high low : ℕ} (rest : List Char) (isHigh : 0xd800 ≤ high ∧ high < 0xe000)
    (isLow : low < 0x10000) : readJsonChar (unicodeEscape high ++ unicodeEscape low ++ rest)
      = (Char.ofNat (0x10000 + (high - 0xd800) * 0x400 + (low - 0xdc00)), rest) := by
  rw [unicodeEscape, List.cons_append, List.cons_append, List.cons_append, List.cons_append,
    readJsonChar, List.append_assoc, readHex_hexDigits (by omega)]
  dsimp only
  rw [if_pos isHigh, unicodeEscape, List.cons_append, List.cons_append, List.drop_succ_cons,
    List.drop_succ_cons, List.drop_zero, readHex_hexDigits isLow]

theorem readJsonChar_jsonChar (c : Char) (rest : List Char) :
    readJsonChar (jsonChar c ++ rest) = (c, rest) := by
  have named : ∀ {n : ℕ}, c.toNat = n → Char.ofNat n = c := by
    rintro _ rfl
    exact Char.ofNat_toNat c
  have whole := toNat_cases c
  unfold jsonChar
  split_ifs with quoted newline carriage tab back feed plain basic
  · rcases quoted with rfl | rfl <;> rfl
  · rw [newline]; rfl
  · rw [carriage]; rfl
  · rw [tab]; rfl
  · rw [← named back]; rfl
  · rw [← named feed]; rfl
  · exact readJsonChar_plain rest fun same => quoted (.inr same)
  · rw [readJsonChar_unicode rest (by omega) basic, named rfl]
  · rw [readJsonChar_pair rest (by omega) (by omega), named (by omega)]

theorem jsonChar_ne_quote (c : Char) (rest more : List Char) : jsonChar c ++ rest ≠ '"' :: more := by
  have escaped : ∀ tail : List Char, '\\' :: tail ≠ '"' :: more := by
    intro tail same
    exact absurd (List.cons.inj same).1 (by decide)
  unfold jsonChar
  split_ifs with quoted newline carriage tab back feed plain basic
  pick_goal 7
  · intro same
    exact quoted (.inl (List.cons.inj same).1)
  all_goals exact escaped _

/-- Where a written text ends is determined by the characters. -/
theorem jsonText_append_inj {s t : String} {rest more : List Char}
    (same : jsonText s ++ rest = jsonText t ++ more) : s = t ∧ rest = more := by
  have chars : ∀ cs ds : List Char, cs.flatMap jsonChar ++ '"' :: rest = ds.flatMap jsonChar ++ '"' :: more →
      cs = ds ∧ rest = more := by
    intro cs
    induction cs with
    | nil =>
      intro ds same
      cases ds with
      | nil => simpa using same
      | cons d ds =>
        rw [List.flatMap_cons, List.append_assoc] at same
        exact absurd same.symm (jsonChar_ne_quote d _ _)
    | cons c cs ih =>
      intro ds same
      cases ds with
      | nil =>
        rw [List.flatMap_cons, List.append_assoc] at same
        exact absurd same (jsonChar_ne_quote c _ _)
      | cons d ds =>
        rw [List.flatMap_cons, List.flatMap_cons, List.append_assoc, List.append_assoc] at same
        have read := congrArg readJsonChar same
        rw [readJsonChar_jsonChar, readJsonChar_jsonChar, Prod.mk.injEq] at read
        obtain ⟨tails, after⟩ := ih ds read.2
        exact ⟨by rw [read.1, tails], after⟩
  simp only [jsonText, List.cons_append, List.append_assoc, List.nil_append, List.cons.injEq,
    true_and] at same
  obtain ⟨texts, after⟩ := chars _ _ same
  exact ⟨String.toList_injective texts, after⟩

/-! ## The text of a mapping -/

/-- The entries in the order they are written. -/
def sortedItems (d : Document) : List (String × Value) := d.items.insertionSort fun a b => a.1 ≤ b.1

def memberText (entry : String × Value) : Except PyException (List Char) :=
  jsonMember (entry.1, entry.2.json)

theorem jsonEntries_eq (entries : List (String × Value)) :
    Value.jsonEntries entries = entries.map fun e => (e.1, e.2.json) := by
  induction entries with
  | nil => rfl
  | cons entry rest ih =>
    obtain ⟨key, value⟩ := entry
    rw [Value.jsonEntries, ih, Value.jsonEntry, List.map_cons]

theorem json_dict (d : Document) : (Value.dict d).json
    = ((sortedItems d).mapM memberText).map fun texts => '{' :: commaSeparated texts ++ ['}'] := by
  have sorted : sortedMembers (Dict.dedupe (Value.jsonEntries d.entries))
      = (sortedItems d).map fun e => (e.1, e.2.json) := by
    rw [jsonEntries_eq, Dict.dedupe_map, sortedMembers, sortedItems]
    exact (List.map_insertionSort (fun a b : String × Value => a.1 ≤ b.1)
      (fun a b : String × Except PyException (List Char) => a.1 ≤ b.1) _ _ fun a _ b _ => Iff.rfl).symm
  rw [Value.json, Value.jsonDict, sorted, List.mapM_map]
  rfl

theorem perm_sortedItems (d : Document) : (sortedItems d).Perm d.items := List.perm_insertionSort _ _

theorem sortedItems_keys (d : Document) : ((sortedItems d).map Prod.fst).Pairwise (· < ·) := by
  have total : Std.Total fun a b : String × Value => a.1 ≤ b.1 := ⟨fun a b => le_total a.1 b.1⟩
  have trans : IsTrans (String × Value) fun a b => a.1 ≤ b.1 := ⟨fun a b c => le_trans⟩
  have sorted := List.pairwise_insertionSort (fun a b : String × Value => a.1 ≤ b.1) d.items
  have distinct : ((sortedItems d).map Prod.fst).Nodup :=
    ((perm_sortedItems d).map Prod.fst).nodup_iff.mpr d.items_nodup
  rw [List.pairwise_map]
  rw [List.Nodup, List.pairwise_map] at distinct
  exact (sorted.and distinct).imp fun both => lt_of_le_of_ne both.1 both.2

/-- A mapping with the keys of a sorted list is written in the order of that list. -/
theorem sortedItems_of_keys {d : Document} {keys : List String} (sorted : keys.Pairwise (· < ·))
    (same : ∀ k, k ∈ d.keys ↔ k ∈ keys) : (sortedItems d).map Prod.fst = keys := by
  refine List.Pairwise.eq_of_mem_iff (sortedItems_keys d) sorted fun k => ?_
  rw [← same k, Dict.keys]
  exact ((perm_sortedItems d).map Prod.fst).mem_iff

theorem get?_of_sortedItems {d : Document} {entry : String × Value} (member : entry ∈ sortedItems d) :
    d.get? entry.1 = some entry.2 := (d.mem_items _ _).mp ((perm_sortedItems d).mem_iff.mp member)

/-! ### Mappings of texts -/

def textMember (entry : String × String) : List Char := jsonText entry.1 ++ ':' :: jsonText entry.2

theorem commaSeparated_cons_cons (x y : List Char) (rest : List (List Char)) :
    commaSeparated (x :: y :: rest) = x ++ ',' :: commaSeparated (y :: rest) := by
  simp [commaSeparated, List.intercalate]

/-- The texts between the braces, and where they end, are determined. -/
theorem textMembers_append_inj {xs ys : List (String × String)} {rest more : List Char}
    (same : commaSeparated (xs.map textMember) ++ '}' :: rest
      = commaSeparated (ys.map textMember) ++ '}' :: more) : xs = ys ∧ rest = more := by
  have empty : ∀ (entry : String × String) (others : List (String × String)) (a b : List Char),
      '}' :: a ≠ commaSeparated ((entry :: others).map textMember) ++ b := by
    intro entry others a b
    cases others <;> simp [commaSeparated, textMember, jsonText, List.intercalate]
  -- The first member is read off, and both texts continue with a comma or both end.
  have first : ∀ (x y : String × String) (a b : List Char), textMember x ++ a = textMember y ++ b →
      x = y ∧ a = b := by
    intro x y a b equal
    simp only [textMember, List.append_assoc, List.cons_append] at equal
    obtain ⟨keys, equal⟩ := jsonText_append_inj equal
    obtain ⟨values, equal⟩ := jsonText_append_inj (List.cons.inj equal).2
    exact ⟨Prod.ext keys values, equal⟩
  have shape : ∀ (x : String × String) (others : List (String × String)) (a : List Char),
      commaSeparated ((x :: others).map textMember) ++ a = textMember x ++
        (match others with
          | [] => a
          | _ :: _ => ',' :: (commaSeparated (others.map textMember) ++ a)) := by
    intro x others a
    cases others with
    | nil => simp [commaSeparated, List.intercalate]
    | cons y others => simp [commaSeparated_cons_cons]
  induction xs generalizing ys with
  | nil =>
    cases ys with
    | nil => simpa [commaSeparated, List.intercalate] using same
    | cons y ys => exact absurd same (empty y ys _ _)
  | cons x xs ih =>
    cases ys with
    | nil => exact absurd same.symm (empty x xs _ _)
    | cons y ys =>
      rw [shape, shape] at same
      obtain ⟨heads, tails⟩ := first x y _ _ same
      cases xs with
      | nil =>
        cases ys with
        | nil => exact ⟨by rw [heads], by simpa using tails⟩
        | cons => simp at tails
      | cons x' xs =>
        cases ys with
        | nil => simp at tails
        | cons y' ys =>
          obtain ⟨others, ends⟩ := ih (List.cons.inj tails).2
          exact ⟨by rw [heads, others], ends⟩

end BinancePlatform.Source
