import BinancePlatform.Source.JsonTokens
import Mathlib.Data.List.TakeWhile

/-!
# What a strict reader reads

Each reader of a value, of the members of an object and of the items of an array by one
equation for its steps, the place of every member's value, and how far a reader goes.
-/

set_option autoImplicit false

namespace BinancePlatform.Source.StrictJson
open BinancePlatform.Library JsonReader

theorem found_ok {α : Type} {read : Option α} {x : α} : found read = .ok x ↔ read = some x := by
  cases read <;> simp [found]

/-! ## One step -/

theorem readValue_string {fuel : ℕ} {rest tail : List Char} {value : Value} :
    readValue (fuel + 1) ('"' :: rest) = .ok (value, tail)
      ↔ ∃ text, readString rest.length rest = some (text, tail) ∧ value = .str (String.ofList text) := by
  rw [readValue]
  cases readString rest.length rest with
  | none => simp [found, bind, Except.bind]
  | some read => simp [found, bind, Except.bind, pure, Except.pure, Prod.ext_iff, eq_comm, and_comm]

theorem readValue_object {fuel : ℕ} {rest tail : List Char} {value : Value} :
    readValue (fuel + 1) ('{' :: rest) = .ok (value, tail)
      ↔ (skipSpace rest = '}' :: tail ∧ value = .dict .empty)
        ∨ (∀ other, skipSpace rest ≠ '}' :: other) ∧ ∃ members, readMembers fuel (skipSpace rest) = .ok (members, tail)
          ∧ (members.map Prod.fst).Nodup ∧ value = .dict (Dict.empty.setAll members) := by
  rw [readValue]
  split
  · rename_i after shape
    simp [shape, eq_comm, and_comm]
  · rename_i other
    have notClosed : ∀ after, skipSpace rest ≠ '}' :: after := fun after shape => other after shape
    cases read : readMembers fuel (skipSpace rest) with
    | error raised => simp [notClosed, bind, Except.bind]
    | ok found =>
      obtain ⟨members, after⟩ := found
      by_cases distinct : (members.map Prod.fst).Nodup
      · simp [notClosed, strictPairs, distinct, require, bind, Except.bind, pure, Except.pure, eq_comm, and_comm]
      · simp [notClosed, strictPairs, distinct, require, bind, Except.bind]

theorem readValue_array {fuel : ℕ} {rest tail : List Char} {value : Value} :
    readValue (fuel + 1) ('[' :: rest) = .ok (value, tail)
      ↔ (skipSpace rest = ']' :: tail ∧ value = .list [])
        ∨ (∀ other, skipSpace rest ≠ ']' :: other) ∧ ∃ items, readItems fuel (skipSpace rest) = .ok (items, tail)
          ∧ value = .list items := by
  rw [readValue]
  split
  · rename_i after shape
    simp [shape, eq_comm, and_comm]
  · rename_i other
    have notClosed : ∀ after, skipSpace rest ≠ ']' :: after := fun after shape => other after shape
    cases read : readItems fuel (skipSpace rest) with
    | error raised => simp [notClosed, bind, Except.bind]
    | ok found => simp [notClosed, bind, Except.bind, pure, Except.pure, Prod.ext_iff, eq_comm, and_comm]

theorem readValue_scalar {fuel : ℕ} {cs : List Char} (quote : ∀ rest, cs ≠ '"' :: rest)
    (brace : ∀ rest, cs ≠ '{' :: rest) (bracket : ∀ rest, cs ≠ '[' :: rest) :
    readValue (fuel + 1) cs = readScalar cs := by
  unfold readValue
  split
  · simp_all
  · exact absurd rfl (quote _)
  · exact absurd rfl (brace _)
  · exact absurd rfl (bracket _)
  · rfl

theorem readMembers_ok {fuel : ℕ} {cs tail : List Char} {members : List (String × Value)} :
    readMembers (fuel + 1) cs = .ok (members, tail)
      ↔ ∃ rest key afterKey afterColon value afterValue, cs = '"' :: rest
        ∧ readString rest.length rest = some (key, afterKey) ∧ skipSpace afterKey = ':' :: afterColon
        ∧ readValue fuel (skipSpace afterColon) = .ok (value, afterValue)
        ∧ ((skipSpace afterValue = '}' :: tail ∧ members = [(String.ofList key, value)])
          ∨ ∃ more others, skipSpace afterValue = ',' :: more ∧ readMembers fuel (skipSpace more) = .ok (others, tail)
            ∧ members = (String.ofList key, value) :: others) := by
  constructor
  · intro read
    match cs with
    | [] => simp [readMembers] at read
    | c :: rest =>
      by_cases quote : c = '"'
      · subst quote
        rw [readMembers] at read
        obtain ⟨⟨key, afterKey⟩, named, read⟩ := bind_ok read
        rw [found_ok] at named
        dsimp only at read
        split at read
        · rename_i afterColon colon
          obtain ⟨⟨value, afterValue⟩, valued, read⟩ := bind_ok read
          dsimp only at read
          refine ⟨rest, key, afterKey, afterColon, value, afterValue, rfl, named, colon, valued, ?_⟩
          split at read
          · rename_i after closed
            obtain ⟨rfl, rfl⟩ := Prod.mk.inj (Except.ok.inj read)
            exact .inl ⟨closed, rfl⟩
          · rename_i more comma
            obtain ⟨⟨others, after⟩, next, read⟩ := bind_ok read
            obtain ⟨rfl, rfl⟩ := Prod.mk.inj (Except.ok.inj read)
            exact .inr ⟨more, others, comma, next, rfl⟩
          · cases read
        · cases read
      · unfold readMembers at read
        split at read <;> simp_all
  · rintro ⟨rest, key, afterKey, afterColon, value, afterValue, rfl, named, colon, valued, ends⟩
    rw [readMembers, found_ok.mpr named]
    simp only [bind, Except.bind, colon, valued]
    rcases ends with ⟨closed, rfl⟩ | ⟨more, others, comma, next, rfl⟩
    · rw [closed]
      rfl
    · rw [comma]
      simp only [next]
      rfl

theorem readItems_ok {fuel : ℕ} {cs tail : List Char} {items : List Value} :
    readItems (fuel + 1) cs = .ok (items, tail)
      ↔ ∃ value afterValue, readValue fuel cs = .ok (value, afterValue)
        ∧ ((skipSpace afterValue = ']' :: tail ∧ items = [value])
          ∨ ∃ more others, skipSpace afterValue = ',' :: more ∧ readItems fuel (skipSpace more) = .ok (others, tail)
            ∧ items = value :: others) := by
  constructor
  · intro read
    rw [readItems] at read
    obtain ⟨⟨value, afterValue⟩, valued, read⟩ := bind_ok read
    dsimp only at read
    refine ⟨value, afterValue, valued, ?_⟩
    split at read
    · rename_i after closed
      obtain ⟨rfl, rfl⟩ := Prod.mk.inj (Except.ok.inj read)
      exact .inl ⟨closed, rfl⟩
    · rename_i more comma
      obtain ⟨⟨others, after⟩, next, read⟩ := bind_ok read
      obtain ⟨rfl, rfl⟩ := Prod.mk.inj (Except.ok.inj read)
      exact .inr ⟨more, others, comma, next, rfl⟩
    · cases read
  · rintro ⟨value, afterValue, valued, ends⟩
    rw [readItems, valued]
    simp only [bind, Except.bind]
    rcases ends with ⟨closed, rfl⟩ | ⟨more, others, comma, next, rfl⟩
    · rw [closed]
      rfl
    · rw [comma]
      simp only [next]
      rfl

/-! ## How far a reader goes -/

theorem readScalar_length {cs tail : List Char} {value : Value} (read : readScalar cs = .ok (value, tail)) :
    tail.length ≤ cs.length := by
  unfold readScalar at read
  split at read
  · rename_i literal found
    split at read
    · obtain rfl := Except.ok.inj read
      exact readLiteral_length found
    · cases read
  · exact readNumber_length (found_ok.mp read)

theorem read_length (fuel : ℕ) :
    (∀ cs value tail, readValue fuel cs = .ok (value, tail) → tail.length ≤ cs.length)
      ∧ (∀ cs members tail, readMembers fuel cs = .ok (members, tail) → tail.length ≤ cs.length)
      ∧ ∀ cs items tail, readItems fuel cs = .ok (items, tail) → tail.length ≤ cs.length := by
  induction fuel with
  | zero =>
    refine ⟨fun cs value tail read => ?_, fun cs found tail read => ?_, fun cs found tail read => ?_⟩
    · simp [readValue] at read
    · simp [readMembers] at read
    · simp [readItems] at read
  | succ fuel ih =>
    obtain ⟨values, members, items⟩ := ih
    refine ⟨fun cs value tail read => ?_, fun cs found tail read => ?_, fun cs found tail read => ?_⟩
    · by_cases quote : ∃ rest, cs = '"' :: rest
      · obtain ⟨rest, rfl⟩ := quote
        obtain ⟨text, shown, -⟩ := readValue_string.mp read
        exact (readString_length shown).le.trans (Nat.le_succ _)
      · by_cases brace : ∃ rest, cs = '{' :: rest
        · obtain ⟨rest, rfl⟩ := brace
          have skipped := skipSpace_length rest
          rcases readValue_object.mp read with ⟨closed, -⟩ | ⟨-, found, inner, -, -⟩
          · rw [closed] at skipped
            simp only [List.length_cons] at skipped ⊢
            omega
          · have shorter := members _ _ _ inner
            simp only [List.length_cons]
            omega
        · by_cases bracket : ∃ rest, cs = '[' :: rest
          · obtain ⟨rest, rfl⟩ := bracket
            have skipped := skipSpace_length rest
            rcases readValue_array.mp read with ⟨closed, -⟩ | ⟨-, found, inner, -⟩
            · rw [closed] at skipped
              simp only [List.length_cons] at skipped ⊢
              omega
            · have shorter := items _ _ _ inner
              simp only [List.length_cons]
              omega
          · rw [readValue_scalar (not_exists.mp quote) (not_exists.mp brace) (not_exists.mp bracket)] at read
            exact readScalar_length read
    · obtain ⟨rest, key, afterKey, afterColon, value, afterValue, rfl, named, colon, valued, ends⟩ :=
        readMembers_ok.mp read
      have keyed := readString_length named
      have toColon := skipSpace_length afterKey
      have toValue := skipSpace_length afterColon
      have past := values _ _ _ valued
      have toEnd := skipSpace_length afterValue
      rw [colon] at toColon
      rcases ends with ⟨closed, -⟩ | ⟨more, others, comma, next, -⟩
      · rw [closed] at toEnd
        simp only [List.length_cons] at toColon toEnd ⊢
        omega
      · rw [comma] at toEnd
        have later := members _ _ _ next
        have toNext := skipSpace_length more
        simp only [List.length_cons] at toColon toEnd ⊢
        omega
    · obtain ⟨value, afterValue, valued, ends⟩ := readItems_ok.mp read
      have past := values _ _ _ valued
      have toEnd := skipSpace_length afterValue
      rcases ends with ⟨closed, -⟩ | ⟨more, others, comma, next, -⟩
      · rw [closed] at toEnd
        simp only [List.length_cons] at toEnd
        omega
      · rw [comma] at toEnd
        have later := items _ _ _ next
        have toNext := skipSpace_length more
        simp only [List.length_cons] at toEnd
        omega

/-! ## The places of the members -/

/-- The keys of an object's members, each with the length of the text from its value on. -/
def memberPlaces : ℕ → List Char → List (String × ℕ)
  | fuel + 1, '"' :: rest =>
    match readString rest.length rest with
    | some (key, afterKey) =>
      match skipSpace afterKey with
      | ':' :: afterColon =>
        (String.ofList key, (skipSpace afterColon).length) ::
          match readValue fuel (skipSpace afterColon) with
          | .ok (_, afterValue) =>
            match skipSpace afterValue with
            | ',' :: more => memberPlaces fuel (skipSpace more)
            | _ => []
          | .error _ => []
      | _ => []
    | none => []
  | _, _ => []

section Places
variable {fuel : ℕ} {rest key afterKey afterColon afterValue : List Char} {value : Value}

theorem memberPlaces_last {tail : List Char} (named : readString rest.length rest = some (key, afterKey))
    (colon : skipSpace afterKey = ':' :: afterColon)
    (valued : readValue fuel (skipSpace afterColon) = .ok (value, afterValue))
    (closed : skipSpace afterValue = '}' :: tail) :
    memberPlaces (fuel + 1) ('"' :: rest) = [(String.ofList key, (skipSpace afterColon).length)] := by
  rw [memberPlaces, named]
  simp only [colon, valued, closed]
  rfl

theorem memberPlaces_next {more : List Char} (named : readString rest.length rest = some (key, afterKey))
    (colon : skipSpace afterKey = ':' :: afterColon)
    (valued : readValue fuel (skipSpace afterColon) = .ok (value, afterValue))
    (comma : skipSpace afterValue = ',' :: more) :
    memberPlaces (fuel + 1) ('"' :: rest)
      = (String.ofList key, (skipSpace afterColon).length) :: memberPlaces fuel (skipSpace more) := by
  rw [memberPlaces, named]
  simp only [colon, valued, comma]

end Places

theorem memberPlaces_le {fuel : ℕ} {cs tail : List Char} {members : List (String × Value)}
    (read : readMembers fuel cs = .ok (members, tail)) :
    (memberPlaces fuel cs).map Prod.fst = members.map Prod.fst
      ∧ ∀ place ∈ memberPlaces fuel cs, place.2 ≤ cs.length := by
  induction fuel generalizing cs tail members with
  | zero => simp [readMembers] at read
  | succ fuel ih =>
    obtain ⟨rest, key, afterKey, afterColon, value, afterValue, rfl, named, colon, valued, ends⟩ :=
      readMembers_ok.mp read
    have keyed := readString_length named
    have toColon := skipSpace_length afterKey
    have toValue := skipSpace_length afterColon
    have past := (read_length fuel).1 _ _ _ valued
    have toEnd := skipSpace_length afterValue
    rw [colon] at toColon
    simp only [List.length_cons] at toColon ⊢
    rcases ends with ⟨closed, rfl⟩ | ⟨more, others, comma, next, rfl⟩
    · rw [memberPlaces_last named colon valued closed]
      refine ⟨rfl, fun place only => ?_⟩
      rw [List.mem_singleton.mp only]
      dsimp only
      omega
    · rw [memberPlaces_next named colon valued comma]
      obtain ⟨keys, places⟩ := ih next
      refine ⟨by rw [List.map_cons, List.map_cons, keys], fun place listed => ?_⟩
      rw [comma] at toEnd
      have toNext := skipSpace_length more
      simp only [List.length_cons] at toEnd
      rcases List.mem_cons.mp listed with rfl | later
      · dsimp only
        omega
      · have bound := places place later
        omega

/-! ## What is read equals itself -/

/-- The characters of a number. -/
theorem numberParts_chars {cs integer frac exponent : List Char}
    (read : numberParts cs = some (integer, frac, exponent)) :
    ∀ c ∈ integer ++ frac ++ exponent, c.isDigit = true ∨ c ∈ ['-', '+', '.', 'e', 'E'] := by
  have digits : ∀ text : List Char, ∀ c ∈ digitsOf text, c.isDigit = true ∨ c ∈ ['-', '+', '.', 'e', 'E'] :=
    fun text c member => .inl (List.mem_takeWhile_imp member)
  unfold numberParts at read
  dsimp only at read
  generalize signed : (if cs.head? = some '-' then ['-'] else []) = signText at read
  generalize cs.drop signText.length = unsigned at read
  generalize wholeIs : (if unsigned.head? = some '0' then ['0'] else digitsOf unsigned) = whole at read
  generalize unsigned.drop whole.length = afterWhole at read
  generalize fracIs : (if afterWhole.head? = some '.' ∧ (digitsOf afterWhole.tail).length ≠ 0 then
      '.' :: digitsOf afterWhole.tail else []) = fraction at read
  generalize afterWhole.drop fraction.length = afterFrac at read
  generalize signIs : (if (afterFrac.drop 1).head? = some '-' ∨ (afterFrac.drop 1).head? = some '+' then
      (afterFrac.drop 1).take 1 else []) = sign at read
  generalize powerIs : digitsOf (afterFrac.drop (1 + sign.length)) = power at read
  generalize exponentIs : (if (afterFrac.head? = some 'e' ∨ afterFrac.head? = some 'E') ∧ ¬power.isEmpty = true then
      afterFrac.take 1 ++ sign ++ power else []) = shown at read
  have head : ∀ (text : List Char) (c d : Char), text.head? = some d → c ∈ text.take 1 → c = d := by
    intro text c d first member
    cases text with
    | nil => cases first
    | cons e more =>
      rw [List.take_succ_cons, List.take_zero, List.mem_singleton] at member
      exact member.trans (Option.some.inj first)
  have signChars : ∀ c ∈ sign, c ∈ ['-', '+', '.', 'e', 'E'] := by
    intro c member
    rw [← signIs] at member
    split at member
    · rename_i marked
      rcases marked with minus | plus
      · rw [head _ c _ minus member]
        decide
      · rw [head _ c _ plus member]
        decide
    · cases member
  split at read
  · cases read
  · obtain ⟨rfl, rfl, rfl⟩ : signText ++ whole = integer ∧ fraction = frac ∧ shown = exponent := by
      simpa using read
    intro c member
    simp only [List.mem_append] at member
    rcases member with ((minus | digit) | frac) | power
    · rw [← signed] at minus
      split at minus
      · exact .inr (by rw [List.mem_singleton.mp minus]; decide)
      · cases minus
    · rw [← wholeIs] at digit
      split at digit
      · exact .inl (by rw [List.mem_singleton.mp digit]; rfl)
      · exact digits _ c digit
    · rw [← fracIs] at frac
      split at frac
      · rcases List.mem_cons.mp frac with rfl | digit
        · exact .inr (by decide)
        · exact digits _ c digit
      · cases frac
    · rw [← exponentIs] at power
      split at power
      · rename_i marked
        simp only [List.mem_append] at power
        rcases power with (mark | sign) | digit
        · right
          rcases marked.1 with small | large
          · rw [head _ c _ small mark]
            decide
          · rw [head _ c _ large mark]
            decide
        · exact .inr (signChars c sign)
        · rw [← powerIs] at digit
          exact digits _ c digit
      · cases power

theorem ofText_not_nan {text : List Char}
    (numeric : ∀ c ∈ text, c.isDigit = true ∨ c ∈ ['-', '+', '.', 'e', 'E']) :
    PyFloat.ofText (String.ofList text) ≠ .ok .nan := by
  intro read
  have noN : ∀ c ∈ text, NumberText.lower c ≠ 'n' := by
    intro c member lowered
    rcases numeric c member with digit | other
    · simp only [Char.isDigit, Bool.and_eq_true, decide_eq_true_eq] at digit
      have high : c.toNat ≤ 57 := digit.2
      unfold NumberText.lower at lowered
      rw [if_neg] at lowered
      · rw [lowered] at high
        exact absurd high (by decide)
      · intro upper
        have least : ('A'.toNat : ℕ) ≤ c.toNat := Char.le_def.mp upper.1
        exact absurd (least.trans high) (by decide)
    · simp only [List.mem_cons, List.not_mem_nil, or_false] at other
      rcases other with rfl | rfl | rfl | rfl | rfl <;> revert lowered <;> decide
  have inside : ∀ c ∈ NumberText.strip text, c ∈ text := by
    intro c member
    rw [NumberText.strip, List.mem_reverse] at member
    have back := (List.dropWhile_sublist _).subset member
    rw [List.mem_reverse] at back
    exact (List.dropWhile_sublist _).subset back
  unfold PyFloat.ofText NumberText.readFloat at read
  rw [String.toList_ofList] at read
  dsimp only at read
  split at read
  · have finite := Except.ok.inj read
    unfold PyFloat.nearest at finite
    split at finite <;> cases finite
  · cases Except.ok.inj read
  · rename_i nan
    split at nan
    · unfold NumberText.readSigned at nan
      dsimp only at nan
      split at nan
      · cases nan
      · split at nan
        · rename_i word
          have letter : 'n' ∈ (NumberText.readSign
              ((NumberText.strip text).filter fun c => c ≠ '_')).2.map NumberText.lower := by
            rw [word]
            decide
          obtain ⟨c, listed, lowered⟩ := List.mem_map.mp letter
          have unsigned : ∀ cs : List Char, ∀ d ∈ (NumberText.readSign cs).2, d ∈ cs := by
            intro cs d member
            unfold NumberText.readSign at member
            split at member
            · exact List.mem_cons_of_mem _ member
            · exact List.mem_cons_of_mem _ member
            · exact member
          exact noN c (inside c (List.mem_filter.mp (unsigned _ c listed)).1) lowered
        · obtain ⟨pair, -, same⟩ := Option.map_eq_some_iff.mp nan
          cases same
    · cases nan
  · cases read

theorem readScalar_equals {cs tail : List Char} {value : Value} (read : readScalar cs = .ok (value, tail)) :
    value.equals value = true := by
  unfold readScalar at read
  split at read
  · rename_i found literal
    split at read
    · rename_i plain
      obtain rfl := Except.ok.inj read
      rw [List.any_eq_true] at plain
      obtain ⟨name, listed, starts⟩ := plain
      obtain ⟨rest, rfl⟩ := List.isPrefixOf_iff_prefix.mp starts
      simp only [plainLiterals, List.mem_cons, List.not_mem_nil, or_false] at listed
      rcases listed with rfl | rfl | rfl
      · have known : readLiteral ("null".toList ++ rest) = some (.none, rest) := rfl
        obtain rfl := (Prod.mk.inj (Option.some.inj (known.symm.trans literal))).1
        rfl
      · have known : readLiteral ("true".toList ++ rest) = some (.bool true, rest) := rfl
        obtain rfl := (Prod.mk.inj (Option.some.inj (known.symm.trans literal))).1
        rfl
      · have known : readLiteral ("false".toList ++ rest) = some (.bool false, rest) := rfl
        obtain rfl := (Prod.mk.inj (Option.some.inj (known.symm.trans literal))).1
        rfl
    · cases read
  · have number := found_ok.mp read
    unfold readNumber at number
    obtain ⟨⟨integer, frac, exponent⟩, parts, number⟩ := Option.bind_eq_some_iff.mp number
    dsimp only at number
    split at number
    · split at number
      · cases number
      · obtain ⟨rfl, -⟩ := Prod.mk.inj (Option.some.inj number)
        exact decide_eq_true rfl
    · split at number
      · rename_i x shown
        obtain ⟨rfl, -⟩ := Prod.mk.inj (Option.some.inj number)
        have known := ofText_not_nan (numberParts_chars parts)
        rw [shown] at known
        cases x with
        | nan => exact absurd rfl known
        | infinite negative => simp [Value.equals, equalsFloat]
        | finite negative magnitude => simp [Value.equals, equalsFloat, equalsNumber]
      · cases number

theorem equalsItems_self {items : List Value} (each : ∀ item ∈ items, item.equals item = true) :
    Value.equalsItems items items = true := by
  induction items with
  | nil => rfl
  | cons item items ih =>
    rw [Value.equalsItems, each item List.mem_cons_self,
      ih fun other member => each other (List.mem_cons_of_mem _ member)]
    rfl

theorem dict_equals {members : List (String × Value)} (distinct : (members.map Prod.fst).Nodup)
    (each : ∀ entry ∈ members, entry.2.equals entry.2 = true) :
    Value.equalsDict (Dict.empty.setAll members) (Dict.empty.setAll members) = true := by
  rw [Dict.setAll_empty distinct]
  exact equalsDict_self.mpr fun key value stored => each _ (Dict.mem_of_find stored)

/-- A strict reader reads no value that differs from itself. -/
theorem read_equals (fuel : ℕ) :
    (∀ cs value tail, readValue fuel cs = .ok (value, tail) → value.equals value = true)
      ∧ (∀ cs members tail, readMembers fuel cs = .ok (members, tail) →
        ∀ entry ∈ members, entry.2.equals entry.2 = true)
      ∧ ∀ cs items tail, readItems fuel cs = .ok (items, tail) → ∀ item ∈ items, item.equals item = true := by
  induction fuel with
  | zero =>
    refine ⟨fun cs value tail read => ?_, fun cs found tail read => ?_, fun cs found tail read => ?_⟩
    · simp [readValue] at read
    · simp [readMembers] at read
    · simp [readItems] at read
  | succ fuel ih =>
    obtain ⟨values, members, items⟩ := ih
    refine ⟨fun cs value tail read => ?_, fun cs found tail read => ?_, fun cs found tail read => ?_⟩
    · by_cases quote : ∃ rest, cs = '"' :: rest
      · obtain ⟨rest, rfl⟩ := quote
        obtain ⟨text, -, rfl⟩ := readValue_string.mp read
        exact equals_self_str _
      · by_cases brace : ∃ rest, cs = '{' :: rest
        · obtain ⟨rest, rfl⟩ := brace
          rcases readValue_object.mp read with ⟨-, rfl⟩ | ⟨-, found, inner, distinct, rfl⟩
          · rfl
          · rw [Value.equals]
            exact dict_equals distinct (members _ _ _ inner)
        · by_cases bracket : ∃ rest, cs = '[' :: rest
          · obtain ⟨rest, rfl⟩ := bracket
            rcases readValue_array.mp read with ⟨-, rfl⟩ | ⟨-, found, inner, rfl⟩
            · rfl
            · rw [Value.equals]
              exact equalsItems_self (items _ _ _ inner)
          · rw [readValue_scalar (not_exists.mp quote) (not_exists.mp brace) (not_exists.mp bracket)] at read
            exact readScalar_equals read
    · obtain ⟨rest, key, afterKey, afterColon, value, afterValue, rfl, -, -, valued, ends⟩ := readMembers_ok.mp read
      have first := values _ _ _ valued
      intro entry member
      rcases ends with ⟨-, rfl⟩ | ⟨more, others, -, next, rfl⟩
      · rw [List.mem_singleton.mp member]
        exact first
      · rcases List.mem_cons.mp member with rfl | later
        · exact first
        · exact members _ _ _ next entry later
    · obtain ⟨value, afterValue, valued, ends⟩ := readItems_ok.mp read
      have first := values _ _ _ valued
      intro item member
      rcases ends with ⟨-, rfl⟩ | ⟨more, others, -, next, rfl⟩
      · rw [List.mem_singleton.mp member]
        exact first
      · rcases List.mem_cons.mp member with rfl | later
        · exact first
        · exact items _ _ _ next item later

end BinancePlatform.Source.StrictJson
