import BinancePlatform.Source.Json

/-!
# `json.loads`

The reader of JSON text, with the literals and the strictness of the interpreter's
own reader. Fuel bounds the nesting and the members; the length of the text is
enough. A lone surrogate has no character here and is refused.
-/

set_option autoImplicit false

namespace BinancePlatform.Source
open BinancePlatform.Library

namespace JsonReader

def isSpace (c : Char) : Bool := c = ' ' || c = '\t' || c = '\n' || c = '\r'

def skipSpace (cs : List Char) : List Char := cs.dropWhile isSpace

def isHexDigit (c : Char) : Bool :=
  ('0' ≤ c && c ≤ '9') || ('a' ≤ c && c ≤ 'f') || ('A' ≤ c && c ≤ 'F')

/-- The four digits after `\u`, in either case. -/
def readUnicode (cs : List Char) : Option (ℕ × List Char) :=
  if (cs.take 4).length = 4 ∧ (cs.take 4).all isHexDigit then
    some (readHex ((cs.take 4).map NumberText.lower ++ cs.drop 4))
  else none

def escapes : List (Char × Char) :=
  [('"', '"'), ('\\', '\\'), ('/', '/'), ('b', Char.ofNat 8), ('f', Char.ofNat 12), ('n', '\n'),
   ('r', '\r'), ('t', '\t')]

/-- The low half of a surrogate pair. -/
def readLowSurrogate (high : ℕ) : List Char → Option (Char × List Char)
  | '\\' :: 'u' :: rest => do
    let (low, tail) ← readUnicode rest
    if 0xdc00 ≤ low ∧ low < 0xe000 then
      some (Char.ofNat (0x10000 + (high - 0xd800) * 0x400 + (low - 0xdc00)), tail)
    else none
  | _ => none

def readStringChar : List Char → Option (Char × List Char)
  | '\\' :: 'u' :: rest => do
    let (n, rest) ← readUnicode rest
    if 0xd800 ≤ n ∧ n < 0xdc00 then readLowSurrogate n rest
    else if 0xdc00 ≤ n ∧ n < 0xe000 then none
    else some (Char.ofNat n, rest)
  | '\\' :: c :: rest => (escapes.lookup c).map fun found => (found, rest)
  | c :: rest => if c.toNat < 0x20 then none else some (c, rest)
  | [] => none

/-- The characters up to the closing quotation mark. -/
def readString : ℕ → List Char → Option (List Char × List Char)
  | _, '"' :: rest => some ([], rest)
  | 0, _ => none
  | fuel + 1, cs => do
    let (c, rest) ← readStringChar cs
    let (more, tail) ← readString fuel rest
    some (c :: more, tail)

def literals : List (String × Value) :=
  [("null", .none), ("true", .bool true), ("false", .bool false), ("NaN", .float .nan),
   ("Infinity", .float (.infinite false)), ("-Infinity", .float (.infinite true))]

def readLiteral (cs : List Char) : Option (Value × List Char) :=
  (literals.find? fun l => l.1.toList.isPrefixOf cs).map fun l => (l.2, cs.drop l.1.toList.length)

def digitsOf (cs : List Char) : List Char := cs.takeWhile Char.isDigit

/-- `(-?(?:0|[1-9][0-9]*))(\.[0-9]+)?([eE][-+]?[0-9]+)?`: the text of each group. -/
def numberParts (cs : List Char) : Option (List Char × List Char × List Char) := do
  let signText := if cs.head? = some '-' then ['-'] else []
  let unsigned := cs.drop signText.length
  let whole := if unsigned.head? = some '0' then ['0'] else digitsOf unsigned
  if whole.isEmpty then none
  let afterWhole := unsigned.drop whole.length
  let frac := if afterWhole.head? = some '.' ∧ (digitsOf afterWhole.tail).length ≠ 0 then
    '.' :: digitsOf afterWhole.tail else []
  let afterFrac := afterWhole.drop frac.length
  let sign := if (afterFrac.drop 1).head? = some '-' ∨ (afterFrac.drop 1).head? = some '+' then
    (afterFrac.drop 1).take 1 else []
  let power := digitsOf (afterFrac.drop (1 + sign.length))
  let marked := afterFrac.head? = some 'e' ∨ afterFrac.head? = some 'E'
  let exponent := if marked ∧ ¬ power.isEmpty then afterFrac.take 1 ++ sign ++ power else []
  some (signText ++ whole, frac, exponent)

/-- An integer of more than 4300 digits is refused. -/
def readNumber (cs : List Char) : Option (Value × List Char) := do
  let (integer, frac, exponent) ← numberParts cs
  let rest := cs.drop (integer ++ frac ++ exponent).length
  if frac.isEmpty ∧ exponent.isEmpty then
    let digits := integer.filter Char.isDigit
    if 4300 < digits.length then none
    let magnitude : ℤ := NumberText.ofDigits (digits.map fun c => c.toNat - '0'.toNat)
    some (.int (if integer.head? = some '-' then -magnitude else magnitude), rest)
  else
    match PyFloat.ofText (String.ofList (integer ++ frac ++ exponent)) with
    | .ok x => some (.float x, rest)
    | .error _ => none

mutual

def readValue : ℕ → List Char → Option (Value × List Char)
  | 0, _ => none
  | _ + 1, '"' :: rest => do
    let (cs, tail) ← readString rest.length rest
    some (.str (String.ofList cs), tail)
  | fuel + 1, '{' :: rest =>
    match skipSpace rest with
    | '}' :: tail => some (.dict .empty, tail)
    | other => do
      let (members, tail) ← readMembers fuel other
      some (.dict (Dict.empty.setAll members), tail)
  | fuel + 1, '[' :: rest =>
    match skipSpace rest with
    | ']' :: tail => some (.list [], tail)
    | other => do
      let (items, tail) ← readItems fuel other
      some (.list items, tail)
  | _ + 1, cs => (readLiteral cs).or (readNumber cs)

/-- The members up to the closing brace; a later entry of one name replaces an earlier. -/
def readMembers : ℕ → List Char → Option (List (String × Value) × List Char)
  | 0, _ => none
  | fuel + 1, '"' :: rest => do
    let (key, afterKey) ← readString rest.length rest
    match skipSpace afterKey with
    | ':' :: afterColon =>
      let (value, afterValue) ← readValue fuel (skipSpace afterColon)
      match skipSpace afterValue with
      | '}' :: tail => some ([(String.ofList key, value)], tail)
      | ',' :: more =>
        let (others, tail) ← readMembers fuel (skipSpace more)
        some ((String.ofList key, value) :: others, tail)
      | _ => none
    | _ => none
  | _ + 1, _ => none

def readItems : ℕ → List Char → Option (List Value × List Char)
  | 0, _ => none
  | fuel + 1, cs => do
    let (value, afterValue) ← readValue fuel cs
    match skipSpace afterValue with
    | ']' :: tail => some ([value], tail)
    | ',' :: more =>
      let (others, tail) ← readItems fuel (skipSpace more)
      some (value :: others, tail)
    | _ => none

end

end JsonReader

/-- `json.loads`. -/
def jsonLoads (text : List Char) : Except PyException Value :=
  match JsonReader.readValue (text.length + 1) (JsonReader.skipSpace text) with
  | some (value, rest) =>
    if JsonReader.skipSpace rest = [] then .ok value else .error (valueError "Extra data")
  | none => .error (valueError "Expecting value")

/-! ## Reading back what was written -/

namespace JsonReader

theorem hexDigit_written {d : ℕ} (h : d < 16) :
    isHexDigit (Nat.digitChar d) = true ∧ NumberText.lower (Nat.digitChar d) = Nat.digitChar d := by
  interval_cases d <;> decide

theorem readUnicode_hexDigits {n : ℕ} (h : n < 0x10000) (rest : List Char) :
    readUnicode (hexDigits 4 n ++ rest) = some (n, rest) := by
  have length := hexDigits_length h
  have taken : (hexDigits 4 n ++ rest).take 4 = hexDigits 4 n := by
    rw [List.take_append_of_le_length length.ge, List.take_of_length_le length.le]
  have dropped : (hexDigits 4 n ++ rest).drop 4 = rest := by
    rw [List.drop_append_of_le_length length.ge, List.drop_of_length_le length.le, List.nil_append]
  have written : ∀ c ∈ hexDigits 4 n, isHexDigit c = true ∧ NumberText.lower c = c := by
    intro c member
    rw [hexDigits, List.mem_append, List.mem_reverse, List.mem_map] at member
    rcases member with zero | ⟨d, digit, rfl⟩
    · rw [List.eq_of_mem_replicate zero]
      decide
    · exact hexDigit_written (Nat.digits_lt_base (by norm_num) digit)
  have lowered : (hexDigits 4 n).map NumberText.lower = hexDigits 4 n :=
    (List.map_congr_left fun c member => (written c member).2).trans (List.map_id _)
  rw [readUnicode, taken, dropped, if_pos ⟨length, List.all_eq_true.mpr fun c member =>
    (written c member).1⟩, lowered, readHex_hexDigits h]

theorem readStringChar_unicode {n : ℕ} (rest : List Char) (basic : n < 0xd800 ∨ 0xdfff < n)
    (low : n < 0x10000) : readStringChar (unicodeEscape n ++ rest) = some (Char.ofNat n, rest) := by
  rw [unicodeEscape, List.cons_append, List.cons_append, readStringChar, readUnicode_hexDigits low]
  change (if 0xd800 ≤ n ∧ n < 0xdc00 then readLowSurrogate n rest
    else if 0xdc00 ≤ n ∧ n < 0xe000 then none else some (Char.ofNat n, rest)) = _
  rw [if_neg (by omega), if_neg (by omega)]

theorem readStringChar_pair {high low : ℕ} (rest : List Char) (isHigh : 0xd800 ≤ high ∧ high < 0xdc00)
    (isLow : 0xdc00 ≤ low ∧ low < 0xe000) :
    readStringChar (unicodeEscape high ++ unicodeEscape low ++ rest)
      = some (Char.ofNat (0x10000 + (high - 0xd800) * 0x400 + (low - 0xdc00)), rest) := by
  rw [unicodeEscape, List.cons_append, List.cons_append, List.cons_append, List.cons_append,
    List.append_assoc, readStringChar, readUnicode_hexDigits (by omega)]
  change (if 0xd800 ≤ high ∧ high < 0xdc00 then readLowSurrogate high (unicodeEscape low ++ rest)
    else _) = _
  rw [if_pos isHigh, unicodeEscape, List.cons_append, List.cons_append, readLowSurrogate,
    readUnicode_hexDigits (by omega)]
  change (if 0xdc00 ≤ low ∧ low < 0xe000 then _ else none) = _
  rw [if_pos isLow]

theorem visible_of_space_le {c : Char} (h : ' ' ≤ c) : ¬ c.toNat < 0x20 := by
  have bound : (' ' : Char).toNat ≤ c.toNat := h
  exact Nat.not_lt.mpr bound

/-- A character that is written as it is. -/
theorem readStringChar_plain {c : Char} (rest : List Char) (other : c ≠ '\\')
    (visible : ¬ c.toNat < 0x20) : readStringChar (c :: rest) = some (c, rest) := by
  unfold readStringChar
  split
  case h_1 same => exact absurd (List.cons.inj same).1 other
  case h_2 same => exact absurd (List.cons.inj same).1 other
  case h_3 same =>
    obtain ⟨rfl, rfl⟩ := List.cons.inj same
    rw [if_neg visible]
  case h_4 same => cases same

theorem readStringChar_beyond {c : Char} (rest : List Char) (beyond : ¬ c.toNat < 0x10000) :
    readStringChar (unicodeEscape (0xd800 + (c.toNat - 0x10000) / 0x400)
      ++ unicodeEscape (0xdc00 + (c.toNat - 0x10000) % 0x400) ++ rest) = some (c, rest) := by
  have whole := toNat_cases c
  rw [readStringChar_pair rest (by omega) (by omega)]
  have joined : 0x10000 + (0xd800 + (c.toNat - 0x10000) / 0x400 - 0xd800) * 0x400
      + (0xdc00 + (c.toNat - 0x10000) % 0x400 - 0xdc00) = c.toNat := by omega
  rw [joined, Char.ofNat_toNat]

theorem readStringChar_quoted {c : Char} (rest : List Char) (quoted : c = '"' ∨ c = '\\') :
    readStringChar (['\\', c] ++ rest) = some (c, rest) := by
  rcases quoted with same | same
  · rw [same]
    rfl
  · rw [same]
    rfl

theorem readStringChar_escaped {c letter : Char} (rest : List Char) (unlike : letter ≠ 'u')
    (escape : escapes.lookup letter = some c) :
    readStringChar (['\\', letter] ++ rest) = some (c, rest) := by
  change readStringChar ('\\' :: letter :: rest) = _
  unfold readStringChar
  split
  case h_1 same => exact absurd (List.cons.inj (List.cons.inj same).2).1 unlike
  case h_2 same =>
    obtain ⟨rfl, rfl⟩ := List.cons.inj (List.cons.inj same).2
    rw [escape]
    rfl
  case h_3 other same =>
    obtain ⟨rfl, rfl⟩ := List.cons.inj same
    exact absurd rfl (other letter rest rfl)
  case h_4 same => cases same

theorem eq_ofNat {c : Char} {n : ℕ} (code : c.toNat = n) : c = Char.ofNat n := by
  rw [← code, Char.ofNat_toNat]

theorem readStringChar_code {c : Char} (rest : List Char) (basic : c.toNat < 0x10000) :
    readStringChar (unicodeEscape c.toNat ++ rest) = some (c, rest) := by
  have whole := toNat_cases c
  rw [readStringChar_unicode rest (by omega) basic, Char.ofNat_toNat]

theorem readStringChar_jsonChar (c : Char) (rest : List Char) :
    readStringChar (jsonChar c ++ rest) = some (c, rest) := by
  rw [jsonChar]
  by_cases quoted : c = '"' ∨ c = '\\'
  · rw [if_pos quoted]
    exact readStringChar_quoted rest quoted
  rw [if_neg quoted]
  by_cases newline : c = '\n'
  · rw [if_pos newline]
    exact readStringChar_escaped rest (by decide) (by rw [newline]; decide)
  rw [if_neg newline]
  by_cases carriage : c = '\r'
  · rw [if_pos carriage]
    exact readStringChar_escaped rest (by decide) (by rw [carriage]; decide)
  rw [if_neg carriage]
  by_cases tab : c = '\t'
  · rw [if_pos tab]
    exact readStringChar_escaped rest (by decide) (by rw [tab]; decide)
  rw [if_neg tab]
  by_cases back : c.toNat = 0x8
  · rw [if_pos back]
    exact readStringChar_escaped rest (by decide) (by rw [eq_ofNat back]; decide)
  rw [if_neg back]
  by_cases feed : c.toNat = 0xc
  · rw [if_pos feed]
    exact readStringChar_escaped rest (by decide) (by rw [eq_ofNat feed]; decide)
  rw [if_neg feed]
  by_cases plain : ' ' ≤ c ∧ c ≤ '~'
  · rw [if_pos plain]
    exact readStringChar_plain rest (fun same => quoted (.inr same)) (visible_of_space_le plain.1)
  rw [if_neg plain]
  by_cases basic : c.toNat < 0x10000
  · rw [if_pos basic]
    exact readStringChar_code rest basic
  · rw [if_neg basic]
    exact readStringChar_beyond rest basic

theorem readString_written (cs rest : List Char) {fuel : ℕ} (enough : cs.length ≤ fuel) :
    readString fuel (cs.flatMap jsonChar ++ '"' :: rest) = some (cs, rest) := by
  induction cs generalizing fuel with
  | nil => cases fuel <;> rfl
  | cons c more ih =>
    obtain ⟨fuel, rfl⟩ : ∃ n, fuel = n + 1 := ⟨fuel - 1, by simp at enough; omega⟩
    have bound : more.length ≤ fuel := by simpa using enough
    have step := ih bound
    rw [List.flatMap_cons, List.append_assoc]
    have notQuote := jsonChar_ne_quote c (more.flatMap jsonChar ++ '"' :: rest)
    rw [readString]
    · rw [readStringChar_jsonChar]
      change (readString fuel (more.flatMap jsonChar ++ '"' :: rest)).bind _ = _
      rw [step]
      rfl
    · exact fun tail => notQuote tail

theorem jsonChar_length (c : Char) : 0 < (jsonChar c).length := by
  have read := readStringChar_jsonChar c []
  cases written : jsonChar c with
  | nil =>
    rw [written] at read
    cases read
  | cons first rest => exact Nat.succ_pos _

theorem length_le_flatMap (cs : List Char) : cs.length ≤ (cs.flatMap jsonChar).length := by
  induction cs with
  | nil => simp
  | cons c rest ih =>
    have one := jsonChar_length c
    rw [List.flatMap_cons, List.length_append, List.length_cons]
    omega

/-- What can stand after a value inside a document, or at its end. -/
def Follows (rest : List Char) : Prop := ∀ c ∈ rest.head?, c = ',' ∨ c = ']' ∨ c = '}'

/-- A text that the reader takes as one value and leaves what follows. -/
def Reads (text : List Char) (value : Value) : Prop :=
  ∀ fuel rest, Follows rest → text.length ≤ fuel → readValue fuel (text ++ rest) = some (value, rest)

theorem jsonText_append (s : String) (rest : List Char) :
    jsonText s ++ rest = '"' :: (s.toList.flatMap jsonChar ++ '"' :: rest) := by
  simp [jsonText]

theorem readString_jsonText (s : String) (rest : List Char) :
    readString (s.toList.flatMap jsonChar ++ '"' :: rest).length
      (s.toList.flatMap jsonChar ++ '"' :: rest) = some (s.toList, rest) := by
  apply readString_written
  have bound := length_le_flatMap s.toList
  rw [List.length_append]
  omega

theorem reads_text (s : String) : Reads (jsonText s) (.str s) := by
  intro fuel rest _ enough
  obtain ⟨fuel, rfl⟩ : ∃ n, fuel = n + 1 := ⟨fuel - 1, by simp [jsonText] at enough; omega⟩
  rw [jsonText_append, readValue]
  change (readString (s.toList.flatMap jsonChar ++ '"' :: rest).length _).bind _ = _
  rw [readString_jsonText]
  simp

theorem skipSpace_cons {c : Char} (rest : List Char) (visible : isSpace c = false) :
    skipSpace (c :: rest) = c :: rest := by
  rw [skipSpace, List.dropWhile_cons_of_neg (by simp [visible])]

/-- The text of one member of an object. -/
def memberOf (entry : String × List Char) : List Char := jsonText entry.1 ++ ':' :: entry.2

theorem follows_mark {c : Char} (rest : List Char) (mark : c = ',' ∨ c = ']' ∨ c = '}') :
    Follows (c :: rest) := by
  intro first same
  obtain rfl := Option.some.inj same
  exact mark

/-- A value's text starts with no space. -/
def Starts (text : List Char) : Prop := ∃ c rest, text = c :: rest ∧ isSpace c = false

theorem Starts.skipSpace {text : List Char} (starts : Starts text) (rest : List Char) :
    skipSpace (text ++ rest) = text ++ rest := by
  obtain ⟨c, more, rfl, visible⟩ := starts
  exact skipSpace_cons _ visible

theorem starts_quoted (s : String) (rest : List Char) : Starts (jsonText s ++ rest) :=
  ⟨'"', _, rfl, by decide⟩

theorem readMembers_first {fuel : ℕ} {key : String} {text : List Char} {value : Value}
    (starts : Starts text) (reads : Reads text value) (enough : text.length ≤ fuel)
    {rest : List Char} (follows : Follows rest) :
    readMembers (fuel + 1) (memberOf (key, text) ++ rest)
      = match skipSpace rest with
        | '}' :: tail => some ([(key, value)], tail)
        | ',' :: more => (readMembers fuel (skipSpace more)).bind fun found =>
            some ((key, value) :: found.1, found.2)
        | _ => none := by
  rw [memberOf, List.append_assoc, jsonText_append, readMembers]
  change (readString (key.toList.flatMap jsonChar ++ '"' :: (':' :: text ++ rest)).length _).bind _ = _
  rw [readString_jsonText]
  change (match skipSpace (':' :: (text ++ rest)) with
    | ':' :: afterColon => (readValue fuel (skipSpace afterColon)).bind _
    | _ => none) = _
  rw [skipSpace_cons _ (by decide)]
  change (readValue fuel (skipSpace (text ++ rest))).bind _ = _
  rw [starts.skipSpace, reads fuel rest follows enough, Option.bind_some, String.ofList_toList]
  rfl

theorem readMembers_written {entries : List (String × List Char)} {values : List Value}
    (paired : List.Forall₂ (fun e v => Starts e.2 ∧ Reads e.2 v) entries values)
    (nonempty : entries ≠ []) {fuel : ℕ} (rest : List Char)
    (enough : (commaSeparated (entries.map memberOf)).length ≤ fuel) :
    readMembers fuel (commaSeparated (entries.map memberOf) ++ '}' :: rest)
      = some ((entries.map Prod.fst).zip values, rest) := by
  induction paired generalizing fuel with
  | nil => exact absurd rfl nonempty
  | @cons e v entries values head tail ih =>
    obtain ⟨key, text⟩ := e
    obtain ⟨starts, reads⟩ := head
    have size : text.length + 2 ≤ (memberOf (key, text)).length := by
      simp [memberOf, jsonText]
      omega
    cases tail with
    | nil =>
      have alone : commaSeparated [memberOf (key, text)] = memberOf (key, text) := by
        simp [commaSeparated, List.intercalate]
      rw [List.map_cons, List.map_nil, alone] at enough ⊢
      obtain ⟨fuel, rfl⟩ : ∃ n, fuel = n + 1 := ⟨fuel - 1, by omega⟩
      have bound : text.length ≤ fuel := by omega
      rw [readMembers_first starts reads bound (follows_mark rest (by decide)),
        skipSpace_cons _ (by decide)]
      rfl
    | @cons second w entries values next tail =>
      rw [List.map_cons, List.map_cons, commaSeparated_cons_cons, List.length_append,
        List.length_cons] at enough
      rw [List.map_cons, List.map_cons, commaSeparated_cons_cons, List.append_assoc, List.cons_append]
      obtain ⟨fuel, rfl⟩ : ∃ n, fuel = n + 1 := ⟨fuel - 1, by omega⟩
      have remains : (commaSeparated ((second :: entries).map memberOf)).length ≤ fuel := by
        rw [List.map_cons]
        omega
      have others := ih (by simp) remains
      rw [List.map_cons] at others
      have visible : Starts (commaSeparated (memberOf second :: entries.map memberOf)) := by
        obtain ⟨k, t⟩ := second
        cases entries with
        | nil =>
          simpa [commaSeparated, List.intercalate, memberOf] using starts_quoted k (':' :: t)
        | cons =>
          rw [List.map_cons, commaSeparated_cons_cons, memberOf, List.append_assoc]
          exact starts_quoted k _
      have bound : text.length ≤ fuel := by omega
      rw [readMembers_first starts reads bound (follows_mark _ (by decide)),
        skipSpace_cons _ (by decide)]
      change (readMembers fuel (skipSpace _)).bind _ = _
      rw [visible.skipSpace, others]
      rfl

/-- An object of readable members is read as the dictionary of their values. -/
theorem reads_object {entries : List (String × List Char)} {values : List Value}
    (paired : List.Forall₂ (fun e v => Starts e.2 ∧ Reads e.2 v) entries values)
    (nonempty : entries ≠ []) :
    Reads ('{' :: commaSeparated (entries.map memberOf) ++ ['}'])
      (.dict (Dict.empty.setAll ((entries.map Prod.fst).zip values))) := by
  intro fuel rest _ enough
  rw [List.length_append, List.length_cons] at enough
  obtain ⟨fuel, rfl⟩ : ∃ n, fuel = n + 1 := ⟨fuel - 1, by omega⟩
  have bound : (commaSeparated (entries.map memberOf)).length ≤ fuel := by
    omega
  have read := readMembers_written paired nonempty rest bound
  have visible : ∃ c more, commaSeparated (entries.map memberOf) ++ '}' :: rest = c :: more
      ∧ isSpace c = false ∧ c ≠ '}' := by
    cases entries with
    | nil => exact absurd rfl nonempty
    | cons e entries =>
      cases entries with
      | nil => exact ⟨'"', _, by simp [commaSeparated, List.intercalate, memberOf, jsonText]; rfl,
          by decide, by decide⟩
      | cons f entries =>
        exact ⟨'"', _, by
          rw [List.map_cons, List.map_cons, commaSeparated_cons_cons, memberOf, jsonText]; rfl,
          by decide, by decide⟩
  obtain ⟨c, more, shape, notSpace, notBrace⟩ := visible
  have opened : '{' :: commaSeparated (entries.map memberOf) ++ ['}'] ++ rest
      = '{' :: (c :: more) := by
    rw [← shape]
    simp
  rw [opened, readValue, skipSpace_cons _ notSpace]
  rw [shape] at read
  split
  case h_1 tail same => exact absurd (List.cons.inj same).1 notBrace
  case h_2 =>
    change (readMembers fuel (c :: more)).bind _ = _
    rw [read]
    rfl

end JsonReader
end BinancePlatform.Source
