import BinancePlatform.Source.AuthorityReissue
import Mathlib.Data.List.Find

/-!
# Reading past a quotation mark

A reader of one token does not look behind a quotation mark that it does not consume: what
it reads in front of the mark is the same for every text behind it.
-/

set_option autoImplicit false

namespace BinancePlatform.Source.JsonReader
open BinancePlatform.Library

/-! ## Spaces -/

theorem skipSpace_front {c : Char} (front rest : List Char) (visible : isSpace c = false) :
    skipSpace (front ++ c :: rest) = skipSpace front ++ c :: rest := by
  induction front with
  | nil => exact skipSpace_cons rest visible
  | cons d front ih =>
    simp only [skipSpace, List.cons_append, List.dropWhile_cons] at ih ⊢
    split
    · exact ih
    · rfl

theorem skipSpace_length (cs : List Char) : (skipSpace cs).length ≤ cs.length :=
  (List.dropWhile_sublist _).length_le

/-! ## Strings -/

theorem readUnicode_front {front rest tail : List Char} {n : ℕ}
    (read : readUnicode (front ++ '"' :: rest) = some (n, tail)) :
    ∃ left, tail = left ++ '"' :: rest
      ∧ ∀ other, readUnicode (front ++ '"' :: other) = some (n, left ++ '"' :: other) := by
  unfold readUnicode at read
  split at read
  · rename_i digits
    have long : 4 ≤ front.length := by
      by_contra short
      have inside : '"' ∈ (front ++ '"' :: rest).take 4 := by
        rw [List.take_append, List.mem_append]
        right
        obtain ⟨k, count⟩ := Nat.exists_eq_succ_of_ne_zero (show 4 - front.length ≠ 0 by omega)
        rw [count, List.take_succ_cons]
        exact List.mem_cons_self
      exact absurd (List.all_eq_true.mp digits.2 _ inside) (by decide)
    have taken : ∀ other, (front ++ '"' :: other).take 4 = front.take 4 := fun other =>
      List.take_append_of_le_length long
    have dropped : ∀ other, (front ++ '"' :: other).drop 4 = front.drop 4 ++ '"' :: other := fun other =>
      List.drop_append_of_le_length long
    have value : ∀ other, readUnicode (front ++ '"' :: other)
        = some (readHex ((front.take 4).map NumberText.lower ++ (front.drop 4 ++ '"' :: other))) := by
      intro other
      rw [readUnicode, taken, dropped, if_pos]
      rwa [taken] at digits
    have size : ((front.take 4).map NumberText.lower).length = 4 := by
      rw [List.length_map, List.length_take, Nat.min_eq_left long]
    have hex : ∀ other, readHex ((front.take 4).map NumberText.lower ++ (front.drop 4 ++ '"' :: other))
        = (Nat.ofDigits 16 (((front.take 4).map NumberText.lower).reverse.map hexValue),
          front.drop 4 ++ '"' :: other) := by
      intro other
      rw [readHex, List.take_append_of_le_length size.ge, List.take_of_length_le size.le,
        List.drop_append_of_le_length size.ge, List.drop_of_length_le size.le, List.nil_append]
    rw [taken, dropped, hex] at read
    obtain ⟨rfl, rfl⟩ := Prod.mk.inj (Option.some.inj read)
    exact ⟨front.drop 4, rfl, fun other => by rw [value, hex]⟩
  · cases read

theorem readUnicode_length {cs tail : List Char} {n : ℕ} (read : readUnicode cs = some (n, tail)) :
    tail.length ≤ cs.length := by
  unfold readUnicode at read
  split at read
  · obtain ⟨-, rfl⟩ := Prod.mk.inj (Option.some.inj read)
    simp only [List.length_drop, List.length_append, List.length_map, List.length_take]
    omega
  · cases read

theorem readLowSurrogate_front {high : ℕ} {front rest tail : List Char} {c : Char}
    (read : readLowSurrogate high (front ++ '"' :: rest) = some (c, tail)) :
    ∃ left, tail = left ++ '"' :: rest
      ∧ ∀ other, readLowSurrogate high (front ++ '"' :: other) = some (c, left ++ '"' :: other) := by
  unfold readLowSurrogate at read
  split at read
  · rename_i digits shape
    match front with
    | [] => cases shape
    | [c] => simp at shape
    | c :: d :: more =>
      simp only [List.cons_append, List.cons.injEq] at shape
      obtain ⟨rfl, rfl, rfl⟩ := shape
      obtain ⟨⟨low, after⟩, pair, read⟩ := Option.bind_eq_some_iff.mp read
      obtain ⟨left, rfl, same⟩ := readUnicode_front pair
      dsimp only at read
      split at read
      · rename_i isLow
        obtain ⟨rfl, rfl⟩ := Prod.mk.inj (Option.some.inj read)
        refine ⟨left, rfl, fun other => ?_⟩
        simp only [List.cons_append, readLowSurrogate, same, Option.bind_eq_bind, Option.bind_some]
        exact if_pos isLow
      · cases read
  · cases read

theorem readLowSurrogate_length {high : ℕ} {cs tail : List Char} {c : Char}
    (read : readLowSurrogate high cs = some (c, tail)) : tail.length ≤ cs.length := by
  unfold readLowSurrogate at read
  split at read
  · obtain ⟨⟨low, after⟩, pair, read⟩ := Option.bind_eq_some_iff.mp read
    have shorter := readUnicode_length pair
    dsimp only at read
    split at read
    · obtain ⟨-, rfl⟩ := Prod.mk.inj (Option.some.inj read)
      simp only [List.length_cons]
      omega
    · cases read
  · cases read

/-- A character in front of a quotation mark, or the mark itself, escaped. -/
theorem readStringChar_front {front rest tail : List Char} {c : Char} (nonempty : front ≠ [])
    (read : readStringChar (front ++ '"' :: rest) = some (c, tail)) :
    (∃ left, tail = left ++ '"' :: rest
        ∧ ∀ other, readStringChar (front ++ '"' :: other) = some (c, left ++ '"' :: other))
      ∨ (c = '"' ∧ tail = rest ∧ ∀ other, readStringChar (front ++ '"' :: other) = some ('"', other)) := by
  match front, nonempty with
  | [d], _ =>
    by_cases escape : d = '\\'
    · subst escape
      right
      have marked : ∀ other, readStringChar ('\\' :: '"' :: other) = some ('"', other) := fun _ => rfl
      rw [List.cons_append, List.nil_append, marked] at read
      obtain ⟨rfl, rfl⟩ := Prod.mk.inj (Option.some.inj read)
      exact ⟨rfl, rfl, marked⟩
    · left
      have plain : ∀ other, readStringChar (d :: '"' :: other)
          = if d.toNat < 0x20 then none else some (d, '"' :: other) := by
        intro other
        unfold readStringChar
        split <;> simp_all
      rw [List.cons_append, List.nil_append, plain] at read
      split at read
      · cases read
      · rename_i visible
        obtain ⟨rfl, rfl⟩ := Prod.mk.inj (Option.some.inj read)
        exact ⟨[], rfl, fun other => by rw [List.cons_append, List.nil_append, plain, if_neg visible]⟩
  | d :: e :: more, _ =>
    left
    by_cases escape : d = '\\'
    · subst escape
      by_cases unicode : e = 'u'
      · subst unicode
        simp only [List.cons_append, readStringChar] at read ⊢
        obtain ⟨⟨n, after⟩, digits, read⟩ := Option.bind_eq_some_iff.mp read
        obtain ⟨left, rfl, same⟩ := readUnicode_front digits
        dsimp only at read
        split at read
        · rename_i isHigh
          obtain ⟨left', rfl, same'⟩ := readLowSurrogate_front read
          refine ⟨left', rfl, fun other => ?_⟩
          rw [same, Option.bind_eq_bind, Option.bind_some]
          dsimp only
          rw [if_pos isHigh, same']
        · split at read
          · cases read
          · rename_i notHigh notLow
            obtain ⟨rfl, rfl⟩ := Prod.mk.inj (Option.some.inj read)
            refine ⟨left, rfl, fun other => ?_⟩
            rw [same, Option.bind_eq_bind, Option.bind_some]
            dsimp only
            rw [if_neg notHigh, if_neg notLow]
      · have lookup : ∀ other, readStringChar ('\\' :: e :: (more ++ '"' :: other))
            = (escapes.lookup e).map fun found => (found, more ++ '"' :: other) := by
          intro other
          rw [readStringChar]
          simpa using unicode
        rw [List.cons_append, List.cons_append, lookup] at read
        obtain ⟨found, known, pair⟩ := Option.map_eq_some_iff.mp read
        obtain ⟨rfl, rfl⟩ := Prod.mk.inj pair
        exact ⟨more, rfl, fun other => by rw [List.cons_append, List.cons_append, lookup, known]; rfl⟩
    · have plain : ∀ other, readStringChar (d :: e :: (more ++ '"' :: other))
          = if d.toNat < 0x20 then none else some (d, e :: (more ++ '"' :: other)) := by
        intro other
        conv_lhs => unfold readStringChar
        split <;> simp_all
      rw [List.cons_append, List.cons_append, plain] at read
      split at read
      · cases read
      · rename_i visible
        obtain ⟨rfl, rfl⟩ := Prod.mk.inj (Option.some.inj read)
        exact ⟨e :: more, rfl, fun other => by rw [List.cons_append, List.cons_append, plain, if_neg visible]⟩

theorem readStringChar_length {cs tail : List Char} {c : Char} (read : readStringChar cs = some (c, tail)) :
    tail.length < cs.length := by
  unfold readStringChar at read
  split at read
  · obtain ⟨⟨n, after⟩, digits, read⟩ := Option.bind_eq_some_iff.mp read
    have shorter := readUnicode_length digits
    dsimp only at read
    split at read
    · have least := readLowSurrogate_length read
      simp only [List.length_cons]
      omega
    · split at read
      · cases read
      · obtain ⟨-, rfl⟩ := Prod.mk.inj (Option.some.inj read)
        simp only [List.length_cons]
        omega
  · obtain ⟨found, -, pair⟩ := Option.map_eq_some_iff.mp read
    obtain ⟨-, rfl⟩ := Prod.mk.inj pair
    simp only [List.length_cons]
    omega
  · split at read
    · cases read
    · obtain ⟨-, rfl⟩ := Prod.mk.inj (Option.some.inj read)
      simp only [List.length_cons]
      omega
  · cases read

theorem readString_quote (fuel : ℕ) (rest : List Char) : readString fuel ('"' :: rest) = some ([], rest) := by
  unfold readString
  rfl

theorem readString_nil (fuel : ℕ) : readString fuel [] = none := by
  cases fuel <;> simp [readString, readStringChar]

theorem readString_zero {c : Char} (rest : List Char) (other : c ≠ '"') : readString 0 (c :: rest) = none := by
  unfold readString
  split <;> simp_all

theorem readString_succ (fuel : ℕ) {c : Char} (rest : List Char) (other : c ≠ '"') :
    readString (fuel + 1) (c :: rest) = (readStringChar (c :: rest)).bind fun first =>
      (readString fuel first.2).bind fun others => some (first.1 :: others.1, others.2) := by
  conv_lhs => unfold readString
  split <;> simp_all

theorem readString_length {fuel : ℕ} {cs text tail : List Char} (read : readString fuel cs = some (text, tail)) :
    tail.length < cs.length := by
  induction fuel generalizing cs text tail with
  | zero =>
    match cs with
    | [] => simp [readString_nil] at read
    | c :: rest =>
      by_cases quote : c = '"'
      · subst quote
        rw [readString_quote] at read
        obtain ⟨-, rfl⟩ := Prod.mk.inj (Option.some.inj read)
        exact Nat.lt_succ_self _
      · rw [readString_zero rest quote] at read
        cases read
  | succ fuel ih =>
    match cs with
    | [] => simp [readString_nil] at read
    | c :: rest =>
      by_cases quote : c = '"'
      · subst quote
        rw [readString_quote] at read
        obtain ⟨-, rfl⟩ := Prod.mk.inj (Option.some.inj read)
        exact Nat.lt_succ_self _
      · rw [readString_succ fuel rest quote] at read
        obtain ⟨⟨d, after⟩, first, read⟩ := Option.bind_eq_some_iff.mp read
        obtain ⟨⟨more, last⟩, others, read⟩ := Option.bind_eq_some_iff.mp read
        obtain ⟨-, rfl⟩ := Prod.mk.inj (Option.some.inj read)
        have head := readStringChar_length first
        have later : last.length < after.length := ih others
        exact later.trans head

/-- A string in front of a quotation mark, up to the mark, or beyond it where it is escaped. -/
theorem readString_front {fuel : ℕ} {front rest text tail : List Char}
    (read : readString fuel (front ++ '"' :: rest) = some (text, tail)) :
    (∃ left, tail = left ++ '"' :: rest
        ∧ ∀ other, readString fuel (front ++ '"' :: other) = some (text, left ++ '"' :: other))
      ∨ (tail = rest ∧ ∀ other, readString fuel (front ++ '"' :: other) = some (text, other))
      ∨ ∃ fuel' first more, text = first ++ '"' :: more ∧ readString fuel' rest = some (more, tail)
        ∧ ∀ other more' tail', readString fuel' other = some (more', tail') →
          readString fuel (front ++ '"' :: other) = some (first ++ '"' :: more', tail') := by
  induction fuel generalizing front text tail with
  | zero =>
    match front with
    | [] =>
      rw [List.nil_append, readString_quote] at read
      obtain ⟨rfl, rfl⟩ := Prod.mk.inj (Option.some.inj read)
      exact .inr (.inl ⟨rfl, fun other => readString_quote _ _⟩)
    | c :: left =>
      by_cases quote : c = '"'
      · subst quote
        rw [List.cons_append, readString_quote] at read
        obtain ⟨rfl, rfl⟩ := Prod.mk.inj (Option.some.inj read)
        exact .inl ⟨left, rfl, fun other => readString_quote _ _⟩
      · rw [List.cons_append, readString_zero _ quote] at read
        cases read
  | succ fuel ih =>
    match front with
    | [] =>
      rw [List.nil_append, readString_quote] at read
      obtain ⟨rfl, rfl⟩ := Prod.mk.inj (Option.some.inj read)
      exact .inr (.inl ⟨rfl, fun other => readString_quote _ _⟩)
    | c :: left =>
      by_cases quote : c = '"'
      · subst quote
        rw [List.cons_append, readString_quote] at read
        obtain ⟨rfl, rfl⟩ := Prod.mk.inj (Option.some.inj read)
        exact .inl ⟨left, rfl, fun other => readString_quote _ _⟩
      · have step : ∀ other, readString (fuel + 1) (c :: left ++ '"' :: other)
            = (readStringChar (c :: left ++ '"' :: other)).bind fun first =>
              (readString fuel first.2).bind fun others => some (first.1 :: others.1, others.2) := fun other =>
          readString_succ fuel _ quote
        rw [step] at read
        obtain ⟨⟨d, after⟩, first, read⟩ := Option.bind_eq_some_iff.mp read
        obtain ⟨⟨more, last⟩, others, read⟩ := Option.bind_eq_some_iff.mp read
        obtain ⟨rfl, rfl⟩ := Prod.mk.inj (Option.some.inj read)
        dsimp only at others ⊢
        rcases readStringChar_front (List.cons_ne_nil c left) first with ⟨left', rfl, char⟩ | ⟨rfl, rfl, char⟩
        · rcases ih others with ⟨left'', shape, same⟩ | ⟨shape, same⟩ | ⟨fuel', lead, beyond, shape, inner, same⟩
          · exact .inl ⟨left'', shape, fun other => by rw [step, char, Option.bind_some, same]; rfl⟩
          · exact .inr (.inl ⟨shape, fun other => by rw [step, char, Option.bind_some, same]; rfl⟩)
          · refine .inr (.inr ⟨fuel', d :: lead, beyond, by rw [shape]; rfl, inner,
              fun other more' tail' found => ?_⟩)
            rw [step, char, Option.bind_some, same other more' tail' found]
            rfl
        · refine .inr (.inr ⟨fuel, [], more, rfl, others, fun other more' tail' found => ?_⟩)
          rw [step, char, Option.bind_some, found]
          rfl

/-- A character that a string holds as it is. -/
def IsPlain (c : Char) : Prop := c ≠ '"' ∧ c ≠ '\\' ∧ ¬c.toNat < 0x20

theorem readString_plain {fuel : ℕ} {name rest text tail : List Char} (plain : ∀ c ∈ name, IsPlain c)
    (read : readString fuel (name ++ '"' :: rest) = some (text, tail)) :
    text = name ∧ tail = rest ∧ ∀ other, readString fuel (name ++ '"' :: other) = some (name, other) := by
  induction name generalizing fuel text tail with
  | nil =>
    rw [List.nil_append, readString_quote] at read
    obtain ⟨rfl, rfl⟩ := Prod.mk.inj (Option.some.inj read)
    exact ⟨rfl, rfl, fun other => readString_quote _ _⟩
  | cons c name ih =>
    obtain ⟨quote, escape, visible⟩ := plain c List.mem_cons_self
    cases fuel with
    | zero =>
      rw [List.cons_append, readString_zero _ quote] at read
      cases read
    | succ fuel =>
      have step : ∀ other, readString (fuel + 1) (c :: name ++ '"' :: other)
          = (readString fuel (name ++ '"' :: other)).bind fun others => some (c :: others.1, others.2) := by
        intro other
        rw [List.cons_append, readString_succ fuel _ quote, readStringChar_plain _ escape visible, Option.bind_some]
      rw [step] at read
      obtain ⟨⟨more, last⟩, others, read⟩ := Option.bind_eq_some_iff.mp read
      obtain ⟨rfl, rfl⟩ := Prod.mk.inj (Option.some.inj read)
      obtain ⟨rfl, rfl, same⟩ := ih (fun d member => plain d (List.mem_cons_of_mem _ member)) others
      exact ⟨rfl, rfl, fun other => by rw [step, same]; rfl⟩

/-! ## Literals and numbers -/

theorem isPrefixOf_front {literal front rest : List Char} (plain : '"' ∉ literal) :
    literal.isPrefixOf (front ++ '"' :: rest) = literal.isPrefixOf front := by
  induction literal generalizing front with
  | nil => rfl
  | cons c literal ih =>
    rw [List.mem_cons, not_or] at plain
    cases front with
    | nil =>
      rw [List.nil_append, List.isPrefixOf_cons_cons, beq_eq_false_iff_ne.mpr (Ne.symm plain.1)]
      rfl
    | cons d front => rw [List.cons_append, List.isPrefixOf_cons_cons, List.isPrefixOf_cons_cons, ih plain.2]

theorem readLiteral_front (front rest : List Char) :
    readLiteral (front ++ '"' :: rest) = (readLiteral front).map fun read => (read.1, read.2 ++ '"' :: rest) := by
  have plain : ∀ literal ∈ literals, '"' ∉ literal.1.toList := by decide
  have same : (literals.find? fun l => l.1.toList.isPrefixOf (front ++ '"' :: rest))
      = literals.find? fun l => l.1.toList.isPrefixOf front :=
    List.find?_congr fun literal member => isPrefixOf_front (plain literal member)
  rw [readLiteral, readLiteral, same]
  cases found : literals.find? fun l => l.1.toList.isPrefixOf front with
  | none => rfl
  | some literal =>
    have starts := List.find?_some found
    rw [List.isPrefixOf_iff_prefix] at starts
    rw [Option.map_some, Option.map_some, Option.map_some, List.drop_append_of_le_length starts.length_le]

theorem readLiteral_length {cs tail : List Char} {value : Value} (read : readLiteral cs = some (value, tail)) :
    tail.length ≤ cs.length := by
  obtain ⟨literal, -, pair⟩ := Option.map_eq_some_iff.mp read
  obtain ⟨-, rfl⟩ := Prod.mk.inj pair
  rw [List.length_drop]
  exact Nat.sub_le _ _

theorem head_front {c : Char} (front rest : List Char) (other : c ≠ '"') :
    (front ++ '"' :: rest).head? = some c ↔ front.head? = some c := by
  cases front with
  | nil => simp [Ne.symm other]
  | cons d front => simp

theorem digitsOf_front (front rest : List Char) : digitsOf (front ++ '"' :: rest) = digitsOf front := by
  induction front with
  | nil => rfl
  | cons d front ih =>
    simp only [digitsOf, List.cons_append, List.takeWhile_cons] at ih ⊢
    rw [ih]

theorem digitsOf_length (cs : List Char) : (digitsOf cs).length ≤ cs.length :=
  (List.takeWhile_sublist _).length_le

/-- A number stops before a quotation mark. -/
theorem numberParts_front (front rest : List Char) :
    numberParts (front ++ '"' :: rest) = numberParts front := by
  have minus := head_front (c := '-') front rest (by decide)
  unfold numberParts
  simp only [minus]
  generalize signed : (if front.head? = some '-' then ['-'] else []) = signText
  have signLength : signText.length ≤ front.length := by
    rw [← signed]
    split
    · rename_i negative
      cases front with
      | nil => cases negative
      | cons d more => exact Nat.le_add_left _ _
    · exact Nat.zero_le _
  rw [List.drop_append_of_le_length signLength]
  generalize front.drop signText.length = unsigned
  simp only [head_front (c := '0') unsigned rest (by decide), digitsOf_front]
  generalize wholeIs : (if unsigned.head? = some '0' then ['0'] else digitsOf unsigned) = whole
  have wholeLength : whole.length ≤ unsigned.length := by
    rw [← wholeIs]
    split
    · rename_i zero
      cases unsigned with
      | nil => cases zero
      | cons d more => exact Nat.le_add_left _ _
    · exact digitsOf_length _
  rw [List.drop_append_of_le_length wholeLength]
  generalize unsigned.drop whole.length = afterWhole
  have tailDigits : afterWhole.head? = some '.' →
      digitsOf (afterWhole ++ '"' :: rest).tail = digitsOf afterWhole.tail := by
    intro point
    cases afterWhole with
    | nil => cases point
    | cons c more => exact digitsOf_front more rest
  have fraction : (if (afterWhole ++ '"' :: rest).head? = some '.'
        ∧ (digitsOf (afterWhole ++ '"' :: rest).tail).length ≠ 0 then
          '.' :: digitsOf (afterWhole ++ '"' :: rest).tail else [])
      = if afterWhole.head? = some '.' ∧ (digitsOf afterWhole.tail).length ≠ 0 then
          '.' :: digitsOf afterWhole.tail else [] := by
    simp only [head_front (c := '.') afterWhole rest (by decide)]
    by_cases point : afterWhole.head? = some '.'
    · rw [tailDigits point]
    · simp [point]
  rw [fraction]
  generalize fracIs : (if afterWhole.head? = some '.' ∧ (digitsOf afterWhole.tail).length ≠ 0 then
      '.' :: digitsOf afterWhole.tail else []) = frac
  have fracLength : frac.length ≤ afterWhole.length := by
    rw [← fracIs]
    split
    · rename_i point
      have digits := digitsOf_length afterWhole.tail
      cases afterWhole with
      | nil => cases point.1
      | cons c more => simpa using digits
    · exact Nat.zero_le _
  rw [List.drop_append_of_le_length fracLength]
  generalize afterWhole.drop frac.length = afterFrac
  cases afterFrac with
  | nil => simp
  | cons c more =>
    have next : ∀ sign : Char, sign ≠ '"' → ((more ++ '"' :: rest).head? = some sign ↔ more.head? = some sign) :=
      fun sign other => head_front more rest other
    have power : ∀ sign : List Char, sign.length ≤ more.length →
        digitsOf ((c :: (more ++ '"' :: rest)).drop (1 + sign.length))
          = digitsOf ((c :: more).drop (1 + sign.length)) := by
      intro sign short
      rw [Nat.add_comm, List.drop_succ_cons, List.drop_succ_cons, List.drop_append_of_le_length short, digitsOf_front]
    simp only [List.cons_append, List.drop_succ_cons, List.drop_zero, next '-' (by decide), next '+' (by decide),
      List.head?_cons, List.take_succ_cons, List.take_zero]
    by_cases signs : more.head? = some '-' ∨ more.head? = some '+'
    · have one : (more ++ '"' :: rest).take 1 = more.take 1 ∧ (more.take 1).length ≤ more.length := by
        cases more with
        | nil => simp at signs
        | cons d more => simp
      simp only [if_pos signs, one.1, power _ one.2]
    · simp only [if_neg signs, power [] (Nat.zero_le _)]

theorem numberParts_length {cs integer frac exponent : List Char}
    (read : numberParts cs = some (integer, frac, exponent)) : (integer ++ frac ++ exponent).length ≤ cs.length := by
  unfold numberParts at read
  dsimp only at read
  generalize signed : (if cs.head? = some '-' then ['-'] else []) = signText at read
  have signLength : signText.length ≤ cs.length := by
    rw [← signed]
    split
    · rename_i negative
      cases cs with
      | nil => cases negative
      | cons d more => exact Nat.le_add_left _ _
    · exact Nat.zero_le _
  have unsignedLength := List.length_drop (i := signText.length) (l := cs)
  generalize cs.drop signText.length = unsigned at read unsignedLength
  generalize wholeIs : (if unsigned.head? = some '0' then ['0'] else digitsOf unsigned) = whole at read
  have wholeLength : whole.length ≤ unsigned.length := by
    rw [← wholeIs]
    split
    · rename_i zero
      cases unsigned with
      | nil => cases zero
      | cons d more => exact Nat.le_add_left _ _
    · exact digitsOf_length _
  have afterWholeLength := List.length_drop (i := whole.length) (l := unsigned)
  generalize unsigned.drop whole.length = afterWhole at read afterWholeLength
  generalize fracIs : (if afterWhole.head? = some '.' ∧ (digitsOf afterWhole.tail).length ≠ 0 then
      '.' :: digitsOf afterWhole.tail else []) = fraction at read
  have fracLength : fraction.length ≤ afterWhole.length := by
    rw [← fracIs]
    split
    · rename_i point
      have digits := digitsOf_length afterWhole.tail
      cases afterWhole with
      | nil => cases point.1
      | cons c more => simpa using digits
    · exact Nat.zero_le _
  have afterFracLength := List.length_drop (i := fraction.length) (l := afterWhole)
  generalize afterWhole.drop fraction.length = afterFrac at read afterFracLength
  generalize signIs : (if (afterFrac.drop 1).head? = some '-' ∨ (afterFrac.drop 1).head? = some '+' then
      (afterFrac.drop 1).take 1 else []) = sign at read
  have signShort : sign.length ≤ afterFrac.length - 1 := by
    rw [← signIs]
    split
    · rw [List.length_take, List.length_drop]
      exact Nat.min_le_right _ _
    · exact Nat.zero_le _
  have powerLength := digitsOf_length (afterFrac.drop (1 + sign.length))
  rw [List.length_drop] at powerLength
  generalize digitsOf (afterFrac.drop (1 + sign.length)) = power at read powerLength
  generalize exponentIs : (if (afterFrac.head? = some 'e' ∨ afterFrac.head? = some 'E') ∧ ¬power.isEmpty = true then
      afterFrac.take 1 ++ sign ++ power else []) = shown at read
  have exponentLength : shown.length ≤ afterFrac.length := by
    rw [← exponentIs]
    split
    · rename_i marked
      have nonempty : 1 ≤ afterFrac.length := by
        cases afterFrac with
        | nil => simp at marked
        | cons c more => exact Nat.le_add_left _ _
      simp only [List.length_append, List.length_take]
      omega
    · exact Nat.zero_le _
  split at read
  · cases read
  · obtain ⟨rfl, rfl, rfl⟩ : signText ++ whole = integer ∧ fraction = frac ∧ shown = exponent := by
      simpa using read
    simp only [List.length_append]
    omega

theorem readNumber_front (front rest : List Char) :
    readNumber (front ++ '"' :: rest) = (readNumber front).map fun read => (read.1, read.2 ++ '"' :: rest) := by
  unfold readNumber
  rw [numberParts_front]
  cases parts : numberParts front with
  | none => rfl
  | some read =>
    obtain ⟨integer, frac, exponent⟩ := read
    have dropped : (front ++ '"' :: rest).drop (integer ++ frac ++ exponent).length
        = front.drop (integer ++ frac ++ exponent).length ++ '"' :: rest :=
      List.drop_append_of_le_length (numberParts_length parts)
    simp only [Option.bind_eq_bind, Option.bind_some, dropped]
    split
    · split <;> rfl
    · split <;> simp_all

theorem readNumber_length {cs tail : List Char} {value : Value} (read : readNumber cs = some (value, tail)) :
    tail.length ≤ cs.length := by
  unfold readNumber at read
  obtain ⟨⟨integer, frac, exponent⟩, -, read⟩ := Option.bind_eq_some_iff.mp read
  dsimp only at read
  have shorter : (cs.drop (integer ++ frac ++ exponent).length).length ≤ cs.length := by
    rw [List.length_drop]
    exact Nat.sub_le _ _
  split at read
  · split at read
    · cases read
    · obtain ⟨-, rfl⟩ := Prod.mk.inj (Option.some.inj read)
      exact shorter
  · split at read
    · obtain ⟨-, rfl⟩ := Prod.mk.inj (Option.some.inj read)
      exact shorter
    · cases read

end BinancePlatform.Source.JsonReader
