import BinancePlatform.Source.StrictReads

/-!
# One revision in a text

A text with a quoted name, a colon and a quoted revision somewhere in it, read with any
other revision in that place: the strict reader takes the same steps, and what it reads
differs in one string or not at all.

* A value is read to the same end in both texts, before the place, over it or behind it
  (`value_edit`, `items_edit`, `members_edit`, by one induction in `read_edit`).
* The payloads of the two texts differ at most below one place of the top-level object
  (`payload_edit`).
-/

set_option autoImplicit false

namespace BinancePlatform.Guarantees.FieldEdit
open BinancePlatform.Library BinancePlatform.Source StrictJson
open JsonReader hiding readValue readMembers readItems

/-- Forty hexadecimal digits. -/
def Revision (u : List Char) : Prop := u.length = 40 ∧ ∀ c ∈ u, lowerHex c = true

theorem Revision.plain {u : List Char} (revision : Revision u) : ∀ c ∈ u, IsPlain c := by
  intro c member
  have hex := revision.2 c member
  refine ⟨?_, ?_, ?_⟩
  · rintro rfl
    cases hex
  · rintro rfl
    cases hex
  · intro control
    have bounds : ('0' ≤ c ∧ c ≤ '9') ∨ ('a' ≤ c ∧ c ≤ 'f') := by simpa [lowerHex] using hex
    have least : (0x30 : ℕ) ≤ c.toNat := by
      rcases bounds with digit | letter
      · exact Char.le_def.mp digit.1
      · exact le_trans (by decide) (show ('a'.toNat : ℕ) ≤ c.toNat from Char.le_def.mp letter.1)
    omega

/-- The pattern of a field without its revision, and what follows. -/
structure Site where
  name : List Char
  gap : List Char
  space : List Char
  back : List Char
  plain : ∀ c ∈ name, IsPlain c
  starts : ∃ c rest, name = c :: rest ∧ isSpace c = false ∧ c ∉ [':', ',', '}', ']']
  gapSpaces : ∀ c ∈ gap, NumberText.isSpace c = true
  spaceSpaces : ∀ c ∈ space, NumberText.isSpace c = true

namespace Site
variable (s : Site)

def quoted (u : List Char) : List Char := '"' :: (u ++ '"' :: s.back)
def afterName (u : List Char) : List Char := s.gap ++ ':' :: (s.space ++ s.quoted u)
def body (u : List Char) : List Char := s.name ++ '"' :: s.afterName u
def text (front u : List Char) : List Char := front ++ '"' :: s.body u

theorem body_length {u w : List Char} (first : Revision u) (second : Revision w) :
    (s.body u).length = (s.body w).length := by
  simp only [body, afterName, quoted, List.length_append, List.length_cons, first.1, second.1]

theorem text_length (front : List Char) {u : List Char} (revision : Revision u) :
    s.back.length + 42 < (s.text front u).length := by
  simp only [text, body, afterName, quoted, List.length_append, List.length_cons, revision.1]
  omega

theorem skip_text (front u : List Char) : skipSpace (s.text front u) = s.text (skipSpace front) u :=
  skipSpace_front front _ (by decide)

theorem text_cons {c : Char} {front rest u : List Char} (shape : s.text front u = c :: rest) (other : c ≠ '"') :
    ∃ left, front = c :: left ∧ rest = s.text left u := by
  cases front with
  | nil => exact absurd (List.cons.inj shape).1.symm other
  | cons d left =>
    obtain ⟨rfl, rfl⟩ := List.cons.inj shape
    exact ⟨left, rfl, rfl⟩

end Site

/-! ## What no reader goes on from -/

/-- A rest that neither goes on nor ends what holds a value. -/
def Stuck (rest : List Char) : Prop := ∃ c tail, skipSpace rest = c :: tail ∧ c ∉ [',', '}', ']']

theorem Stuck.ne {rest tail : List Char} {c : Char} (stuck : Stuck rest) (ends : c ∈ [',', '}', ']']) :
    skipSpace rest ≠ c :: tail := by
  obtain ⟨d, other, shape, notEnd⟩ := stuck
  rintro found
  rw [found] at shape
  exact notEnd ((List.cons.inj shape).1 ▸ ends)

theorem space_ne {c d : Char} (space : NumberText.isSpace c = true) (visible : NumberText.isSpace d = false) :
    c ≠ d := by
  rintro rfl
  rw [space] at visible
  cases visible

theorem skip_mem {cs rest : List Char} {c : Char} (skipped : skipSpace cs = c :: rest) : c ∈ cs :=
  (List.dropWhile_sublist _).subset (by rw [← skipSpace, skipped]; exact List.mem_cons_self)

section Sites
variable (s : Site)

theorem skip_body (u : List Char) : ∃ c tail, skipSpace (s.body u) = c :: tail ∧ c ∉ [':', ',', '}', ']'] := by
  obtain ⟨c, rest, named, visible, notEnd⟩ := s.starts
  refine ⟨c, rest ++ '"' :: s.afterName u, ?_, notEnd⟩
  rw [Site.body, named, List.cons_append]
  exact skipSpace_cons _ visible

theorem stuck_body (u : List Char) : Stuck (s.body u) := by
  obtain ⟨c, tail, shape, notEnd⟩ := skip_body s u
  exact ⟨c, tail, shape, fun ends => notEnd (List.mem_cons_of_mem _ ends)⟩

theorem skip_afterName (u : List Char) :
    skipSpace (s.afterName u) = skipSpace s.gap ++ ':' :: (s.space ++ s.quoted u) :=
  skipSpace_front _ _ (by decide)

theorem stuck_afterName (u : List Char) : Stuck (s.afterName u) := by
  rw [Stuck, skip_afterName]
  cases gap : skipSpace s.gap with
  | nil => exact ⟨':', _, rfl, by decide⟩
  | cons c more =>
    have space := s.gapSpaces c (skip_mem gap)
    refine ⟨c, _, rfl, ?_⟩
    simp only [List.mem_cons, List.not_mem_nil, or_false, not_or]
    exact ⟨space_ne space (by decide), space_ne space (by decide), space_ne space (by decide)⟩

/-- The colon after the name, if a reader finds it. -/
theorem colon_afterName {old afterColon : List Char} (colon : skipSpace (s.afterName old) = ':' :: afterColon) :
    afterColon = s.space ++ s.quoted old ∧ ∀ u, skipSpace (s.afterName u) = ':' :: (s.space ++ s.quoted u) := by
  rw [skip_afterName] at colon
  cases gap : skipSpace s.gap with
  | nil =>
    rw [gap] at colon
    exact ⟨(List.cons.inj colon).2.symm, fun u => by rw [skip_afterName, gap, List.nil_append]⟩
  | cons c more =>
    rw [gap] at colon
    exact absurd (List.cons.inj colon).1 (space_ne (s.gapSpaces c (skip_mem gap)) (by decide))

omit s in
theorem readScalar_space {c : Char} (rest : List Char) (space : NumberText.isSpace c = true) :
    ∃ refusal, readScalar (c :: rest) = .error refusal := by
  have other : ∀ d, NumberText.isSpace d = false → (d == c) = false := fun d visible =>
    beq_eq_false_iff_ne.mpr (space_ne space visible).symm
  have literal : readLiteral (c :: rest) = none := by
    rw [readLiteral, Option.map_eq_none_iff, List.find?_eq_none]
    intro entry member
    have plain : ∀ entry ∈ literals, ∃ d more, entry.1.toList = d :: more ∧ NumberText.isSpace d = false := by
      intro entry member
      simp only [literals, List.mem_cons, List.not_mem_nil, or_false] at member
      rcases member with rfl | rfl | rfl | rfl | rfl | rfl <;> exact ⟨_, _, rfl, by decide⟩
    obtain ⟨d, more, shape, visible⟩ := plain entry member
    rw [shape, List.isPrefixOf_cons_cons, other d visible]
    simp
  have digit : c.isDigit = false := by
    rw [Bool.eq_false_iff]
    intro isDigit
    simp only [Char.isDigit, Bool.and_eq_true, decide_eq_true_eq] at isDigit
    have low : (48 : ℕ) ≤ c.toNat := isDigit.1
    have high : c.toNat ≤ 57 := isDigit.2
    simp only [NumberText.isSpace, Bool.or_eq_true, Bool.and_eq_true, decide_eq_true_eq] at space
    omega
  have number : readNumber (c :: rest) = none := by
    have minus : c ≠ '-' := space_ne space (by decide)
    have zero : c ≠ '0' := space_ne space (by decide)
    simp [readNumber, numberParts, minus, zero, digitsOf, digit]
  exact ⟨.malformed, by rw [readScalar, literal, number]; rfl⟩

omit s in
theorem readString_long {u rest : List Char} {fuel : ℕ} (plain : ∀ c ∈ u, IsPlain c) (enough : u.length ≤ fuel) :
    readString fuel (u ++ '"' :: rest) = some (u, rest) := by
  induction u generalizing fuel with
  | nil => exact readString_quote _ _
  | cons c u ih =>
    obtain ⟨quote, escape, visible⟩ := plain c List.mem_cons_self
    obtain ⟨fuel, rfl⟩ := Nat.exists_eq_succ_of_ne_zero (show fuel ≠ 0 by simp at enough; omega)
    rw [List.cons_append, readString_succ fuel _ quote, readStringChar_plain _ escape visible, Option.bind_some,
      ih (fun d member => plain d (List.mem_cons_of_mem _ member)) (by simpa using enough)]
    rfl

/-- The value after the colon. -/
theorem read_quoted {fuel : ℕ} {old rest : List Char} {value : Value} (revision : Revision old)
    (read : readValue fuel (skipSpace (s.space ++ s.quoted old)) = .ok (value, rest)) :
    value = .str (String.ofList old) ∧ rest = s.back
      ∧ ∀ u, Revision u → readValue fuel (skipSpace (s.space ++ s.quoted u)) = .ok (.str (String.ofList u), s.back)
        ∧ (skipSpace (s.space ++ s.quoted u)).length = s.back.length + 42 := by
  have shape : ∀ u, skipSpace (s.space ++ s.quoted u) = skipSpace s.space ++ s.quoted u := fun u =>
    skipSpace_front _ _ (by decide)
  rw [shape] at read
  cases fuel with
  | zero => simp [readValue] at read
  | succ fuel =>
    cases space : skipSpace s.space with
    | nil =>
      rw [space, List.nil_append, Site.quoted] at read
      obtain ⟨text, shown, rfl⟩ := readValue_string.mp read
      obtain ⟨rfl, rfl, same⟩ := readString_plain revision.plain shown
      refine ⟨rfl, rfl, fun u other => ?_⟩
      rw [shape, space, List.nil_append]
      refine ⟨readValue_string.mpr ⟨u, ?_, rfl⟩, ?_⟩
      · exact readString_long other.plain (by rw [List.length_append]; exact Nat.le_add_right _ _)
      · simp only [Site.quoted, List.length_cons, List.length_append, other.1]
        omega
    | cons c more =>
      have isSpace := s.spaceSpaces c (skip_mem space)
      rw [space, List.cons_append, readValue_scalar] at read
      · obtain ⟨refusal, failed⟩ := readScalar_space (more ++ s.quoted old) isSpace
        rw [failed] at read
        cases read
      all_goals exact fun rest same => space_ne isSpace (by decide) (List.cons.inj same).1

end Sites

/-! ## What a reader makes of the two texts -/

section Edits
variable (s : Site) (old : List Char)

/-- A value read before the place, one that nothing goes on from, or one with the place in it. -/
def ValueEdit (fuel : ℕ) (front : List Char) (value : Value) (rest : List Char) : Prop :=
  (∃ left, rest = s.text left old
      ∧ ∀ u, Revision u → readValue fuel (s.text front u) = .ok (value, s.text left u))
    ∨ Stuck rest
    ∨ ∃ edit : List Char → Value, value = edit old ∧ rest.length ≤ s.back.length ∧ (∀ u t, edit u ≠ .str t)
      ∧ ∀ u, Revision u → readValue fuel (s.text front u) = .ok (edit u, rest)

def ItemsEdit (fuel : ℕ) (front : List Char) (items : List Value) (rest : List Char) : Prop :=
  (∃ left, rest = s.text left old
      ∧ ∀ u, Revision u → readItems fuel (s.text front u) = .ok (items, s.text left u))
    ∨ ∃ edit : List Char → List Value, items = edit old ∧ rest.length ≤ s.back.length
      ∧ ∀ u, Revision u → readItems fuel (s.text front u) = .ok (edit u, rest)

/-- The place is a member's value, or is inside one that is no string. -/
structure Hole (places : List (String × ℕ)) (key : String) (inner : List Char → Value) : Prop where
  shape : (∀ u, inner u = .str (String.ofList u)) ∨ ∀ u t, inner u ≠ .str t
  place : ∀ name, (name, s.back.length + 42) ∈ places ↔ name = key ∧ ∀ u, inner u = .str (String.ofList u)
  named : (∀ u, inner u = .str (String.ofList u)) → s.name <:+ key.toList

def MembersEdit (fuel : ℕ) (front : List Char) (members : List (String × Value)) (rest : List Char) : Prop :=
  (∃ left, rest = s.text left old
      ∧ ∀ u, Revision u → readMembers fuel (s.text front u) = .ok (members, s.text left u))
    ∨ ∃ lead key inner trail, members = lead ++ (key, inner old) :: trail ∧ rest.length ≤ s.back.length
      ∧ Hole s (memberPlaces fuel (s.text front old)) key inner
      ∧ ∀ u, Revision u → readMembers fuel (s.text front u) = .ok (lead ++ (key, inner u) :: trail, rest)
        ∧ memberPlaces fuel (s.text front u) = memberPlaces fuel (s.text front old)

variable {s old}

/-- A string in front of the place, or over its first quotation mark or its name. -/
theorem string_edit (revision : Revision old) {front text rest : List Char}
    (read : readString (front ++ '"' :: s.body old).length (front ++ '"' :: s.body old) = some (text, rest)) :
    (∃ left, rest = s.text left old ∧ ∀ u, Revision u →
        readString (front ++ '"' :: s.body u).length (front ++ '"' :: s.body u) = some (text, s.text left u))
      ∨ rest = s.body old
      ∨ rest = s.afterName old ∧ s.name <:+ text ∧ ∀ u, Revision u →
        readString (front ++ '"' :: s.body u).length (front ++ '"' :: s.body u) = some (text, s.afterName u) := by
  have size : ∀ u, Revision u → (front ++ '"' :: s.body u).length = (front ++ '"' :: s.body old).length := by
    intro u other
    rw [List.length_append, List.length_append, List.length_cons, List.length_cons, s.body_length other revision]
  rcases readString_front read with ⟨left, shape, same⟩ | ⟨shape, -⟩ | ⟨fuel, first, more, shape, inner, same⟩
  · exact .inl ⟨left, shape, fun u other => by rw [size u other]; exact same _⟩
  · exact .inr (.inl shape)
  · obtain ⟨rfl, rfl, alike⟩ := readString_plain s.plain inner
    refine .inr (.inr ⟨rfl, ⟨first ++ ['"'], by rw [shape, List.append_assoc]; rfl⟩, fun u other => ?_⟩)
    rw [size u other, shape]
    exact same _ _ _ (alike _)

theorem readScalar_front (front rest : List Char) :
    readScalar (front ++ '"' :: rest) = (readScalar front).map fun read => (read.1, read.2 ++ '"' :: rest) := by
  have plain : ∀ literal ∈ plainLiterals, '"' ∉ literal.toList := by decide
  have same : (plainLiterals.any fun literal => literal.toList.isPrefixOf (front ++ '"' :: rest))
      = plainLiterals.any fun literal => literal.toList.isPrefixOf front := by
    rw [Bool.eq_iff_iff, List.any_eq_true, List.any_eq_true]
    refine exists_congr fun literal => and_congr_right fun member => ?_
    rw [isPrefixOf_front (plain literal member)]
  rw [readScalar, readScalar, same, readLiteral_front, readNumber_front]
  cases readLiteral front with
  | some read =>
    dsimp only [Option.map_some]
    split <;> rfl
  | none =>
    dsimp only [Option.map_none]
    cases readNumber front <;> rfl

theorem readMembers_quote {fuel : ℕ} {cs rest : List Char} {members : List (String × Value)}
    (read : readMembers fuel cs = .ok (members, rest)) : ∃ more, cs = '"' :: more := by
  cases fuel with
  | zero => simp [readMembers] at read
  | succ fuel =>
    obtain ⟨more, -, -, -, -, -, shape, -⟩ := readMembers_ok.mp read
    exact ⟨more, shape⟩

theorem text_ne {front u w : List Char} {c : Char} (quote : c ≠ '"') (other : ∀ more, s.text front u ≠ c :: more) :
    ∀ more, s.text front w ≠ c :: more := by
  intro more shape
  obtain ⟨left, rfl, -⟩ := s.text_cons shape quote
  exact other _ rfl

section Step
variable {fuel : ℕ} {front rest : List Char}

theorem object_edit {value : Value}
    (members : ∀ front members rest, readMembers fuel (s.text front old) = .ok (members, rest) →
      MembersEdit s old fuel front members rest)
    (read : readValue (fuel + 1) ('{' :: s.text front old) = .ok (value, rest)) :
    ValueEdit s old (fuel + 1) ('{' :: front) value rest := by
  rcases readValue_object.mp read with ⟨closed, rfl⟩ | ⟨-, found, inner, distinct, rfl⟩
  · rw [s.skip_text] at closed
    obtain ⟨left, shape, rfl⟩ := s.text_cons closed (by decide)
    refine .inl ⟨left, rfl, fun u other => readValue_object.mpr (.inl ⟨?_, rfl⟩)⟩
    change skipSpace (s.text front u) = _
    rw [s.skip_text, shape]
    rfl
  · rw [s.skip_text] at inner
    have reads : ∀ u members' rest', readMembers fuel (s.text (skipSpace front) u) = .ok (members', rest') →
        (members'.map Prod.fst).Nodup →
        readValue (fuel + 1) (s.text ('{' :: front) u) = .ok (.dict (Dict.empty.setAll members'), rest') := by
      intro u members' rest' inner' distinct'
      have opened : skipSpace (s.text front u) = s.text (skipSpace front) u := s.skip_text front u
      refine readValue_object.mpr (.inr ⟨fun more closed => ?_, members', ?_, distinct', rfl⟩)
      · change skipSpace (s.text front u) = _ at closed
        obtain ⟨more', shape⟩ := readMembers_quote inner'
        rw [opened, shape] at closed
        exact absurd (List.cons.inj closed).1 (by decide)
      · change readMembers fuel (skipSpace (s.text front u)) = _
        rw [opened, inner']
    rcases members _ _ _ inner with ⟨left, rfl, same⟩ | ⟨lead, key, edit, trail, rfl, short, -, same⟩
    · exact .inl ⟨left, rfl, fun u other => reads u _ _ (same u other) distinct⟩
    · refine .inr (.inr ⟨fun u => .dict (Dict.empty.setAll (lead ++ (key, edit u) :: trail)), rfl, short,
        fun u t => Value.noConfusion, fun u other => reads u _ _ (same u other).1 ?_⟩)
      rw [List.map_append, List.map_cons] at distinct ⊢
      exact distinct

theorem array_edit {value : Value}
    (items : ∀ front items rest, readItems fuel (s.text front old) = .ok (items, rest) →
      ItemsEdit s old fuel front items rest)
    (read : readValue (fuel + 1) ('[' :: s.text front old) = .ok (value, rest)) :
    ValueEdit s old (fuel + 1) ('[' :: front) value rest := by
  rcases readValue_array.mp read with ⟨closed, rfl⟩ | ⟨opened, found, inner, rfl⟩
  · rw [s.skip_text] at closed
    obtain ⟨left, shape, rfl⟩ := s.text_cons closed (by decide)
    refine .inl ⟨left, rfl, fun u other => readValue_array.mpr (.inl ⟨?_, rfl⟩)⟩
    change skipSpace (s.text front u) = _
    rw [s.skip_text, shape]
    rfl
  · rw [s.skip_text] at inner
    simp only [s.skip_text] at opened
    have reads : ∀ u items' rest', readItems fuel (s.text (skipSpace front) u) = .ok (items', rest') →
        readValue (fuel + 1) (s.text ('[' :: front) u) = .ok (.list items', rest') := by
      intro u items' rest' inner'
      refine readValue_array.mpr (.inr ⟨fun more closed => ?_, items', ?_, rfl⟩)
      · change skipSpace (s.text front u) = _ at closed
        rw [s.skip_text] at closed
        exact text_ne (by decide) opened more closed
      · change readItems fuel (skipSpace (s.text front u)) = _
        rw [s.skip_text, inner']
    rcases items _ _ _ inner with ⟨left, rfl, same⟩ | ⟨edit, rfl, short, same⟩
    · exact .inl ⟨left, rfl, fun u other => reads u _ _ (same u other)⟩
    · exact .inr (.inr ⟨fun u => .list (edit u), rfl, short, fun u t => Value.noConfusion,
        fun u other => reads u _ _ (same u other)⟩)

/-- A value, from what is known of its members and items. -/
theorem value_edit (revision : Revision old) {value : Value}
    (members : ∀ front members rest, readMembers fuel (s.text front old) = .ok (members, rest) →
      MembersEdit s old fuel front members rest)
    (items : ∀ front items rest, readItems fuel (s.text front old) = .ok (items, rest) →
      ItemsEdit s old fuel front items rest)
    (read : readValue (fuel + 1) (s.text front old) = .ok (value, rest)) :
    ValueEdit s old (fuel + 1) front value rest := by
  match front with
  | [] =>
    obtain ⟨text, shown, rfl⟩ := readValue_string.mp read
    obtain ⟨-, rfl, -⟩ := readString_plain s.plain shown
    exact .inr (.inl (stuck_afterName s old))
  | c :: front =>
    by_cases quote : c = '"'
    · subst quote
      obtain ⟨text, shown, rfl⟩ := readValue_string.mp read
      rcases string_edit revision shown with ⟨left, rfl, same⟩ | rfl | ⟨rfl, -⟩
      · exact .inl ⟨left, rfl, fun u other => readValue_string.mpr ⟨text, same u other, rfl⟩⟩
      · exact .inr (.inl (stuck_body s old))
      · exact .inr (.inl (stuck_afterName s old))
    · by_cases brace : c = '{'
      · subst brace
        exact object_edit members read
      · by_cases bracket : c = '['
        · subst bracket
          exact array_edit items read
        · have scalar : ∀ u, readValue (fuel + 1) (s.text (c :: front) u)
              = (readScalar (c :: front)).map fun read => (read.1, s.text read.2 u) := by
            intro u
            rw [readValue_scalar]
            · exact readScalar_front (c :: front) (s.body u)
            · exact fun more shape => quote (List.cons.inj shape).1
            · exact fun more shape => brace (List.cons.inj shape).1
            · exact fun more shape => bracket (List.cons.inj shape).1
          rw [scalar] at read
          cases found : readScalar (c :: front) with
          | error refusal =>
            rw [found] at read
            cases read
          | ok pair =>
            rw [found] at read
            obtain ⟨rfl, rfl⟩ := Prod.mk.inj (Except.ok.inj read)
            exact .inl ⟨pair.2, rfl, fun u _ => by rw [scalar, found]; rfl⟩

/-- The items of an array, from what is known of values and of fewer items. -/
theorem items_edit {items : List Value}
    (values : ∀ front value rest, readValue fuel (s.text front old) = .ok (value, rest) →
      ValueEdit s old fuel front value rest)
    (others : ∀ front items rest, readItems fuel (s.text front old) = .ok (items, rest) →
      ItemsEdit s old fuel front items rest)
    (read : readItems (fuel + 1) (s.text front old) = .ok (items, rest)) :
    ItemsEdit s old (fuel + 1) front items rest := by
  obtain ⟨value, afterValue, valued, ends⟩ := readItems_ok.mp read
  rcases values _ _ _ valued with ⟨left, rfl, same⟩ | stuck | ⟨edit, rfl, short, -, same⟩
  · rcases ends with ⟨closed, rfl⟩ | ⟨more, found, comma, next, rfl⟩
    · rw [s.skip_text] at closed
      obtain ⟨left', shape, rfl⟩ := s.text_cons closed (by decide)
      refine .inl ⟨left', rfl, fun u other => readItems_ok.mpr ⟨value, _, same u other, .inl ⟨?_, rfl⟩⟩⟩
      rw [s.skip_text, shape]
      rfl
    · rw [s.skip_text] at comma
      obtain ⟨left', shape, rfl⟩ := s.text_cons comma (by decide)
      rw [s.skip_text] at next
      have goesOn : ∀ u found' rest', Revision u → readItems fuel (s.text (skipSpace left') u) = .ok (found', rest') →
          readItems (fuel + 1) (s.text front u) = .ok (value :: found', rest') := by
        intro u found' rest' other inner
        refine readItems_ok.mpr ⟨value, _, same u other, .inr ⟨s.text left' u, found', ?_, ?_, rfl⟩⟩
        · rw [s.skip_text, shape]
          rfl
        · rw [s.skip_text, inner]
      rcases others _ _ _ next with ⟨left'', rfl, alike⟩ | ⟨edit, rfl, short, alike⟩
      · exact .inl ⟨left'', rfl, fun u other => goesOn u _ _ other (alike u other)⟩
      · exact .inr ⟨fun u => value :: edit u, rfl, short, fun u other => goesOn u _ _ other (alike u other)⟩
  · rcases ends with ⟨closed, -⟩ | ⟨more, found, comma, -⟩
    · exact absurd closed (stuck.ne (by decide))
    · exact absurd comma (stuck.ne (by decide))
  · have skipped := skipSpace_length afterValue
    rcases ends with ⟨closed, rfl⟩ | ⟨more, found, comma, next, rfl⟩
    · rw [closed, List.length_cons] at skipped
      exact .inr ⟨fun u => [edit u], rfl, by omega,
        fun u other => readItems_ok.mpr ⟨edit u, _, same u other, .inl ⟨closed, rfl⟩⟩⟩
    · have past := (read_length fuel).2.2 _ _ _ next
      have toNext := skipSpace_length more
      rw [comma, List.length_cons] at skipped
      exact .inr ⟨fun u => edit u :: found, rfl, by omega,
        fun u other => readItems_ok.mpr ⟨edit u, _, same u other, .inr ⟨more, found, comma, next, rfl⟩⟩⟩

/-- The first member's value is the place. -/
theorem members_here (revision : Revision old) {members : List (String × Value)} {key : List Char}
    (suffix : s.name <:+ key) {start : List Char → List Char} (shapes : ∀ u, s.text front u = '"' :: start u)
    (named : ∀ u, Revision u → readString (start u).length (start u) = some (key, s.afterName u))
    (read : readMembers (fuel + 1) (s.text front old) = .ok (members, rest)) :
    MembersEdit s old (fuel + 1) front members rest := by
  obtain ⟨after, key', afterKey, afterColon, value, afterValue, shape, keyed, colon, valued, ends⟩ :=
    readMembers_ok.mp read
  rw [shapes] at shape
  obtain rfl : start old = after := (List.cons.inj shape).2
  rw [named old revision] at keyed
  obtain ⟨rfl, rfl⟩ := Prod.mk.inj (Option.some.inj keyed)
  obtain ⟨rfl, colons⟩ := colon_afterName s colon
  obtain ⟨rfl, rfl, alike⟩ := read_quoted s revision valued
  have skipped := skipSpace_length s.back
  refine .inr ⟨[], String.ofList key, fun u => .str (String.ofList u), ?_⟩
  rcases ends with ⟨closed, rfl⟩ | ⟨more, found, comma, next, rfl⟩
  · rw [closed, List.length_cons] at skipped
    have places : ∀ u, Revision u → memberPlaces (fuel + 1) (s.text front u)
        = [(String.ofList key, s.back.length + 42)] := by
      intro u other
      rw [shapes, memberPlaces_last (named u other) (colons u) (alike u other).1 closed, (alike u other).2]
    refine ⟨[], rfl, by omega, ⟨.inl fun _ => rfl, fun name => ?_, fun _ => ?_⟩, fun u other => ⟨?_, ?_⟩⟩
    · simp [places old revision]
    · rwa [String.toList_ofList]
    · rw [shapes]
      exact readMembers_ok.mpr ⟨start u, key, _, _, _, _, rfl, named u other, colons u, (alike u other).1,
        .inl ⟨closed, rfl⟩⟩
    · rw [places u other, places old revision]
  · have past := (read_length fuel).2.1 _ _ _ next
    have toNext := skipSpace_length more
    rw [comma, List.length_cons] at skipped
    have places : ∀ u, Revision u → memberPlaces (fuel + 1) (s.text front u)
        = (String.ofList key, s.back.length + 42) :: memberPlaces fuel (skipSpace more) := by
      intro u other
      rw [shapes, memberPlaces_next (named u other) (colons u) (alike u other).1 comma, (alike u other).2]
    refine ⟨found, rfl, by omega, ⟨.inl fun _ => rfl, fun name => ?_, fun _ => ?_⟩, fun u other => ⟨?_, ?_⟩⟩
    · have later : (name, s.back.length + 42) ∉ memberPlaces fuel (skipSpace more) := by
        intro listed
        have bound := (memberPlaces_le next).2 _ listed
        dsimp only at bound
        omega
      simp [places old revision, later]
    · rwa [String.toList_ofList]
    · rw [shapes]
      exact readMembers_ok.mpr ⟨start u, key, _, _, _, _, rfl, named u other, colons u, (alike u other).1,
        .inr ⟨more, found, comma, next, rfl⟩⟩
    · rw [places u other, places old revision]

/-- The first member's name is in front of the place. -/
theorem members_beyond (revision : Revision old) {members : List (String × Value)} {key left : List Char}
    {start : List Char → List Char} (shapes : ∀ u, s.text front u = '"' :: start u)
    (named : ∀ u, Revision u → readString (start u).length (start u) = some (key, s.text left u))
    (values : ∀ front value rest, readValue fuel (s.text front old) = .ok (value, rest) →
      ValueEdit s old fuel front value rest)
    (others : ∀ front members rest, readMembers fuel (s.text front old) = .ok (members, rest) →
      MembersEdit s old fuel front members rest)
    (read : readMembers (fuel + 1) (s.text front old) = .ok (members, rest)) :
    MembersEdit s old (fuel + 1) front members rest := by
  obtain ⟨after, key', afterKey, afterColon, value, afterValue, shape, keyed, colon, valued, ends⟩ :=
    readMembers_ok.mp read
  rw [shapes] at shape
  obtain rfl : start old = after := (List.cons.inj shape).2
  rw [named old revision] at keyed
  obtain ⟨rfl, rfl⟩ := Prod.mk.inj (Option.some.inj keyed)
  rw [s.skip_text] at colon
  obtain ⟨left', colonShape, rfl⟩ := s.text_cons colon (by decide)
  rw [s.skip_text] at valued
  have colons : ∀ u, skipSpace (s.text left u) = ':' :: s.text left' u := by
    intro u
    rw [s.skip_text, colonShape]
    rfl
  have far : ∀ u, Revision u → (skipSpace (s.text left' u)).length = (skipSpace (s.text left' old)).length
      ∧ s.back.length + 42 < (skipSpace (s.text left' old)).length := by
    intro u other
    rw [s.skip_text, s.skip_text]
    refine ⟨?_, s.text_length _ revision⟩
    rw [Site.text, Site.text, List.length_append, List.length_append, List.length_cons, List.length_cons,
      s.body_length other revision]
  have notHere : ∀ name, (name, s.back.length + 42) ≠ (String.ofList key, (skipSpace (s.text left' old)).length) := by
    intro name same
    have bound := (far old revision).2
    rw [← (Prod.mk.inj same).2] at bound
    exact lt_irrefl _ bound
  rcases values _ _ _ valued with ⟨left'', rfl, same⟩ | stuck | ⟨edit, rfl, short, never, same⟩
  · rcases ends with ⟨closed, rfl⟩ | ⟨more, found, comma, next, rfl⟩
    · rw [s.skip_text] at closed
      obtain ⟨last, lastShape, rfl⟩ := s.text_cons closed (by decide)
      refine .inl ⟨last, rfl, fun u other => ?_⟩
      rw [shapes]
      refine readMembers_ok.mpr ⟨start u, key, _, _, value, s.text left'' u, rfl, named u other, colons u, ?_,
        .inl ⟨?_, rfl⟩⟩
      · rw [s.skip_text, same u other]
      · rw [s.skip_text, lastShape]
        rfl
    · rw [s.skip_text] at comma
      obtain ⟨last, lastShape, rfl⟩ := s.text_cons comma (by decide)
      rw [s.skip_text] at next
      have commas : ∀ u, skipSpace (s.text left'' u) = ',' :: s.text last u := by
        intro u
        rw [s.skip_text, lastShape]
        rfl
      have valueds : ∀ u, Revision u →
          readValue fuel (skipSpace (s.text left' u)) = .ok (value, s.text left'' u) := by
        intro u other
        rw [s.skip_text, same u other]
      have goesOn : ∀ u found' rest', Revision u →
          readMembers fuel (s.text (skipSpace last) u) = .ok (found', rest') →
          readMembers (fuel + 1) (s.text front u) = .ok ((String.ofList key, value) :: found', rest') := by
        intro u found' rest' other inner
        rw [shapes]
        exact readMembers_ok.mpr ⟨start u, key, _, _, value, _, rfl, named u other, colons u, valueds u other,
          .inr ⟨_, found', commas u, by rw [s.skip_text, inner], rfl⟩⟩
      have places : ∀ u, Revision u → memberPlaces (fuel + 1) (s.text front u)
          = (String.ofList key, (skipSpace (s.text left' old)).length)
            :: memberPlaces fuel (s.text (skipSpace last) u) := by
        intro u other
        rw [shapes, memberPlaces_next (named u other) (colons u) (valueds u other) (commas u), (far u other).1,
          s.skip_text last]
      rcases others _ _ _ next with ⟨last', rfl, alike⟩ | ⟨lead, inside, inner, trail, rfl, short, hole, alike⟩
      · exact .inl ⟨last', rfl, fun u other => goesOn u _ _ other (alike u other)⟩
      · refine .inr ⟨(String.ofList key, value) :: lead, inside, inner, trail, rfl, short,
          ⟨hole.shape, fun name => ?_, hole.named⟩, fun u other => ⟨goesOn u _ _ other (alike u other).1, ?_⟩⟩
        · rw [places old revision, List.mem_cons, ← hole.place name]
          exact or_iff_right (notHere name)
        · rw [places u other, places old revision, (alike u other).2]
  · rcases ends with ⟨closed, -⟩ | ⟨more, found, comma, -⟩
    · exact absurd closed (stuck.ne (by decide))
    · exact absurd comma (stuck.ne (by decide))
  · have skipped := skipSpace_length afterValue
    have valueds : ∀ u, Revision u → readValue fuel (skipSpace (s.text left' u)) = .ok (edit u, afterValue) := by
      intro u other
      rw [s.skip_text, same u other]
    have noString : ∀ name, ¬(name = String.ofList key ∧ ∀ u, edit u = .str (String.ofList u)) :=
      fun name found => never [] _ (found.2 [])
    rcases ends with ⟨closed, rfl⟩ | ⟨more, found, comma, next, rfl⟩
    · rw [closed, List.length_cons] at skipped
      have places : ∀ u, Revision u → memberPlaces (fuel + 1) (s.text front u)
          = [(String.ofList key, (skipSpace (s.text left' old)).length)] := by
        intro u other
        rw [shapes, memberPlaces_last (named u other) (colons u) (valueds u other) closed, (far u other).1]
      refine .inr ⟨[], String.ofList key, edit, [], rfl, by omega,
        ⟨.inr never, fun name => ?_, fun found => absurd (found []) (never [] _)⟩,
        fun u other => ⟨?_, by rw [places u other, places old revision]⟩⟩
      · rw [places old revision, List.mem_singleton]
        exact iff_of_false (notHere name) (noString name)
      · rw [shapes]
        exact readMembers_ok.mpr ⟨start u, key, _, _, _, _, rfl, named u other, colons u, valueds u other,
          .inl ⟨closed, rfl⟩⟩
    · have past := (read_length fuel).2.1 _ _ _ next
      have toNext := skipSpace_length more
      rw [comma, List.length_cons] at skipped
      have places : ∀ u, Revision u → memberPlaces (fuel + 1) (s.text front u)
          = (String.ofList key, (skipSpace (s.text left' old)).length) :: memberPlaces fuel (skipSpace more) := by
        intro u other
        rw [shapes, memberPlaces_next (named u other) (colons u) (valueds u other) comma, (far u other).1]
      refine .inr ⟨[], String.ofList key, edit, found, rfl, by omega,
        ⟨.inr never, fun name => ?_, fun found => absurd (found []) (never [] _)⟩,
        fun u other => ⟨?_, by rw [places u other, places old revision]⟩⟩
      · rw [places old revision, List.mem_cons]
        refine iff_of_false (not_or.mpr ⟨notHere name, fun listed => ?_⟩) (noString name)
        have bound := (memberPlaces_le next).2 _ listed
        dsimp only at bound
        omega
      · rw [shapes]
        exact readMembers_ok.mpr ⟨start u, key, _, _, _, _, rfl, named u other, colons u, valueds u other,
          .inr ⟨more, found, comma, next, rfl⟩⟩

/-- The members of an object: the place is in one of them, or all of them stand in front of it. -/
theorem members_edit (revision : Revision old) {members : List (String × Value)}
    (values : ∀ front value rest, readValue fuel (s.text front old) = .ok (value, rest) →
      ValueEdit s old fuel front value rest)
    (others : ∀ front members rest, readMembers fuel (s.text front old) = .ok (members, rest) →
      MembersEdit s old fuel front members rest)
    (read : readMembers (fuel + 1) (s.text front old) = .ok (members, rest)) :
    MembersEdit s old (fuel + 1) front members rest := by
  obtain ⟨after, key, afterKey, afterColon, value, afterValue, shape, named, colon, -⟩ := readMembers_ok.mp read
  match front with
  | [] =>
    obtain rfl : s.body old = after := (List.cons.inj shape).2
    obtain ⟨rfl, -, -⟩ := readString_plain s.plain named
    refine members_here revision (List.suffix_refl _) (fun _ => rfl) (fun u other => ?_) read
    exact readString_long s.plain (by rw [Site.body, List.length_append]; exact Nat.le_add_right _ _)
  | c :: front =>
    obtain ⟨rfl, rfl⟩ := List.cons.inj shape
    rcases string_edit revision named with ⟨left, rfl, same⟩ | rfl | ⟨rfl, suffix, same⟩
    · exact members_beyond revision (fun _ => rfl) same values others read
    · obtain ⟨d, tail, skipped, notEnd⟩ := skip_body s old
      rw [skipped] at colon
      exact absurd ((List.cons.inj colon).1 ▸ List.mem_cons_self) notEnd
    · exact members_here revision suffix (fun _ => rfl) same read

/-- The induction over the fuel, for the three readers at once. -/
theorem read_edit (revision : Revision old) (fuel : ℕ) :
    (∀ front value rest, readValue fuel (s.text front old) = .ok (value, rest) → ValueEdit s old fuel front value rest)
      ∧ (∀ front members rest, readMembers fuel (s.text front old) = .ok (members, rest) →
        MembersEdit s old fuel front members rest)
      ∧ ∀ front items rest, readItems fuel (s.text front old) = .ok (items, rest) →
        ItemsEdit s old fuel front items rest := by
  induction fuel with
  | zero =>
    refine ⟨fun front value rest read => ?_, fun front found rest read => ?_, fun front found rest read => ?_⟩
    · simp [readValue] at read
    · simp [readMembers] at read
    · simp [readItems] at read
  | succ fuel ih =>
    obtain ⟨values, members, items⟩ := ih
    exact ⟨fun _ _ _ read => value_edit revision members items read,
      fun _ _ _ read => members_edit revision values members read,
      fun _ _ _ read => items_edit values items read⟩

end Step

/-! ## The whole text -/

theorem readScalar_not_dict {cs rest : List Char} {d : Document} : readScalar cs ≠ .ok (.dict d, rest) := by
  intro read
  unfold readScalar at read
  split at read
  · rename_i found literal
    split at read
    · obtain rfl := Except.ok.inj read
      obtain ⟨entry, listed, pair⟩ := Option.map_eq_some_iff.mp literal
      have member := List.mem_of_find?_eq_some listed
      simp only [literals, List.mem_cons, List.not_mem_nil, or_false] at member
      rcases member with rfl | rfl | rfl | rfl | rfl | rfl <;> cases (Prod.mk.inj pair).1
    · cases read
  · have number := found_ok.mp read
    unfold readNumber at number
    obtain ⟨⟨integer, frac, exponent⟩, -, number⟩ := Option.bind_eq_some_iff.mp number
    dsimp only at number
    split at number
    · split at number
      · cases number
      · cases (Prod.mk.inj (Option.some.inj number)).1
    · split at number
      · cases (Prod.mk.inj (Option.some.inj number)).1
      · cases number

theorem strictJsonObject_ok {text : List Char} {payload : Document} :
    strictJsonObject (.utf8 text) = .ok payload
      ↔ ∃ rest, readValue (text.length + 1) (skipSpace text) = .ok (.dict payload, rest) ∧ skipSpace rest = [] := by
  rw [strictJsonObject, loads]
  cases read : readValue (text.length + 1) (skipSpace text) with
  | error refusal => cases refusal <;> simp [bind, Except.bind]
  | ok pair =>
    obtain ⟨value, rest⟩ := pair
    cases left : (skipSpace rest).isEmpty with
    | false =>
      have nonempty : skipSpace rest ≠ [] := fun empty => by simp [empty] at left
      simp [bind, Except.bind, require, left]
      exact fun _ => nonempty
    | true =>
      have empty := List.isEmpty_iff.mp left
      cases value <;> simp [bind, Except.bind, pure, Except.pure, require, empty, asMapping]

end Edits

/-- The keys of the top-level object, each with the length of the text from its value on. -/
def topPlaces (text : List Char) : List (String × ℕ) :=
  match skipSpace text with
  | '{' :: rest => memberPlaces text.length (skipSpace rest)
  | _ => []

section Whole
variable {s : Site} {old : List Char}

/-- A text that is read as an object holds the place in one of the members. -/
theorem payload_edit (revision : Revision old) {front : List Char} {payload : Document}
    (read : strictJsonObject (.utf8 (s.text front old)) = .ok payload) :
    ∃ lead key inner trail, payload = ⟨lead ++ (key, inner old) :: trail⟩
      ∧ ((lead ++ (key, inner old) :: trail).map Prod.fst).Nodup
      ∧ Hole s (topPlaces (s.text front old)) key inner
      ∧ ∀ u, Revision u → strictJsonObject (.utf8 (s.text front u)) = .ok ⟨lead ++ (key, inner u) :: trail⟩
        ∧ topPlaces (s.text front u) = topPlaces (s.text front old) := by
  obtain ⟨rest, read, done⟩ := strictJsonObject_ok.mp read
  have size : ∀ u, Revision u → (s.text front u).length = (s.text front old).length := by
    intro u other
    rw [Site.text, Site.text, List.length_append, List.length_append, List.length_cons, List.length_cons,
      s.body_length other revision]
  rw [s.skip_text] at read
  have notBefore : ∀ left, rest ≠ s.text left old := by
    rintro left rfl
    rw [s.skip_text] at done
    simp [Site.text] at done
  cases shape : skipSpace front with
  | nil =>
    rw [shape] at read
    obtain ⟨text, -, value⟩ := readValue_string.mp read
    cases value
  | cons c left =>
    rw [shape] at read
    by_cases brace : c = '{'
    · subst brace
      have opened : ∀ u, skipSpace (s.text front u) = '{' :: s.text left u := by
        intro u
        rw [s.skip_text, shape]
        rfl
      have places : ∀ u, Revision u → topPlaces (s.text front u)
          = memberPlaces (s.text front old).length (s.text (skipSpace left) u) := by
        intro u other
        simp only [topPlaces, opened]
        rw [s.skip_text, size u other]
      rcases readValue_object.mp read with ⟨closed, -⟩ | ⟨-, members, inner, distinct, same⟩
      · change skipSpace (s.text left old) = _ at closed
        rw [s.skip_text] at closed
        obtain ⟨left', -, rfl⟩ := s.text_cons closed (by decide)
        exact absurd rfl (notBefore left')
      · change readMembers _ (skipSpace (s.text left old)) = _ at inner
        rw [s.skip_text] at inner
        rcases (read_edit revision _).2.1 _ _ _ inner with
          ⟨left', rfl, -⟩ | ⟨lead, key, edit, trail, rfl, -, hole, alike⟩
        · exact absurd rfl (notBefore left')
        · refine ⟨lead, key, edit, trail, ?_, distinct, ?_, fun u other => ⟨?_, ?_⟩⟩
          · rw [← Dict.setAll_empty distinct]
            exact Value.dict.inj same
          · rw [places old revision]
            exact hole
          · have keys : ((lead ++ (key, edit u) :: trail).map Prod.fst).Nodup := by
              rw [List.map_append, List.map_cons] at distinct ⊢
              exact distinct
            refine strictJsonObject_ok.mpr ⟨rest, ?_, done⟩
            rw [opened, size u other, ← Dict.setAll_empty keys]
            obtain ⟨more, quote⟩ := readMembers_quote (alike u other).1
            refine readValue_object.mpr (.inr ⟨fun after closed => ?_, _, ?_, keys, rfl⟩)
            · rw [s.skip_text, quote] at closed
              exact absurd (List.cons.inj closed).1 (by decide)
            · rw [s.skip_text]
              exact (alike u other).1
          · rw [places u other, places old revision, (alike u other).2]
    · exfalso
      by_cases quote : c = '"'
      · subst quote
        obtain ⟨text, -, value⟩ := readValue_string.mp read
        cases value
      · by_cases bracket : c = '['
        · subst bracket
          rcases readValue_array.mp read with ⟨-, value⟩ | ⟨-, items, -, value⟩ <;> cases value
        · change readValue _ (c :: s.text left old) = _ at read
          rw [readValue_scalar] at read
          · exact readScalar_not_dict read
          · exact fun more same => quote (List.cons.inj same).1
          · exact fun more same => brace (List.cons.inj same).1
          · exact fun more same => bracket (List.cons.inj same).1

end Whole

end BinancePlatform.Guarantees.FieldEdit
