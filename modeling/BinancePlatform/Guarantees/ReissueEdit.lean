import BinancePlatform.Guarantees.FieldEdit
import Mathlib.Data.List.TakeWhile

/-!
# A reissue edits two fields

The pattern search of a version field against the strict reader: a match is a quoted name, a
colon and a quoted revision, and the checks after the edit leave only the member of the
top-level object for it.

* An edit replaces one revision inside one string of the text (`matchField_some`,
  `patchOneField_ok`, `oneEdit_site`).
* A patch that returns has changed the two named members and no other value
  (`patched_edits`).
* With one match of each field, a valid new revision and a readable text the patch returns
  (`patch_returns`); `reissue_edits_two_fields` states both for every byte string.

Texts with an escaped lone surrogate are left out: no character stands for one.
-/

set_option autoImplicit false

namespace BinancePlatform.Guarantees.ReissueEdit
open BinancePlatform.Library BinancePlatform.Source StrictJson FieldEdit
open JsonReader hiding readValue readMembers readItems

def versionNames : List String := ["strategy_revision", "runner_revision"]

/-! ## A match of the pattern -/

theorem drop_takeWhile (p : Char → Bool) (cs : List Char) : cs.drop (cs.takeWhile p).length = cs.dropWhile p := by
  induction cs with
  | nil => rfl
  | cons c cs ih =>
    rw [List.takeWhile_cons, List.dropWhile_cons]
    split
    · exact ih
    · rfl

theorem takeWhile_append_stop {p : Char → Bool} {front rest : List Char} {c : Char} (all : ∀ d ∈ front, p d = true)
    (stop : p c = false) : (front ++ c :: rest).takeWhile p = front := by
  induction front with
  | nil => simp [stop]
  | cons d front ih =>
    rw [List.cons_append, List.takeWhile_cons, if_pos (all d List.mem_cons_self),
      ih fun e member => all e (List.mem_cons_of_mem _ member)]

theorem eq_of_head {cs : List Char} {c : Char} (head : cs.head? = some c) : cs = c :: cs.drop 1 := by
  cases cs with
  | nil => cases head
  | cons d rest => rw [Option.some.inj head]; rfl

/-- What a match takes of a text. -/
theorem matchField_some {name : String} {cs : List Char} {found : FieldMatch} :
    matchField name cs = some found
      ↔ ∃ gap space, (∀ c ∈ gap, NumberText.isSpace c = true) ∧ (∀ c ∈ space, NumberText.isSpace c = true)
        ∧ Revision found.value
        ∧ found.opening = '"' :: name.toList ++ ['"'] ++ gap ++ ':' :: space ++ ['"']
        ∧ cs = found.opening ++ found.value ++ '"' :: found.rest := by
  constructor
  · intro read
    unfold matchField at read
    dsimp only at read
    generalize keyIs : '"' :: name.toList ++ ['"'] = key at read
    by_cases starts : key.isPrefixOf cs = true
    · obtain ⟨afterKey, rfl⟩ := List.isPrefixOf_iff_prefix.mp starts
      rw [List.drop_left] at read
      simp only [drop_takeWhile, starts, Bool.not_true, Bool.false_eq_true, if_false, Option.pure_def,
        Option.bind_eq_bind] at read
      obtain ⟨afterGap, colon, read⟩ := Option.bind_eq_some_iff.mp read
      obtain ⟨c, head, here⟩ := Option.bind_eq_some_iff.mp colon
      split at here
      · rename_i isColon
        subst isColon
        have afterGapIs : (afterKey.dropWhile NumberText.isSpace).drop 1 = afterGap := Option.some.inj here
        have split : afterKey = afterKey.takeWhile NumberText.isSpace ++ ':' :: afterGap := by
          conv_lhs => rw [← List.takeWhile_append_dropWhile (p := NumberText.isSpace) (l := afterKey), eq_of_head head]
          rw [afterGapIs]
        by_cases quote : (afterGap.dropWhile NumberText.isSpace).head? = some '"'
        · have quoted := eq_of_head quote
          generalize (afterGap.dropWhile NumberText.isSpace).drop 1 = text at quoted
          have split' : afterGap = afterGap.takeWhile NumberText.isSpace ++ '"' :: text := by
            conv_lhs => rw [← List.takeWhile_append_dropWhile (p := NumberText.isSpace) (l := afterGap), quoted]
          rw [quoted, if_neg (by simp)] at read
          simp only [List.drop_succ_cons, List.drop_zero] at read
          split at read
          · cases read
          · rename_i fits
            rw [not_or, not_or, not_not, not_not, Bool.not_eq_true, Bool.not_eq_false'] at fits
            obtain ⟨long, hex, close⟩ := fits
            obtain rfl := Option.some.inj read
            refine ⟨_, _, fun c => List.mem_takeWhile_imp, fun c => List.mem_takeWhile_imp,
              ⟨long, List.all_eq_true.mp hex⟩, rfl, ?_⟩
            have value : text = text.take 40 ++ '"' :: text.drop 41 := by
              conv_lhs => rw [← List.take_append_drop 40 text, eq_of_head close, List.drop_drop]
            conv_lhs => rw [split, split', value]
            simp
        · simp [quote] at read
      · cases here
    · simp [starts] at read
  · obtain ⟨opening, value, rest⟩ := found
    rintro ⟨gap, space, gaps, spaces, revision, rfl, rfl⟩
    dsimp only at revision ⊢
    have shape : '"' :: name.toList ++ ['"'] ++ gap ++ ':' :: space ++ ['"'] ++ value ++ '"' :: rest
        = ('"' :: name.toList ++ ['"']) ++ (gap ++ ':' :: (space ++ '"' :: (value ++ '"' :: rest))) := by
      simp
    have starts : ∀ key other : List Char, key.isPrefixOf (key ++ other) = true := fun key other =>
      List.isPrefixOf_iff_prefix.mpr (List.prefix_append _ _)
    have colon : NumberText.isSpace ':' = false := by decide
    have quote : NumberText.isSpace '"' = false := by decide
    have taken : (value ++ '"' :: rest).take 40 = value := by
      rw [← revision.1, List.take_left]
    have left : (value ++ '"' :: rest).drop 40 = '"' :: rest := by
      rw [← revision.1, List.drop_left]
    have after : (value ++ '"' :: rest).drop 41 = rest := by
      rw [show 41 = 40 + 1 from rfl, ← List.drop_drop, left, List.drop_one, List.tail_cons]
    rw [shape]
    unfold matchField
    dsimp only
    generalize '"' :: name.toList ++ ['"'] = key
    simp only [starts, List.drop_left, takeWhile_append_stop gaps colon, takeWhile_append_stop spaces quote,
      Bool.not_true, Bool.false_eq_true, if_false, Option.pure_def, Option.bind_eq_bind, List.head?_cons,
      Option.bind_some, if_true, List.drop_succ_cons, List.drop_zero, taken, left, after, revision.1,
      List.all_eq_true.mpr revision.2, ne_eq, not_true_eq_false, or_self]

theorem matchField_nil (name : String) : matchField name [] = none := by
  cases found : matchField name [] with
  | none => rfl
  | some m =>
    obtain ⟨gap, space, -, -, -, opening, shape⟩ := matchField_some.mp found
    rw [opening] at shape
    cases shape

/-- The first match that the scan finds, with the front it has skipped. -/
theorem findFields_first {name : String} {fuel : ℕ} {cs : List Char} {found : FieldMatch} {others : List FieldMatch}
    (scan : findFields name fuel cs = found :: others) :
    ∃ front here, cs = front ++ here ∧ matchField name here = some found
      ∧ ∀ target, replaceField name target cs = front ++ (found.opening ++ target ++ '"' :: found.rest) := by
  induction fuel generalizing cs with
  | zero => cases scan
  | succ fuel ih =>
    match cs with
    | [] =>
      rw [findFields, matchField_nil] at scan
      cases scan
    | c :: rest =>
      rw [findFields] at scan
      cases here : matchField name (c :: rest) with
      | some m =>
        rw [here] at scan
        obtain rfl : m = found := (List.cons.inj scan).1
        exact ⟨[], c :: rest, rfl, here, fun target => by rw [replaceField, here]; rfl⟩
      | none =>
        rw [here] at scan
        have next : findFields name fuel rest = found :: others := scan
        obtain ⟨front, last, rfl, matched, replaced⟩ := ih next
        exact ⟨c :: front, last, rfl, matched, fun target => by rw [replaceField, here, replaced]; rfl⟩

theorem plain_of_all {cs : List Char}
    (each : (cs.all fun c => c ≠ '"' && c ≠ '\\' && !decide (c.toNat < 0x20)) = true) :
    ∀ c ∈ cs, JsonReader.IsPlain c := by
  intro c member
  have shown := List.all_eq_true.mp each c member
  simpa [JsonReader.IsPlain, and_assoc] using shown

/-- The two names need no escape and start with no character that ends a value. -/
theorem version_plain {name : String} (known : name ∈ versionNames) :
    (∀ c ∈ name.toList, JsonReader.IsPlain c)
      ∧ ∃ c rest, name.toList = c :: rest ∧ JsonReader.isSpace c = false ∧ c ∉ [':', ',', '}', ']'] := by
  simp only [versionNames, List.mem_cons, List.not_mem_nil, or_false] at known
  rcases known with rfl | rfl
  · exact ⟨plain_of_all (by decide), 's', _, rfl, by decide⟩
  · exact ⟨plain_of_all (by decide), 'r', _, rfl, by decide⟩

/-- A match is a place of the field. -/
theorem site_of_match {name : String} (known : name ∈ versionNames) {cs : List Char} {found : FieldMatch}
    (here : matchField name cs = some found) :
    ∃ s : Site, s.name = name.toList ∧ s.back = found.rest ∧ Revision found.value
      ∧ (∀ front u, front ++ (found.opening ++ u ++ '"' :: found.rest) = s.text front u)
      ∧ ∀ front, front ++ cs = s.text front found.value := by
  obtain ⟨gap, space, gaps, spaces, revision, opening, rfl⟩ := matchField_some.mp here
  obtain ⟨plain, starts⟩ := version_plain known
  have text : ∀ front u, front ++ (found.opening ++ u ++ '"' :: found.rest)
      = (⟨name.toList, gap, space, found.rest, plain, starts, gaps, spaces⟩ : Site).text front u := by
    intro front u
    rw [opening]
    simp [Site.text, Site.body, Site.afterName, Site.quoted]
  exact ⟨_, rfl, rfl, revision, text, fun front => text front _⟩

/-- An edit that returns leaves the text or takes the place of the field. -/
theorem patchOneField_ok {text out : List Char} {name old target : String} (known : name ∈ versionNames)
    (patched : patchOneField text name old target = .ok out) :
    (old = target ∧ out = text)
      ∨ old ≠ target ∧ ∃ (s : Site) (front : List Char), s.name = name.toList ∧ text = s.text front old.toList
        ∧ out = s.text front target.toList := by
  unfold patchOneField at patched
  split at patched
  · rename_i same
    exact .inl ⟨same, (Except.ok.inj patched).symm⟩
  · rename_i differ
    split at patched
    · rename_i only scan
      split at patched
      · rename_i value
        obtain ⟨front, here, rfl, matched, replaced⟩ := findFields_first scan
        obtain ⟨s, named, -, -, text, whole⟩ := site_of_match known matched
        refine .inr ⟨differ, s, front, named, ?_, ?_⟩
        · rw [whole, value]
        · rw [← Except.ok.inj patched, replaced, text]
      · cases patched
    · cases patched

/-! ## One edit -/

/-- The character stands in the forty of a top-level member's value. -/
def InsideValue (text : List Char) (name : String) (i : ℕ) : Prop :=
  ∃ k, (name, k) ∈ topPlaces text ∧ text.length < i + k ∧ i + k ≤ text.length + 40

/-- The texts differ in one revision, inside the member of that name. -/
structure OneEdit (text out : List Char) (name : String) : Prop where
  length : out.length = text.length
  size : (out.map Char.utf8Size).sum = (text.map Char.utf8Size).sum
  last : out.getLast? = text.getLast?
  places : topPlaces out = topPlaces text
  inside : ∀ i, text[i]? ≠ out[i]? → InsideValue text name i

theorem OneEdit.refl (text : List Char) (name : String) : OneEdit text text name :=
  ⟨rfl, rfl, rfl, rfl, fun _ differs => absurd rfl differs⟩

/-- A revision is 40 bytes long. -/
theorem revision_size {u : List Char} (revision : Revision u) : (u.map Char.utf8Size).sum = 40 := by
  have one : ∀ n ∈ u.map Char.utf8Size, n = 1 := by
    intro n member
    obtain ⟨c, listed, rfl⟩ := List.mem_map.mp member
    have hex := revision.2 c listed
    have bounds : ('0' ≤ c ∧ c ≤ '9') ∨ ('a' ≤ c ∧ c ≤ 'f') := by simpa [lowerHex] using hex
    have ascii : c.val ≤ 0x7f := by
      rcases bounds with digit | letter
      · exact UInt32.le_trans (Char.le_def.mp digit.2) (show ('9'.val : UInt32) ≤ 0x7f by decide)
      · exact UInt32.le_trans (Char.le_def.mp letter.2) (show ('f'.val : UInt32) ≤ 0x7f by decide)
    exact if_pos ascii
  rw [List.eq_replicate_of_mem one, List.sum_replicate, List.length_map, revision.1]
  rfl

/-- Another revision in a top-level place is one edit of the text. -/
theorem oneEdit_site {s : Site} {front old target : List Char} {name : String} (revision : Revision old)
    (other : Revision target) (place : (name, s.back.length + 42) ∈ topPlaces (s.text front old))
    (places : topPlaces (s.text front target) = topPlaces (s.text front old)) :
    OneEdit (s.text front old) (s.text front target) name := by
  have shape : ∀ u, s.text front u
      = (front ++ '"' :: (s.name ++ '"' :: (s.gap ++ ':' :: (s.space ++ ['"'])))) ++ (u ++ '"' :: s.back) := by
    intro u
    simp [Site.text, Site.body, Site.afterName, Site.quoted]
  refine ⟨?_, ?_, ?_, places, fun i differs => ⟨_, place, ?_⟩⟩
  · simp only [shape, List.length_append, revision.1, other.1]
  · simp only [shape, List.map_append, List.sum_append, revision_size revision, revision_size other]
  · simp only [shape, List.getLast?_append, List.getLast?_cons]
    simp
  · simp only [shape] at differs ⊢
    generalize front ++ '"' :: (s.name ++ '"' :: (s.gap ++ ':' :: (s.space ++ ['"']))) = opening at differs ⊢
    have low : opening.length ≤ i := by
      by_contra early
      rw [List.getElem?_append_left (by omega), List.getElem?_append_left (by omega)] at differs
      exact differs rfl
    have high : i < opening.length + 40 := by
      by_contra late
      rw [List.getElem?_append_right low, List.getElem?_append_right low,
        List.getElem?_append_right (by rw [revision.1]; omega), List.getElem?_append_right (by rw [other.1]; omega),
        revision.1, other.1] at differs
      exact differs rfl
    simp only [List.length_append, List.length_cons, revision.1]
    omega

section Members
variable {lead trail : List (String × Value)} {key : String} {v w : Value}

theorem absent_lead (distinct : ((lead ++ (key, v) :: trail).map Prod.fst).Nodup) : key ∉ lead.map Prod.fst := by
  rw [List.map_append, List.map_cons, List.nodup_append] at distinct
  exact fun listed => distinct.2.2 _ listed _ List.mem_cons_self rfl

/-- The member in the place is the one of its name. -/
theorem get?_hole (distinct : ((lead ++ (key, v) :: trail).map Prod.fst).Nodup) (q : String) :
    (⟨lead ++ (key, w) :: trail⟩ : Document).get? q
      = if q = key then some w else (⟨lead ++ (key, v) :: trail⟩ : Document).get? q := by
  have absent := absent_lead distinct
  change Dict.find q (lead ++ (key, w) :: trail) = if q = key then some w else Dict.find q (lead ++ (key, v) :: trail)
  clear distinct
  induction lead with
  | nil => by_cases same : key = q <;> simp [Dict.find, same, Ne.symm]
  | cons first lead ih =>
    obtain ⟨k, x⟩ := first
    rw [List.map_cons, List.mem_cons, not_or] at absent
    rw [List.cons_append, List.cons_append, Dict.find, Dict.find, ih absent.2]
    by_cases same : k = q
    · subst same
      simp [Ne.symm absent.1]
    · simp [same]

/-- Writing the member leaves the others where they are. -/
theorem set_hole (distinct : ((lead ++ (key, v) :: trail).map Prod.fst).Nodup) :
    (⟨lead ++ (key, v) :: trail⟩ : Document).set key w = ⟨lead ++ (key, w) :: trail⟩ := by
  have absent := absent_lead distinct
  change (⟨Dict.setEntries key w (lead ++ (key, v) :: trail)⟩ : Document) = _
  clear distinct
  congr 1
  induction lead with
  | nil => simp [Dict.setEntries]
  | cons first lead ih =>
    obtain ⟨k, x⟩ := first
    rw [List.map_cons, List.mem_cons, not_or] at absent
    rw [List.cons_append, List.cons_append, Dict.setEntries, if_neg (Ne.symm absent.1), ih absent.2]

end Members

theorem pyGet_str {payload : Document} {name x : String} (held : pyGet payload name = .str x) :
    payload.get? name = some (.str x) := by
  unfold pyGet at held
  cases stored : payload.get? name with
  | none =>
    rw [stored] at held
    cases held
  | some value =>
    rw [stored] at held
    exact congrArg some held

/-- One returning edit of a text that is read: the top-level field has the target, or the edit was
elsewhere and the field is as it was. -/
theorem edit_once {text out : List Char} {name other old target x : String} {payload : Document}
    (known : name ∈ versionNames) (apart : ¬name.toList <:+ other.toList) (revision : Revision old.toList)
    (wanted : Revision target.toList) (patched : patchOneField text name old target = .ok out)
    (read : strictJsonObject (.utf8 text) = .ok payload) (held : pyGet payload name = .str old)
    (kept : pyGet payload other = .str x) :
    ∃ after, strictJsonObject (.utf8 out) = .ok after ∧ pyGet after other = .str x
      ∧ ((pyGet after name = .str old ∧ old ≠ target)
        ∨ after = payload.set name (.str target) ∧ OneEdit text out name) := by
  rcases patchOneField_ok known patched with ⟨rfl, rfl⟩ | ⟨differ, s, front, named, rfl, rfl⟩
  · exact ⟨payload, read, kept, .inr ⟨(Dict.set_of_get? (pyGet_str held)).symm, OneEdit.refl _ _⟩⟩
  · obtain ⟨lead, key, inner, trail, rfl, distinct, hole, alike⟩ := payload_edit revision read
    obtain ⟨again, places⟩ := alike _ wanted
    -- a member with the place in it that is a string is named by the pattern
    have otherKey : other ≠ key := by
      rintro rfl
      have stored := pyGet_str kept
      rw [get?_hole distinct, if_pos rfl] at stored
      rcases hole.shape with direct | never
      · exact apart (named ▸ hole.named direct)
      · exact never _ _ (Option.some.inj stored)
    have keeps : ∀ q, q ≠ key → pyGet ⟨lead ++ (key, inner target.toList) :: trail⟩ q
        = pyGet ⟨lead ++ (key, inner old.toList) :: trail⟩ q := by
      intro q notKey
      rw [pyGet, pyGet, get?_hole distinct, if_neg notKey]
    refine ⟨_, again, (keeps other otherKey).trans kept, ?_⟩
    by_cases here : name = key
    · subst here
      have stored := pyGet_str held
      rw [get?_hole distinct, if_pos rfl] at stored
      rcases hole.shape with direct | never
      · refine .inr ⟨?_, oneEdit_site revision wanted ((hole.place name).mpr ⟨rfl, direct⟩) places⟩
        rw [set_hole distinct, direct, String.ofList_toList]
      · exact absurd (Option.some.inj stored) (never _ _)
    · exact .inl ⟨(keeps name here).trans held, differ⟩

/-! ## The patch -/

/-- The pattern of a revision. -/
theorem revision_iff {x : String} : fullMatch lowerHex 40 40 x = true ↔ Revision x.toList := by
  rw [fullMatch, Bool.and_eq_true, Bool.and_eq_true, decide_eq_true_eq, decide_eq_true_eq, List.all_eq_true, Revision]
  constructor
  · rintro ⟨⟨hex, least⟩, most⟩
    exact ⟨by omega, hex⟩
  · rintro ⟨size, hex⟩
    exact ⟨⟨hex, by omega⟩, by omega⟩

/-- What `_require_sha` accepts and returns. -/
theorem requireSha_iff {value fieldName text : String} :
    requireSha value fieldName 40 = .ok text ↔ text = normalized value ∧ Revision (normalized value).toList := by
  rw [← revision_iff]
  unfold requireSha
  cases hex : fullMatch lowerHex 40 40 (normalized value) <;>
    simp [require, bind, Except.bind, pure, Except.pure, eq_comm]

/-- What is accepted of a version field. -/
theorem versionField_iff {payload : Document} {name x : String} :
    versionField payload name = .ok x ↔ pyGet payload name = .str x ∧ Revision x.toList := by
  rw [← revision_iff]
  unfold versionField
  cases held : pyGet payload name with
  | str y =>
    cases hex : fullMatch lowerHex 40 40 y with
    | false =>
      simp [require, bind, Except.bind, hex]
      rintro rfl
      simp [hex]
    | true =>
      simp [require, bind, Except.bind, pure, Except.pure, hex]
      rintro rfl
      exact hex
  | _ => simp [throw, throwThe, MonadExceptOf.throw]

theorem contains_of_field {payload : Document} {name x : String} (held : pyGet payload name = .str x) :
    payload.contains name = true := by
  rw [Dict.contains, pyGet_str held]
  rfl

/-- The stages of a patch that returns. -/
theorem patch_ok {raw newRaw : RawBytes} {targetStrategy targetRunner : String} :
    patchVersionFieldsBytes raw targetStrategy targetRunner = .ok newRaw
      ↔ Revision (normalized targetStrategy).toList ∧ Revision (normalized targetRunner).toList
        ∧ ∃ payload oldStrategy oldRunner, strictJsonObject raw = .ok payload
          ∧ (pyGet payload "strategy_revision" = .str oldStrategy ∧ Revision oldStrategy.toList)
          ∧ (pyGet payload "runner_revision" = .str oldRunner ∧ Revision oldRunner.toList)
          ∧ ((oldStrategy = normalized targetStrategy ∧ oldRunner = normalized targetRunner)
              ∧ Value.equalsDict (semanticWithoutVersions payload) (semanticWithoutVersions payload) = true
              ∧ newRaw = raw
            ∨ ¬(oldStrategy = normalized targetStrategy ∧ oldRunner = normalized targetRunner)
              ∧ ∃ text mid newText newPayload, raw = .utf8 text
                ∧ patchOneField text "strategy_revision" oldStrategy (normalized targetStrategy) = .ok mid
                ∧ patchOneField mid "runner_revision" oldRunner (normalized targetRunner) = .ok newText
                ∧ endsWithNewline text = endsWithNewline newText
                ∧ strictJsonObject (.utf8 newText) = .ok newPayload
                ∧ pyGet newPayload "strategy_revision" = .str (normalized targetStrategy)
                ∧ pyGet newPayload "runner_revision" = .str (normalized targetRunner)
                ∧ Value.equalsDict (semanticWithoutVersions newPayload) (semanticWithoutVersions payload) = true
                ∧ newRaw = .utf8 newText) := by
  constructor
  · intro patched
    obtain ⟨strategy, strategyChecked, patched⟩ := bind_ok patched
    obtain ⟨runner, runnerChecked, patched⟩ := bind_ok patched
    obtain ⟨rfl, strategyHex⟩ := requireSha_iff.mp strategyChecked
    obtain ⟨rfl, runnerHex⟩ := requireSha_iff.mp runnerChecked
    obtain ⟨payload, read, patched⟩ := bind_ok patched
    obtain ⟨-, patched⟩ := require_bind patched
    obtain ⟨-, patched⟩ := require_bind patched
    obtain ⟨oldStrategy, strategyField, patched⟩ := bind_ok patched
    obtain ⟨oldRunner, runnerField, patched⟩ := bind_ok patched
    refine ⟨strategyHex, runnerHex, payload, oldStrategy, oldRunner, read, versionField_iff.mp strategyField,
      versionField_iff.mp runnerField, ?_⟩
    split at patched
    · rename_i unchanged
      obtain ⟨again, reread, patched⟩ := bind_ok patched
      rw [read] at reread
      obtain rfl := Except.ok.inj reread
      obtain ⟨same, patched⟩ := require_bind patched
      exact .inl ⟨unchanged, same, (Except.ok.inj patched).symm⟩
    · rename_i changed
      refine .inr ⟨changed, ?_⟩
      cases raw with
      | other bytes => cases patched
      | utf8 text =>
        obtain ⟨mid, first, patched⟩ := bind_ok patched
        obtain ⟨newText, second, patched⟩ := bind_ok patched
        obtain ⟨framing, patched⟩ := require_bind patched
        obtain ⟨newPayload, reread, patched⟩ := bind_ok patched
        obtain ⟨strategySet, patched⟩ := require_bind patched
        obtain ⟨runnerSet, patched⟩ := require_bind patched
        obtain ⟨same, patched⟩ := require_bind patched
        exact ⟨text, mid, newText, newPayload, rfl, first, second, of_decide_eq_true framing, reread,
          Value.eq_str_of_isStr strategySet, Value.eq_str_of_isStr runnerSet, same, (Except.ok.inj patched).symm⟩
  · rintro ⟨strategyHex, runnerHex, payload, oldStrategy, oldRunner, read, strategyField, runnerField, ends⟩
    have hasStrategy := contains_of_field strategyField.1
    have hasRunner := contains_of_field runnerField.1
    rw [patchVersionFieldsBytes, requireSha_iff.mpr ⟨rfl, strategyHex⟩, requireSha_iff.mpr ⟨rfl, runnerHex⟩]
    simp only [bind, Except.bind, read, hasStrategy, hasRunner, require, if_true,
      versionField_iff.mpr strategyField, versionField_iff.mpr runnerField]
    rcases ends with ⟨unchanged, same, rfl⟩ | ⟨changed, text, mid, newText, newPayload, rfl, first, second, framing,
      reread, strategySet, runnerSet, same, rfl⟩
    · rw [if_pos unchanged]
      simp only [same, if_true]
      rfl
    · rw [if_neg changed]
      simp only [first, second, framing, reread, strategySet, runnerSet, same, Value.isStr_str, decide_true, if_true]
      rfl

/-! ## What is edited -/

/-- Two edits, each inside its own field's value. -/
structure Edited (raw : RawBytes) (targetStrategy targetRunner : String) (newRaw : RawBytes) : Prop where
  size : newRaw.size = raw.size
  inside : ∃ text newText, raw = .utf8 text ∧ newRaw = .utf8 newText ∧ newText.length = text.length
    ∧ ∀ i, text[i]? ≠ newText[i]? → InsideValue text "strategy_revision" i ∨ InsideValue text "runner_revision" i
  value : ∃ payload, strictJsonObject raw = .ok payload
    ∧ strictJsonObject newRaw = .ok ((payload.set "strategy_revision" (.str (normalized targetStrategy))).set
      "runner_revision" (.str (normalized targetRunner)))
  again : patchVersionFieldsBytes newRaw targetStrategy targetRunner = .ok newRaw

theorem erase_set_self (d : Document) (key : String) (v : Value) : (d.set key v).erase key = d.erase key := by
  obtain ⟨entries⟩ := d
  simp only [Dict.set, Dict.erase, Dict.mk.injEq]
  induction entries with
  | nil => simp [Dict.setEntries]
  | cons entry entries ih =>
    rw [Dict.setEntries]
    split
    · rename_i same
      simp [same]
    · simp only [List.filter_cons, ih]

theorem erase_set_ne (d : Document) {key other : String} (v : Value) (apart : other ≠ key) :
    (d.set key v).erase other = (d.erase other).set key v := by
  obtain ⟨entries⟩ := d
  simp only [Dict.set, Dict.erase, Dict.mk.injEq]
  induction entries with
  | nil => simp [Dict.setEntries, Ne.symm apart]
  | cons entry entries ih =>
    by_cases same : entry.1 = key
    · have kept : entry.1 ≠ other := fun here => apart (here.symm.trans same)
      simp [Dict.setEntries, same, Ne.symm apart]
    · by_cases dropped : entry.1 = other
      · rw [Dict.setEntries, if_neg same, List.filter_cons_of_neg (by simpa using dropped),
          List.filter_cons_of_neg (by simpa using dropped), ih]
      · rw [Dict.setEntries, if_neg same, List.filter_cons_of_pos (by simpa using dropped),
          List.filter_cons_of_pos (by simpa using dropped), Dict.setEntries, if_neg same, ih]

/-- The payload without its versions does not depend on them. -/
theorem semantic_set (payload : Document) (strategy runner : Value) :
    semanticWithoutVersions ((payload.set "strategy_revision" strategy).set "runner_revision" runner)
      = semanticWithoutVersions payload := by
  rw [semanticWithoutVersions, semanticWithoutVersions, erase_set_ne _ _ (by decide), erase_set_self, erase_set_self]

/-- Soundness: a patch that returns edits the two fields and nothing else. -/
theorem patched_edits {raw newRaw : RawBytes} {targetStrategy targetRunner : String}
    (patched : patchVersionFieldsBytes raw targetStrategy targetRunner = .ok newRaw) :
    Edited raw targetStrategy targetRunner newRaw := by
  obtain ⟨strategyHex, runnerHex, payload, oldStrategy, oldRunner, read, strategyField, runnerField, ends⟩ :=
    patch_ok.mp patched
  rcases ends with ⟨⟨rfl, rfl⟩, same, rfl⟩ | ⟨changed, text, mid, newText, newPayload, rfl, first, second, -,
    reread, strategySet, runnerSet, same, rfl⟩
  · have text : ∃ text, newRaw = .utf8 text := by
      cases newRaw with
      | utf8 text => exact ⟨text, rfl⟩
      | other bytes => cases read
    obtain ⟨text, rfl⟩ := text
    refine ⟨rfl, ⟨text, text, rfl, rfl, rfl, fun i differs => absurd rfl differs⟩, ⟨payload, read, ?_⟩, patched⟩
    rw [Dict.set_of_get? (pyGet_str strategyField.1), Dict.set_of_get? (pyGet_str runnerField.1)]
    exact read
  · obtain ⟨midPayload, midRead, midRunner, strategyEdit⟩ :=
      edit_once (by decide) (by decide) strategyField.2 strategyHex first read strategyField.1 runnerField.1
    have midStrategy : ∃ x, pyGet midPayload "strategy_revision" = .str x
        ∧ (x = normalized targetStrategy →
          midPayload = payload.set "strategy_revision" (.str (normalized targetStrategy))
          ∧ OneEdit text mid "strategy_revision") := by
      rcases strategyEdit with ⟨stale, differ⟩ | ⟨rfl, edit⟩
      · exact ⟨oldStrategy, stale, fun same => absurd same differ⟩
      · exact ⟨_, by rw [pyGet, Dict.get?_set_self]; rfl, fun _ => ⟨rfl, edit⟩⟩
    obtain ⟨x, midStrategy, settled⟩ := midStrategy
    obtain ⟨after, afterRead, afterStrategy, runnerEdit⟩ :=
      edit_once (by decide) (by decide) runnerField.2 runnerHex second midRead midRunner midStrategy
    rw [reread] at afterRead
    obtain rfl := Except.ok.inj afterRead
    -- the check of each field excludes an edit elsewhere
    rw [strategySet] at afterStrategy
    obtain ⟨rfl, strategyInside⟩ := settled (Value.str.inj afterStrategy).symm
    rcases runnerEdit with ⟨stale, differ⟩ | ⟨rfl, runnerInside⟩
    · rw [runnerSet] at stale
      exact absurd (Value.str.inj stale).symm differ
    · refine ⟨?_, ⟨text, newText, rfl, rfl, ?_, fun i differs => ?_⟩, ⟨payload, read, reread⟩, ?_⟩
      · exact runnerInside.size.trans strategyInside.size
      · exact runnerInside.length.trans strategyInside.length
      · by_cases early : text[i]? = mid[i]?
        · obtain ⟨k, place, bounds⟩ := runnerInside.inside i (early ▸ differs)
          rw [strategyInside.places] at place
          rw [strategyInside.length] at bounds
          exact .inr ⟨k, place, bounds⟩
        · exact .inl (strategyInside.inside i early)
      · refine patch_ok.mpr ⟨strategyHex, runnerHex, _, _, _, reread, ⟨strategySet, strategyHex⟩,
          ⟨runnerSet, runnerHex⟩, .inl ⟨⟨rfl, rfl⟩, ?_, rfl⟩⟩
        rw [semantic_set] at same ⊢
        exact same

/-! ## The matches of the other field -/

/-- A text cut at its next quotation mark. -/
theorem split_quote {front rest name other : List Char} (free : '"' ∉ name)
    (same : front ++ '"' :: rest = name ++ '"' :: other) :
    (front = name ∧ rest = other) ∨ ∃ left, front = name ++ '"' :: left ∧ other = left ++ '"' :: rest := by
  induction name generalizing front with
  | nil =>
    cases front with
    | nil => exact .inl ⟨rfl, (List.cons.inj same).2⟩
    | cons c front =>
      obtain ⟨rfl, shape⟩ := List.cons.inj same
      exact .inr ⟨front, rfl, shape.symm⟩
  | cons d name ih =>
    rw [List.mem_cons, not_or] at free
    cases front with
    | nil => exact absurd (List.cons.inj same).1 free.1
    | cons c front =>
      obtain ⟨rfl, shape⟩ := List.cons.inj same
      rcases ih free.2 shape with ⟨rfl, rfl⟩ | ⟨left, rfl, rfl⟩
      · exact .inl ⟨rfl, rfl⟩
      · exact .inr ⟨left, rfl, rfl⟩

/-- Texts without a quotation mark that are not the same do not end at one. -/
theorem apart_quote {first second rest other : List Char} (free : '"' ∉ first) (free' : '"' ∉ second)
    (differ : first ≠ second) : first ++ '"' :: rest ≠ second ++ '"' :: other := by
  intro same
  rcases split_quote free' same with ⟨rfl, -⟩ | ⟨left, rfl, -⟩
  · exact differ rfl
  · exact free (List.mem_append_right _ List.mem_cons_self)

theorem version_chars {name : String} (known : name ∈ versionNames) :
    '"' ∉ name.toList ∧ ':' ∉ name.toList ∧ name.toList.length ≠ 40 := by
  simp only [versionNames, List.mem_cons, List.not_mem_nil, or_false] at known
  rcases known with rfl | rfl <;> decide

theorem revision_free {u : List Char} (revision : Revision u) : '"' ∉ u := fun member =>
  (revision.plain _ member).1 rfl

theorem spaces_free {gap space : List Char} (gaps : ∀ c ∈ gap, NumberText.isSpace c = true)
    (spaces : ∀ c ∈ space, NumberText.isSpace c = true) : '"' ∉ gap ++ ':' :: space := by
  rw [List.mem_append, List.mem_cons, not_or, not_or]
  exact ⟨fun member => space_ne (gaps _ member) (by decide) rfl, by decide,
    fun member => space_ne (spaces _ member) (by decide) rfl⟩

/-- A match starts with a quote. -/
theorem matchField_head {name : String} {c : Char} {rest : List Char} (other : c ≠ '"') :
    matchField name (c :: rest) = none := by
  cases found : matchField name (c :: rest) with
  | none => rfl
  | some m =>
    obtain ⟨gap, space, -, -, -, opening, shape⟩ := matchField_some.mp found
    rw [opening] at shape
    exact absurd (List.cons.inj shape).1 other

/-- Another quoted text is no match. -/
theorem matchField_quoted {name : String} {text rest : List Char} (nameFree : '"' ∉ name.toList)
    (free : '"' ∉ text) (other : text ≠ name.toList) :
    matchField name ('"' :: (text ++ '"' :: rest)) = none := by
  cases found : matchField name ('"' :: (text ++ '"' :: rest)) with
  | none => rfl
  | some m =>
    obtain ⟨gap, space, -, -, -, opening, shape⟩ := matchField_some.mp found
    rw [opening] at shape
    have inner : text ++ '"' :: rest
        = name.toList ++ '"' :: (gap ++ ':' :: space ++ ['"'] ++ m.value ++ '"' :: m.rest) := by
      simpa using (List.cons.inj shape).2
    exact absurd inner (apart_quote free nameFree other)

theorem skip_one {name : String} {fuel : ℕ} {c : Char} {rest : List Char} (none : matchField name (c :: rest) = none) :
    findFields name fuel (c :: rest) = findFields name (fuel - 1) rest := by
  cases fuel with
  | zero => rfl
  | succ fuel =>
    rw [findFields, none]
    rfl

/-- The scan skips a text without a quote. -/
theorem skip_plain {name : String} {fuel : ℕ} {text rest : List Char} (free : '"' ∉ text) :
    findFields name fuel (text ++ rest) = findFields name (fuel - text.length) rest := by
  induction text generalizing fuel with
  | nil => rfl
  | cons c text ih =>
    rw [List.mem_cons, not_or] at free
    rw [List.cons_append, skip_one (matchField_head (Ne.symm free.1)), ih free.2, List.length_cons, Nat.sub_sub,
      Nat.add_comm]

section Elsewhere
variable {s : Site} {name own : String} (known : name ∈ versionNames) (ownKnown : own ∈ versionNames)
  (named : s.name = own.toList) (differ : name ≠ own)

include named differ in
theorem name_ne : s.name ≠ name.toList := by
  rw [named]
  exact fun same => differ (String.toList_injective same).symm

include known ownKnown named differ

/-- A match of the other field ends in front of the place, or at its first quotation mark. -/
theorem match_elsewhere {front u : List Char} {found : FieldMatch}
    (here : matchField name (s.text front u) = some found) :
    (∃ left, found.rest = s.text left u
        ∧ ∀ w, matchField name (s.text front w) = some ⟨found.opening, found.value, s.text left w⟩)
      ∨ found.rest = s.body u
        ∧ ∀ w, matchField name (s.text front w) = some ⟨found.opening, found.value, s.body w⟩ := by
  obtain ⟨gap, space, gaps, spaces, revision, opening, shape⟩ := matchField_some.mp here
  obtain ⟨nameFree, -, -⟩ := version_chars known
  obtain ⟨ownFree, ownColon, ownLength⟩ := version_chars ownKnown
  rw [← named] at ownFree ownColon ownLength
  have between := spaces_free gaps spaces
  have rebuilt : ∀ rest, found.opening ++ found.value ++ '"' :: rest
      = '"' :: (name.toList ++ '"' :: ((gap ++ ':' :: space) ++ '"' :: (found.value ++ '"' :: rest))) := by
    intro rest
    rw [opening]
    simp
  have again : ∀ w rest, s.text front w = found.opening ++ found.value ++ '"' :: rest →
      matchField name (s.text front w) = some ⟨found.opening, found.value, rest⟩ := fun w rest whole =>
    matchField_some.mpr ⟨gap, space, gaps, spaces, revision, opening, whole⟩
  rw [rebuilt] at shape
  cases front with
  | nil =>
    exact absurd (List.cons.inj shape).2
      (apart_quote ownFree nameFree (name_ne named differ))
  | cons c front =>
    obtain ⟨rfl, tail⟩ := List.cons.inj shape
    rcases split_quote nameFree tail with ⟨rfl, named'⟩ | ⟨front, rfl, afterName⟩
    · refine absurd named' (apart_quote ownFree between ?_)
      rintro same
      exact ownColon (same ▸ List.mem_append_right _ List.mem_cons_self)
    · rcases split_quote between afterName.symm with ⟨rfl, valued⟩ | ⟨front, rfl, afterGap⟩
      · refine absurd valued (apart_quote ownFree (revision_free revision) ?_)
        rintro same
        exact ownLength (same ▸ revision.1)
      · rcases split_quote (revision_free revision) afterGap.symm with ⟨rfl, last⟩ | ⟨left, rfl, last⟩
        · refine .inr ⟨last.symm, fun w => again w _ ?_⟩
          rw [rebuilt]
          simp [Site.text]
        · refine .inl ⟨left, last, fun w => again w _ ?_⟩
          rw [rebuilt]
          simp [Site.text]

omit differ in
/-- The place holds no match of the other field. -/
theorem findFields_body {fuel : ℕ} {u : List Char} (revision : Revision u) :
    findFields name fuel (s.body u)
      = findFields name (fuel - s.name.length - 1 - (s.gap ++ ':' :: s.space).length - 1 - 40) ('"' :: s.back) := by
  obtain ⟨ownFree, ownColon, ownLength⟩ := version_chars ownKnown
  rw [← named] at ownFree
  have between := spaces_free s.gapSpaces s.spaceSpaces
  obtain ⟨nameFree, nameColon, nameLength⟩ := version_chars known
  have shape : s.body u = s.name ++ ('"' :: ((s.gap ++ ':' :: s.space) ++ '"' :: (u ++ '"' :: s.back))) := by
    simp [Site.body, Site.afterName, Site.quoted]
  rw [shape, skip_plain ownFree, skip_one,
    skip_plain between, skip_one,
    skip_plain (revision_free revision), revision.1]
  · exact matchField_quoted nameFree (revision_free revision) fun same => nameLength (same ▸ revision.1)
  · exact matchField_quoted nameFree between
      fun same => nameColon (same ▸ List.mem_append_right _ List.mem_cons_self)

/-- The other field's matches are the same whatever revision stands in the place. -/
theorem findFields_text {fuel : ℕ} {front u w : List Char} (revision : Revision u) (other : Revision w) :
    (findFields name fuel (s.text front u)).map (fun m => (m.value, m.rest.length))
      = (findFields name fuel (s.text front w)).map fun m => (m.value, m.rest.length) := by
  have size : ∀ left, (s.text left u).length = (s.text left w).length := by
    intro left
    rw [Site.text, Site.text, List.length_append, List.length_append, List.length_cons, List.length_cons,
      s.body_length revision other]
  induction fuel generalizing front with
  | zero => rfl
  | succ fuel ih =>
    rw [findFields, findFields]
    cases here : matchField name (s.text front u) with
    | some found =>
      rcases match_elsewhere known ownKnown named differ here with ⟨left, rest, same⟩ | ⟨rest, same⟩
      · rw [same w]
        simp only [List.map_cons, rest, size left, ih]
      · rw [same w]
        simp only [List.map_cons, rest, s.body_length revision other,
          findFields_body known ownKnown named revision, findFields_body known ownKnown named other]
    | none =>
      have alike : matchField name (s.text front w) = none := by
        cases there : matchField name (s.text front w) with
        | none => rfl
        | some found =>
          rcases match_elsewhere known ownKnown named differ there with ⟨left, -, same⟩ | ⟨-, same⟩
          · rw [same u] at here
            cases here
          · rw [same u] at here
            cases here
      rw [alike]
      cases front with
      | nil =>
        change (findFields name fuel (s.body u)).map _ = (findFields name fuel (s.body w)).map _
        rw [findFields_body known ownKnown named revision, findFields_body known ownKnown named other]
      | cons c front => exact ih

end Elsewhere

/-! ## When the patch returns -/

/-- The field's top-level occurrence is the only match of its pattern. -/
def SoleMatch (text : List Char) (name : String) : Prop :=
  ∃ found, findFields name (text.length + 1) text = [found] ∧ (name, found.rest.length + 42) ∈ topPlaces text

/-- The edit of a field whose top-level occurrence is the only match. -/
theorem patch_sole {text : List Char} {name old target : String} {payload : Document} (known : name ∈ versionNames)
    (read : strictJsonObject (.utf8 text) = .ok payload) (held : pyGet payload name = .str old)
    (wanted : Revision target.toList) (sole : SoleMatch text name) :
    ∃ out, patchOneField text name old target = .ok out
      ∧ strictJsonObject (.utf8 out) = .ok (payload.set name (.str target)) ∧ OneEdit text out name
      ∧ ∀ other ∈ versionNames, other ≠ name → SoleMatch text other → SoleMatch out other := by
  by_cases same : old = target
  · subst same
    refine ⟨text, if_pos rfl, ?_, OneEdit.refl _ _, fun _ _ _ kept => kept⟩
    rw [Dict.set_of_get? (pyGet_str held)]
    exact read
  · obtain ⟨found, scan, place⟩ := sole
    obtain ⟨front, here, rfl, matched, replaced⟩ := findFields_first scan
    obtain ⟨s, named, back, revision, shape, whole⟩ := site_of_match known matched
    have text : front ++ here = s.text front found.value := whole front
    rw [text] at read place scan
    rw [← back] at place
    obtain ⟨lead, key, inner, trail, rfl, distinct, hole, alike⟩ := payload_edit revision read
    obtain ⟨rfl, direct⟩ := (hole.place name).mp place
    have stored := pyGet_str held
    rw [get?_hole distinct, if_pos rfl, direct] at stored
    have value : found.value = old.toList := by
      rw [← Value.str.inj (Option.some.inj stored), String.toList_ofList]
    obtain ⟨again, places⟩ := alike _ wanted
    have edit : OneEdit (s.text front found.value) (s.text front target.toList) name :=
      oneEdit_site revision wanted place places
    refine ⟨s.text front target.toList, ?_, ?_, text ▸ edit, fun other otherKnown differ otherSole => ?_⟩
    · rw [patchOneField, if_neg same, text, scan]
      dsimp only
      rw [if_pos value, ← text, replaced, shape]
    · rw [again, set_hole distinct, direct, String.ofList_toList]
    · obtain ⟨found', scan', place'⟩ := otherSole
      rw [text] at scan' place'
      have matches' : (findFields other ((s.text front found.value).length + 1) (s.text front found.value)).map
            (fun m => (m.value, m.rest.length))
          = (findFields other ((s.text front found.value).length + 1) (s.text front target.toList)).map
            fun m => (m.value, m.rest.length) :=
        findFields_text otherKnown known named differ revision wanted
      rw [scan', ← edit.length] at matches'
      cases scan'' : findFields other ((s.text front target.toList).length + 1) (s.text front target.toList) with
      | nil =>
        rw [scan''] at matches'
        cases matches'
      | cons first more =>
        rw [scan''] at matches'
        cases more with
        | nil =>
          refine ⟨first, scan'', ?_⟩
          have lengths : found'.rest.length = first.rest.length := (Prod.mk.inj (List.cons.inj matches').1).2
          rw [edit.places, ← lengths]
          exact place'
        | cons second more => cases (List.cons.inj matches').2

/-- A payload that was read equals itself: it holds no NaN. -/
theorem semantic_equals {text : List Char} {payload : Document} (read : strictJsonObject (.utf8 text) = .ok payload) :
    Value.equalsDict (semanticWithoutVersions payload) (semanticWithoutVersions payload) = true := by
  obtain ⟨rest, value, -⟩ := strictJsonObject_ok.mp read
  have itself := (read_equals _).1 _ _ _ value
  rw [Value.equals] at itself
  refine equalsDict_self.mpr fun key stored found => equalsDict_self.mp itself key stored ?_
  rw [semanticWithoutVersions, Dict.get?_erase, Dict.get?_erase] at found
  split at found
  · cases found
  · split at found
    · cases found
    · exact found

/-- Completeness: with one match of each field the patch returns. -/
theorem patch_returns {text : List Char} {payload : Document} {targetStrategy targetRunner oldStrategy oldRunner : String}
    (read : strictJsonObject (.utf8 text) = .ok payload)
    (strategyField : pyGet payload "strategy_revision" = .str oldStrategy ∧ Revision oldStrategy.toList)
    (runnerField : pyGet payload "runner_revision" = .str oldRunner ∧ Revision oldRunner.toList)
    (strategySole : SoleMatch text "strategy_revision") (runnerSole : SoleMatch text "runner_revision")
    (strategyHex : Revision (normalized targetStrategy).toList) (runnerHex : Revision (normalized targetRunner).toList) :
    ∃ newRaw, patchVersionFieldsBytes (.utf8 text) targetStrategy targetRunner = .ok newRaw := by
  have itself := semantic_equals read
  by_cases unchanged : oldStrategy = normalized targetStrategy ∧ oldRunner = normalized targetRunner
  · exact ⟨_, patch_ok.mpr ⟨strategyHex, runnerHex, payload, _, _, read, strategyField, runnerField,
      .inl ⟨unchanged, itself, rfl⟩⟩⟩
  · obtain ⟨mid, first, midRead, strategyEdit, kept⟩ :=
      patch_sole (by decide) read strategyField.1 strategyHex strategySole
    have midRunner : pyGet (payload.set "strategy_revision" (.str (normalized targetStrategy))) "runner_revision"
        = .str oldRunner := by
      rw [pyGet, Dict.get?_set_ne _ _ (by decide)]
      exact runnerField.1
    obtain ⟨newText, second, newRead, runnerEdit, -⟩ :=
      patch_sole (by decide) midRead midRunner runnerHex (kept _ (by decide) (by decide) runnerSole)
    refine ⟨_, patch_ok.mpr ⟨strategyHex, runnerHex, payload, _, _, read, strategyField, runnerField,
      .inr ⟨unchanged, text, mid, newText, _, rfl, first, second, ?_, newRead, ?_, ?_, ?_, rfl⟩⟩⟩
    · rw [endsWithNewline, endsWithNewline, runnerEdit.last, strategyEdit.last]
    · rw [pyGet, Dict.get?_set_ne _ _ (by decide), Dict.get?_set_self]
      rfl
    · rw [pyGet, Dict.get?_set_self]
      rfl
    · rw [semantic_set]
      exact itself

/-- A reissue that returns edits the forty characters of the two top-level revisions and
nothing else; and where each field's top-level occurrence is the only match of its pattern,
it returns for all revisions. -/
theorem reissue_edits_two_fields (raw : RawBytes) (targetStrategy targetRunner : String) :
    (∀ newRaw, patchVersionFieldsBytes raw targetStrategy targetRunner = .ok newRaw →
        Edited raw targetStrategy targetRunner newRaw)
      ∧ ∀ text payload, raw = .utf8 text → strictJsonObject raw = .ok payload →
        (∀ name ∈ versionNames, (∃ old, pyGet payload name = .str old ∧ fullMatch lowerHex 40 40 old = true)
          ∧ SoleMatch text name) →
        ((∃ newRaw, patchVersionFieldsBytes raw targetStrategy targetRunner = .ok newRaw)
          ↔ fullMatch lowerHex 40 40 (normalized targetStrategy) = true
            ∧ fullMatch lowerHex 40 40 (normalized targetRunner) = true) := by
  refine ⟨fun newRaw patched => patched_edits patched, ?_⟩
  rintro text payload rfl read fields
  obtain ⟨⟨oldStrategy, strategyHeld, strategyHex⟩, strategySole⟩ := fields "strategy_revision" (by decide)
  obtain ⟨⟨oldRunner, runnerHeld, runnerHex⟩, runnerSole⟩ := fields "runner_revision" (by decide)
  rw [revision_iff] at strategyHex runnerHex
  rw [revision_iff, revision_iff]
  constructor
  · rintro ⟨newRaw, patched⟩
    obtain ⟨strategyTarget, runnerTarget, -⟩ := patch_ok.mp patched
    exact ⟨strategyTarget, runnerTarget⟩
  · rintro ⟨strategyTarget, runnerTarget⟩
    exact patch_returns read ⟨strategyHeld, strategyHex⟩ ⟨runnerHeld, runnerHex⟩ strategySole runnerSole
      strategyTarget runnerTarget

/-! ## A nested field and an escaped name -/

def revisionText (digit : Char) : List Char := List.replicate 40 digit

/-- The runner's name also ends the escaped name of another member. -/
def notedText (strategy : Char) : List Char :=
  "\x7b\"runner_revision\" : \"".toList ++ revisionText '2' ++ "\",\"a\\\"runner_revision\":\x7b\x7d,".toList
    ++ "\"strategy_revision\":\"".toList ++ revisionText strategy ++ "\"\x7d\n".toList

theorem noted_patched : patchVersionFieldsBytes (.utf8 (notedText '1')) (String.ofList (revisionText '3'))
    (String.ofList (revisionText '2')) = .ok (.utf8 (notedText '3')) := by decide +kernel

theorem noted_sole : ∀ name ∈ versionNames, SoleMatch (notedText '1') name := by
  intro name known
  simp only [versionNames, List.mem_cons, List.not_mem_nil, or_false] at known
  rcases known with rfl | rfl
  · exact ⟨⟨"\"strategy_revision\":\"".toList, revisionText '1', "\x7d\n".toList⟩,
      by decide +kernel, by decide +kernel⟩
  · exact ⟨⟨"\"runner_revision\" : \"".toList, revisionText '2', ",\"a\\\"runner_revision\":\x7b\x7d,".toList
      ++ "\"strategy_revision\":\"".toList ++ revisionText '1' ++ "\"\x7d\n".toList⟩,
      by decide +kernel, by decide +kernel⟩

theorem reissue_edits_two_fields_noted :
    Edited (.utf8 (notedText '1')) (String.ofList (revisionText '3')) (String.ofList (revisionText '2'))
        (.utf8 (notedText '3'))
      ∧ ∃ newRaw, patchVersionFieldsBytes (.utf8 (notedText '1')) (String.ofList (revisionText '4'))
        (String.ofList (revisionText '5')) = .ok newRaw := by
  obtain ⟨-, -, payload, strategy, runner, read, strategyField, runnerField, -⟩ := patch_ok.mp noted_patched
  refine ⟨(reissue_edits_two_fields _ _ _).1 _ noted_patched,
    ((reissue_edits_two_fields _ _ _).2 _ payload rfl read fun name known => ⟨?_, noted_sole name known⟩).mpr
      ⟨by decide +kernel, by decide +kernel⟩⟩
  simp only [versionNames, List.mem_cons, List.not_mem_nil, or_false] at known
  rcases known with rfl | rfl
  · exact ⟨strategy, strategyField.1, revision_iff.mpr strategyField.2⟩
  · exact ⟨runner, runnerField.1, revision_iff.mpr runnerField.2⟩

end BinancePlatform.Guarantees.ReissueEdit
