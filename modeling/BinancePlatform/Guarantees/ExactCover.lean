import BinancePlatform.Library.Tiling
import BinancePlatform.Source.IntervalReader
import Mathlib.Data.Prod.Lex

/-!
# The reader accepts exactly the exact covers

A batch of individually valid receipts is accepted precisely when receipts of one
logical interval are identical, the intervals cover the cutover without gap or overlap,
and the ledger versions increase with them. The digest is a parameter of the model.

Main results:
- `prepared_cover`, `preview_of_cover`: an accepted batch is an exact cover, and conversely
- `preview_listing_eq`: what is listed depends only on which receipts were supplied
- `accepted_iff_exact_cover`: the equivalence, with each distinct interval listed once
-/

set_option autoImplicit false

namespace BinancePlatform.Guarantees.ExactCover
open BinancePlatform.Library BinancePlatform.Source

/-! ## What a serialized receipt determines -/

def textObject (members : List (String × String)) : List Char :=
  '{' :: commaSeparated (members.map textMember) ++ ['}']

/-- The canonical text of a receipt. -/
def receiptText (payload source : List (String × String)) (logicalId digest : String) : List Char :=
  '{' :: commaSeparated [jsonText "interval" ++ ':' :: textObject payload,
    textMember ("interval_id_sha256", logicalId), textMember ("payload_sha256", digest),
    textMember ("schema_version", receiptSchema), jsonText "source" ++ ':' :: textObject source] ++ ['}']

/-- The text of a receipt determines its fields. -/
theorem receiptText_inj {payload payload' source source' : List (String × String)}
    {logicalId logicalId' digest digest' : String}
    (same : receiptText payload source logicalId digest = receiptText payload' source' logicalId' digest') :
    payload = payload' ∧ source = source' := by
  have single : ∀ text : List Char, commaSeparated [text] = text := by
    intro text
    simp [commaSeparated, List.intercalate]
  simp only [receiptText, commaSeparated_cons_cons, single, textObject, textMember, List.append_assoc,
    List.cons_append, List.nil_append, List.cons.injEq, true_and] at same
  -- Member by member: the name, then the value and where it ends.
  obtain ⟨-, same⟩ := jsonText_append_inj same
  obtain ⟨payloads, same⟩ := textMembers_append_inj (List.cons.inj (List.cons.inj same).2).2
  obtain ⟨-, same⟩ := jsonText_append_inj (List.cons.inj same).2
  obtain ⟨-, same⟩ := jsonText_append_inj (List.cons.inj same).2
  obtain ⟨-, same⟩ := jsonText_append_inj (List.cons.inj same).2
  obtain ⟨-, same⟩ := jsonText_append_inj (List.cons.inj same).2
  obtain ⟨-, same⟩ := jsonText_append_inj (List.cons.inj same).2
  obtain ⟨-, same⟩ := jsonText_append_inj (List.cons.inj same).2
  obtain ⟨-, same⟩ := jsonText_append_inj (List.cons.inj same).2
  exact ⟨payloads, (textMembers_append_inj (List.cons.inj (List.cons.inj same).2).2).1⟩

/-- A mapping of texts is written as the object of its sorted members. -/
theorem json_textObject {d : Document} {members : List (String × String)}
    (shape : sortedItems d = members.map fun e => (e.1, .str e.2)) :
    (Value.dict d).json = .ok (textObject members) := by
  have written : (members.map fun e => (e.1, Value.str e.2)).mapM memberText
      = .ok (members.map textMember) := by
    clear shape
    induction members with
    | nil => rfl
    | cons entry rest ih =>
      rw [List.map_cons, List.mapM_cons, ih]
      rfl
  rw [json_dict, shape, written]
  rfl

theorem exists_members {d : Document} (texts : ∀ e ∈ d.items, ∃ s, e.2 = .str s) :
    ∃ members : List (String × String), sortedItems d = members.map fun e => (e.1, .str e.2) := by
  refine ⟨(sortedItems d).map fun e => (e.1, stringOf e.2), ?_⟩
  rw [List.map_map]
  refine ((List.map_congr_left fun e member => ?_).trans (List.map_id _)).symm
  obtain ⟨s, shape⟩ := texts e ((perm_sortedItems d).mem_iff.mp member)
  exact Prod.ext rfl (by simp [shape, stringOf])

/-- Mappings with the same sorted members hold the same values. -/
theorem same_of_sortedItems {d e : Document} (items : sortedItems d = sortedItems e) : d.Same e := by
  intro k
  refine Option.ext fun value => ?_
  rw [← Dict.mem_items, ← Dict.mem_items, ← (perm_sortedItems d).mem_iff, items,
    (perm_sortedItems e).mem_iff]

/-- The members of a mapping whose keys are known. -/
theorem sortedItems_eq {d : Document} {keys : List String} (sorted : keys.Pairwise (· < ·))
    (same : ∀ k, k ∈ d.keys ↔ k ∈ keys) : sortedItems d = keys.map fun k => (k, pyGet d k) := by
  rw [← sortedItems_of_keys sorted same, List.map_map]
  refine ((List.map_congr_left fun e member => ?_).trans (List.map_id _)).symm
  exact Prod.ext rfl (by simp [pyGet, get?_of_sortedItems member])

theorem item_value {d : Document} {keys : List String} (same : ∀ k, k ∈ d.keys ↔ k ∈ keys)
    {e : String × Value} (member : e ∈ d.items) : e.1 ∈ keys ∧ e.2 = pyGet d e.1 := by
  refine ⟨(same e.1).mp (List.mem_map_of_mem member), ?_⟩
  simp [pyGet, (d.mem_items e.1 e.2).mp member]

theorem shortText {value : Value} (short : isShortText value = true) : ∃ s, value = .str s := by
  cases value with
  | str s => exact ⟨s, rfl⟩
  | _ => cases short

theorem hexDigest_text {value : Value} (hex : isHexDigest value = true) : ∃ s, value = .str s := by
  cases value with
  | str s => exact ⟨s, rfl⟩
  | _ => cases hex

theorem version_text {value : Value} (version : isVersion value = true) : ∃ s, value = .str s := by
  cases value with
  | str s => exact ⟨s, rfl⟩
  | _ => cases version

section Digests
variable {sha256 : List Char → String}

/-- What a read receipt is. -/
structure ReadAs (sha256 : List Char → String) (scope : String) (material : ReceiptMaterial)
    (sourceOf : Document) : Prop where
  start : receiptTime (pyGet material.payload "start_at") = .ok material.start
  finish : receiptTime (pyGet material.payload "end_at") = .ok material.finish
  grows : material.start < material.finish
  identity : receiptDigest sha256 (intervalIdentity (.str scope) material.start material.finish)
    = .ok material.logicalId
  version : pyGet sourceOf "ledger_before_version" = .str material.version
  text : ∃ payload source digest, sortedItems material.payload = payload.map (fun e => (e.1, .str e.2))
    ∧ sortedItems sourceOf = source.map (fun e => (e.1, .str e.2))
    ∧ material.serialized = receiptText payload source material.logicalId digest

/-- A receipt that is read has been checked field by field. -/
theorem readReceipt_ok {ledgerPath scope : String} {entry : Value × Value} {material : ReceiptMaterial}
    (success : readReceipt sha256 ledgerPath scope entry = .ok material) :
    ∃ source, ReadAs sha256 scope material source := by
  obtain ⟨-, success⟩ := require_bind success
  obtain ⟨receipt, mapping, success⟩ := bind_ok success
  obtain ⟨shape, success⟩ := require_bind success
  obtain ⟨source, isSource, success⟩ := bind_ok success
  obtain ⟨interval, isInterval, success⟩ := bind_ok success
  obtain ⟨fields, success⟩ := require_bind success
  obtain ⟨inner, valid, success⟩ := bind_ok success
  obtain ⟨digest, digested, success⟩ := bind_ok success
  obtain ⟨bound, success⟩ := require_bind success
  obtain ⟨sourceShape, success⟩ := require_bind success
  obtain ⟨binding, success⟩ := require_bind success
  obtain ⟨sourceTexts, success⟩ := require_bind success
  obtain ⟨seconds, -, success⟩ := bind_ok success
  obtain ⟨serialized, shown, success⟩ := bind_ok success
  cases success
  obtain ⟨isInterval', keys, start, finish, grows, identity⟩ := payloadMaterial_ok valid
  cases isInterval'
  have intervalAt := receiptMapping_ok isInterval
  have sourceAt := receiptMapping_ok isSource
  simp only [Bool.and_eq_true] at shape fields bound binding sourceTexts
  have sourceKeysAre := sameKeySet_iff.mp sourceShape
  have ledgerPathIs := Value.eq_str_of_isStr binding.1.1
  -- Every field of the source block is a text.
  have texts : ∀ e ∈ inner.payload.items, ∃ s, e.2 = .str s := by
    intro e member
    exact shortText (List.all_eq_true.mp fields.2 e member)
  have sourceFields : ∀ e ∈ source.items, ∃ s, e.2 = .str s := by
    intro e member
    obtain ⟨key, value⟩ := item_value sourceKeysAre member
    rw [value]
    simp only [sourceKeys, List.mem_cons, List.not_mem_nil, or_false] at key
    rcases key with key | key | key | key | key <;> rw [key]
    · exact hexDigest_text sourceTexts.1.2
    · exact hexDigest_text sourceTexts.1.1.2
    · exact version_text sourceTexts.1.1.1
    · exact ⟨ledgerPath, ledgerPathIs⟩
    · exact hexDigest_text sourceTexts.2
  obtain ⟨payloadMembers, payloadShape⟩ := exists_members texts
  obtain ⟨sourceMembers, sourceItems⟩ := exists_members sourceFields
  obtain ⟨version, versionIs⟩ := version_text sourceTexts.1.1.1
  refine ⟨source, start, finish, grows, ?_, ?_, payloadMembers, sourceMembers, digest, payloadShape,
    sourceItems, ?_⟩
  · rw [← Value.eq_str_of_isStr binding.1.2]
    exact identity
  · rw [versionIs]
    rfl
  · have written := receiptJson_ok shown
    rw [json_dict, sortedItems_eq (by decide) (sameKeySet_iff.mp shape.1)] at written
    simp only [receiptKeys, List.map_cons, List.map_nil, List.mapM_cons, List.mapM_nil, intervalAt,
      sourceAt, Value.eq_str_of_isStr bound.1, Value.eq_str_of_isStr bound.2, Value.eq_str_of_isStr shape.2,
      memberText, jsonMember,
      json_textObject payloadShape, json_textObject sourceItems] at written
    exact (Except.ok.inj written).symm

/-- Identical receipts are receipts of one interval, payload and version. -/
theorem serialized_determines {scope : String} {a b : ReceiptMaterial} {sourceA sourceB : Document}
    (readA : ReadAs sha256 scope a sourceA) (readB : ReadAs sha256 scope b sourceB)
    (same : a.serialized = b.serialized) : a.start = b.start ∧ a.finish = b.finish
      ∧ a.version = b.version ∧ (Value.dict a.payload).json = (Value.dict b.payload).json := by
  obtain ⟨payloadA, sourceTextsA, digestA, shapeA, itemsA, textA⟩ := readA.text
  obtain ⟨payloadB, sourceTextsB, digestB, shapeB, itemsB, textB⟩ := readB.text
  rw [textA, textB] at same
  obtain ⟨rfl, rfl⟩ := receiptText_inj same
  have payloads := same_of_sortedItems (shapeA.trans shapeB.symm)
  have sources := same_of_sortedItems (itemsA.trans itemsB.symm)
  have field : ∀ k, pyGet a.payload k = pyGet b.payload k := fun k => by rw [pyGet, pyGet, payloads k]
  refine ⟨?_, ?_, ?_, by rw [json_textObject shapeA, json_textObject shapeB]⟩
  · exact Except.ok.inj (readA.start.symm.trans (field "start_at" ▸ readB.start))
  · exact Except.ok.inj (readA.finish.symm.trans (field "end_at" ▸ readB.finish))
  · have versions := readA.version
    rw [pyGet, sources, ← pyGet, readB.version] at versions
    exact (Value.str.inj versions).symm

end Digests
/-! ## The loop over the supplied receipts -/

/-- What the loop has gathered from the receipts seen so far. -/
structure Taken (cutover : Cutover) (seen : List ReceiptMaterial) (batch : Batch) : Prop where
  bytes : batch.totalBytes = (seen.map ReceiptMaterial.encodedBytes).sum
  limit : batch.totalBytes ≤ cutover.maxBytes
  inside : ∀ m ∈ seen, cutover.start ≤ m.start ∧ m.finish ≤ cutover.finish
  kept : ∀ m ∈ batch.kept, m ∈ seen
  distinct : (batch.kept.map ReceiptMaterial.logicalId).Nodup
  represented : ∀ m ∈ seen, ∃ k ∈ batch.kept, k.logicalId = m.logicalId ∧ k.serialized = m.serialized
  ends : ∀ e s, batch.byEnd.get? e = some s → ∃ k ∈ batch.kept, k.finish = e ∧ k.start = s
  count : batch.kept.length + batch.duplicates = seen.length

theorem taken_empty (cutover : Cutover) : Taken cutover [] .empty := by
  constructor <;> simp [Batch.empty]

/-- One round of the loop keeps what is known of the receipts taken. -/
theorem takeReceipt_ok {cutover : Cutover} {seen : List ReceiptMaterial} {batch next : Batch}
    {material : ReceiptMaterial} (taken : Taken cutover seen batch)
    (success : takeReceipt cutover batch material = .ok next) :
    Taken cutover (seen ++ [material]) next := by
  obtain ⟨limit, success⟩ := require_bind success
  obtain ⟨inside, success⟩ := require_bind success
  simp only [Bool.and_eq_true, decide_eq_true_eq] at limit inside
  have within : ∀ m ∈ seen ++ [material], cutover.start ≤ m.start ∧ m.finish ≤ cutover.finish := by
    intro m member
    rcases List.mem_append.mp member with before | last
    · exact taken.inside m before
    · rw [List.mem_singleton.mp last]
      exact inside
  have bytes : batch.totalBytes + material.encodedBytes
      = ((seen ++ [material]).map ReceiptMaterial.encodedBytes).sum := by
    simp [taken.bytes]
  split at success
  case h_1 previous found =>
    obtain ⟨same, success⟩ := require_bind success
    cases success
    have isKept := List.mem_of_find?_eq_some found
    have sameId : previous.logicalId = material.logicalId := by
      simpa using List.find?_some found
    refine ⟨bytes, limit, within, ?_, taken.distinct, ?_, taken.ends, ?_⟩
    · intro m member
      exact List.mem_append_left _ (taken.kept m member)
    · intro m member
      rcases List.mem_append.mp member with before | last
      · exact taken.represented m before
      · rw [List.mem_singleton.mp last]
        exact ⟨previous, isKept, sameId, by simpa using same⟩
    · have := taken.count
      simp only [List.length_append, List.length_singleton]
      omega
  case h_2 absent =>
    obtain ⟨ends, success⟩ := require_bind success
    cases success
    have fresh : ∀ k ∈ batch.kept, k.logicalId ≠ material.logicalId := by
      simpa using absent
    refine ⟨bytes, limit, within, ?_, ?_, ?_, ?_, ?_⟩
    · intro m member
      rcases List.mem_append.mp member with before | last
      · exact List.mem_append_left _ (taken.kept m before)
      · exact List.mem_append_right _ last
    · rw [List.map_append, List.nodup_append]
      refine ⟨taken.distinct, by simp, ?_⟩
      intro a first b last
      obtain ⟨k, member, rfl⟩ := List.mem_map.mp first
      rw [List.map_singleton, List.mem_singleton] at last
      rw [last]
      exact fresh k member
    · intro m member
      rcases List.mem_append.mp member with before | last
      · obtain ⟨k, isKept, same⟩ := taken.represented m before
        exact ⟨k, List.mem_append_left _ isKept, same⟩
      · exact ⟨m, List.mem_append_right _ last, rfl, rfl⟩
    · intro e s found
      rw [Dict.get?_set] at found
      split at found
      case isTrue here =>
        cases found
        exact ⟨material, List.mem_append_right _ (List.mem_singleton_self _), here.symm, rfl⟩
      case isFalse =>
        obtain ⟨k, isKept, same⟩ := taken.ends e s found
        exact ⟨k, List.mem_append_left _ isKept, same⟩
    · have := taken.count
      simp only [List.length_append, List.length_singleton]
      omega

/-- The induction over the receipts. -/
theorem takeReceipts_ok {cutover : Cutover} {seen materials : List ReceiptMaterial}
    {batch final : Batch} (taken : Taken cutover seen batch)
    (success : materials.foldlM (takeReceipt cutover) batch = .ok final) :
    Taken cutover (seen ++ materials) final := by
  induction materials generalizing seen batch with
  | nil =>
    cases success
    simpa using taken
  | cons material rest ih =>
    rw [List.foldlM_cons] at success
    obtain ⟨next, stepped, others⟩ := bind_ok success
    have shown := ih (takeReceipt_ok taken stepped) others
    rwa [List.append_assoc] at shown

/-- Receipts that the loop takes one after the other. -/
structure Takeable (cutover : Cutover) (materials : List ReceiptMaterial) : Prop where
  bytes : (materials.map ReceiptMaterial.encodedBytes).sum ≤ cutover.maxBytes
  inside : ∀ m ∈ materials, cutover.start ≤ m.start ∧ m.finish ≤ cutover.finish
  grow : ∀ m ∈ materials, m.start < m.finish
  identical : ∀ a ∈ materials, ∀ b ∈ materials, a.logicalId = b.logicalId → a.serialized = b.serialized
  apart : ∀ a ∈ materials, ∀ b ∈ materials, a.logicalId ≠ b.logicalId →
    Apart ReceiptMaterial.start ReceiptMaterial.finish a b

/-- Receipts that do not contradict each other are all taken. -/
theorem takeReceipts_returns {cutover : Cutover} {seen materials : List ReceiptMaterial}
    {batch : Batch} (taken : Taken cutover seen batch) (takeable : Takeable cutover (seen ++ materials)) :
    ∃ final, materials.foldlM (takeReceipt cutover) batch = .ok final := by
  induction materials generalizing seen batch with
  | nil => exact ⟨batch, rfl⟩
  | cons material rest ih =>
    have here : material ∈ seen ++ material :: rest := by simp
    have limit : batch.totalBytes + material.encodedBytes ≤ cutover.maxBytes := by
      have total := takeable.bytes
      rw [List.map_append, List.sum_append, List.map_cons, List.sum_cons, ← taken.bytes] at total
      omega
    have inside := takeable.inside material here
    have stepped : ∃ next, takeReceipt cutover batch material = .ok next := by
      simp only [takeReceipt, require, limit, inside, decide_true, Bool.and_self, if_true]
      cases found : batch.kept.find? fun m => m.logicalId = material.logicalId with
      | some previous =>
        have isSeen := taken.kept previous (List.mem_of_find?_eq_some found)
        have same := takeable.identical previous (List.mem_append_left _ isSeen) material here
          (by simpa using List.find?_some found)
        refine ⟨{ batch with totalBytes := batch.totalBytes + material.encodedBytes,
                             duplicates := batch.duplicates + 1 }, ?_⟩
        simp [same, bind, Except.bind, pure, Except.pure]
      | none =>
        have ends : ((batch.byEnd.get? material.finish).all fun start => start = material.start)
            = true := by
          cases stored : batch.byEnd.get? material.finish with
          | none => rfl
          | some start =>
            -- Two receipts of different intervals cannot end together.
            obtain ⟨k, isKept, sameEnd, -⟩ := taken.ends _ _ stored
            have isSeen := List.mem_append_left (material :: rest) (taken.kept k isKept)
            have fresh : k.logicalId ≠ material.logicalId := by
              have absent := List.find?_eq_none.mp found k isKept
              simpa using absent
            have growsK := takeable.grow k isSeen
            have growsM := takeable.grow material here
            rcases takeable.apart k isSeen material here fresh with before | after
            · rw [sameEnd] at before
              exact absurd before (not_le.mpr growsM)
            · rw [← sameEnd] at after
              exact absurd after (not_le.mpr growsK)
        refine ⟨{ kept := batch.kept ++ [material],
                  byEnd := batch.byEnd.set material.finish material.start,
                  totalBytes := batch.totalBytes + material.encodedBytes,
                  duplicates := batch.duplicates }, ?_⟩
        simp [ends, bind, Except.bind, pure, Except.pure]
    obtain ⟨next, stepped⟩ := stepped
    obtain ⟨final, others⟩ := ih (takeReceipt_ok taken stepped) (by rwa [List.append_assoc])
    refine ⟨final, ?_⟩
    rw [List.foldlM_cons, stepped]
    exact others

/-! ## The loop over the sorted receipts -/

/-- The receipts follow each other if and only if they tile the interval and name their
predecessors. -/
theorem followReceipts_iff {materials : List ReceiptMaterial} (grow : ∀ m ∈ materials, m.start < m.finish)
    {cursor final : Instant} {last : Option String} :
    followReceipts cursor last materials = .ok final
      ↔ Tiles ReceiptMaterial.start ReceiptMaterial.finish cursor materials final
        ∧ materials.Pairwise (fun a b => a.version < b.version)
        ∧ ∀ v ∈ last, ∀ m ∈ materials, v < m.version := by
  induction materials generalizing cursor last with
  | nil => simp [followReceipts, Tiles]
  | cons material rest ih =>
    have growRest : ∀ m ∈ rest, m.start < m.finish := fun m inRest => grow m (List.mem_cons_of_mem _ inRest)
    constructor
    · intro success
      obtain ⟨-, success⟩ := require_bind success
      obtain ⟨atCursor, success⟩ := require_bind success
      obtain ⟨newer, success⟩ := require_bind success
      obtain ⟨tiles, rising, after⟩ := (ih growRest).mp success
      have later : ∀ m ∈ rest, material.version < m.version := after _ rfl
      refine ⟨⟨by simpa using atCursor, grow material List.mem_cons_self, tiles⟩,
        .cons later rising, ?_⟩
      intro v isLast m member
      rw [Option.mem_def] at isLast
      subst isLast
      have first : v < material.version := by simpa using newer
      rcases List.mem_cons.mp member with rfl | inRest
      · exact first
      · exact first.trans (later m inRest)
    · rintro ⟨⟨atCursor, -, tiles⟩, rising, after⟩
      obtain ⟨later, rising⟩ := List.pairwise_cons.mp rising
      have newer : (last.all fun v => decide (v < material.version)) = true := by
        cases last with
        | none => rfl
        | some v => simpa using after v rfl material List.mem_cons_self
      rw [followReceipts, require_bind_of (by simp [atCursor]), require_bind_of (by simp [atCursor]),
        require_bind_of newer]
      refine (ih growRest).mpr ⟨tiles, rising, ?_⟩
      rintro v ⟨⟩ m inRest
      exact later m inRest

/-! ## Acceptance -/

/-- Receipts of one interval are identical, different intervals share no time, together
they fill the cutover, and the versions follow the intervals. -/
structure IsExactCover (start finish : Instant) (materials : List ReceiptMaterial) : Prop where
  identical : ∀ a ∈ materials, ∀ b ∈ materials, a.logicalId = b.logicalId → a.serialized = b.serialized
  apart : ∀ a ∈ materials, ∀ b ∈ materials, a.logicalId ≠ b.logicalId →
    Apart ReceiptMaterial.start ReceiptMaterial.finish a b
  fills : ∀ t, (∃ m ∈ materials, Covers ReceiptMaterial.start ReceiptMaterial.finish m t)
    ↔ start ≤ t ∧ t < finish
  rising : ∀ a ∈ materials, ∀ b ∈ materials, a.start < b.start → a.version < b.version

theorem perm_sortedReceipts (kept : List ReceiptMaterial) : (sortedReceipts kept).Perm kept :=
  List.perm_insertionSort _ _

theorem sortedReceipts_starts (kept : List ReceiptMaterial) :
    (sortedReceipts kept).Pairwise fun a b => a.start ≤ b.start := by
  have lexicographic : ∀ a b : ReceiptMaterial,
      a.start < b.start ∨ (a.start = b.start ∧ a.finish ≤ b.finish)
        ↔ toLex (a.start, a.finish) ≤ toLex (b.start, b.finish) := by
    intro a b
    rw [Prod.Lex.toLex_le_toLex]
  have total : Std.Total fun a b : ReceiptMaterial =>
      a.start < b.start ∨ (a.start = b.start ∧ a.finish ≤ b.finish) := by
    simp only [lexicographic]
    exact ⟨fun a b => le_total _ _⟩
  have trans : IsTrans ReceiptMaterial fun a b =>
      a.start < b.start ∨ (a.start = b.start ∧ a.finish ≤ b.finish) := by
    simp only [lexicographic]
    exact ⟨fun a b c => le_trans⟩
  refine (List.pairwise_insertionSort (fun a b : ReceiptMaterial =>
      a.start < b.start ∨ (a.start = b.start ∧ a.finish ≤ b.finish)) kept).imp ?_
  rintro a b (before | same)
  · exact before.le
  · exact same.1.le

section Accept
variable {sha256 : List Char → String}

theorem read_materials {ledgerPath scope : String} {entries : List (Value × Value)}
    {materials : List ReceiptMaterial}
    (read : entries.mapM (readReceipt sha256 ledgerPath scope) = .ok materials) :
    ∀ m ∈ materials, ∃ source, ReadAs sha256 scope m source := by
  intro m member
  have paired := (mapM_ok read).flip
  obtain ⟨entry, -, success⟩ := forall₂_exists paired member
  exact readReceipt_ok success

/-- A sorted batch that is followed to the end of the cutover is an exact cover. -/
theorem cover_of_followed {cutover : Cutover} {scope : String} {materials : List ReceiptMaterial}
    {batch : Batch} (taken : Taken cutover materials batch)
    (readAs : ∀ m ∈ materials, ∃ source, ReadAs sha256 scope m source)
    (tiles : Tiles ReceiptMaterial.start ReceiptMaterial.finish cutover.start
      (sortedReceipts batch.kept) cutover.finish)
    (rising : (sortedReceipts batch.kept).Pairwise fun a b => a.version < b.version) :
    IsExactCover cutover.start cutover.finish materials := by
  have inSorted : ∀ {k}, k ∈ batch.kept ↔ k ∈ sortedReceipts batch.kept := by
    intro k
    exact (perm_sortedReceipts batch.kept).mem_iff.symm
  -- Every receipt has the times and the version of the kept receipt of its interval.
  have kept : ∀ m ∈ materials, ∃ k ∈ sortedReceipts batch.kept, k.logicalId = m.logicalId
      ∧ k.serialized = m.serialized ∧ k.start = m.start ∧ k.finish = m.finish ∧ k.version = m.version := by
    intro m member
    obtain ⟨k, isKept, sameId, same⟩ := taken.represented m member
    obtain ⟨sourceK, readK⟩ := readAs k (taken.kept k isKept)
    obtain ⟨sourceM, readM⟩ := readAs m member
    obtain ⟨starts, finishes, versions, -⟩ := serialized_determines readK readM same
    exact ⟨k, inSorted.mp isKept, sameId, same, starts, finishes, versions⟩
  have follow := tiles.pairwise.and rising
  refine ⟨?_, ?_, ?_, ?_⟩
  · intro a isA b isB sameId
    obtain ⟨k, isK, idK, sameK, -⟩ := kept a isA
    obtain ⟨l, isL, idL, sameL, -⟩ := kept b isB
    obtain rfl : k = l := List.inj_on_of_nodup_map taken.distinct (inSorted.mpr isK) (inSorted.mpr isL)
      (idK.trans (sameId.trans idL.symm))
    exact sameK.symm.trans sameL
  · intro a isA b isB different
    obtain ⟨k, isK, idK, -, startK, finishK, -⟩ := kept a isA
    obtain ⟨l, isL, idL, -, startL, finishL, -⟩ := kept b isB
    have apart : k ≠ l := by
      rintro rfl
      exact different (idK.symm.trans idL)
    rw [Apart, ← startK, ← finishK, ← startL, ← finishL]
    exact (either_order follow isK isL apart).imp And.left And.left
  · intro t
    rw [← tiles.covers_iff t]
    constructor
    · rintro ⟨m, member, inside⟩
      obtain ⟨k, isK, -, -, startK, finishK, -⟩ := kept m member
      exact ⟨k, isK, by rwa [Covers, startK, finishK]⟩
    · rintro ⟨k, isK, inside⟩
      exact ⟨k, taken.kept k (inSorted.mpr isK), inside⟩
  · intro a isA b isB before
    obtain ⟨k, isK, -, -, startK, finishK, versionK⟩ := kept a isA
    obtain ⟨l, isL, -, -, startL, finishL, versionL⟩ := kept b isB
    have apart : k ≠ l := by
      rintro rfl
      rw [← startK, ← startL] at before
      exact lt_irrefl _ before
    rw [← versionK, ← versionL]
    rcases either_order follow isK isL apart with inOrder | inverse
    · exact inOrder.2
    · have grows := (tiles.starts_after l isL).2.1
      rw [← startK, ← startL] at before
      exact absurd (before.trans grows) (not_lt.mpr inverse.1)

/-- The receipts of an exact cover are taken, and their sorted intervals tile the cutover. -/
theorem followed_of_cover {cutover : Cutover} {materials : List ReceiptMaterial} {batch : Batch}
    (taken : Taken cutover materials batch) (order : cutover.start ≤ cutover.finish)
    (grow : ∀ m ∈ materials, m.start < m.finish)
    (covered : ∀ t, (∃ k ∈ batch.kept, Covers ReceiptMaterial.start ReceiptMaterial.finish k t)
      ↔ cutover.start ≤ t ∧ t < cutover.finish)
    (cover : IsExactCover cutover.start cutover.finish materials) :
    followReceipts cutover.start none (sortedReceipts batch.kept) = .ok cutover.finish := by
  have inKept : ∀ {k}, k ∈ sortedReceipts batch.kept ↔ k ∈ batch.kept := by
    intro k
    exact (perm_sortedReceipts batch.kept).mem_iff
  have growKept : ∀ k ∈ sortedReceipts batch.kept, k.start < k.finish :=
    fun k isK => grow k (taken.kept k (inKept.mp isK))
  have distinct : (sortedReceipts batch.kept).Pairwise fun a b => a.logicalId ≠ b.logicalId :=
    List.pairwise_map.mp (((perm_sortedReceipts batch.kept).map _).nodup_iff.mpr taken.distinct)
  have apart : (sortedReceipts batch.kept).Pairwise
      (Apart ReceiptMaterial.start ReceiptMaterial.finish) := by
    refine distinct.imp_of_mem fun {a b} isA isB different => ?_
    exact cover.apart a (taken.kept a (inKept.mp isA)) b (taken.kept b (inKept.mp isB)) different
  have sorted := sortedReceipts_starts batch.kept
  have follow := ordered_of_apart growKept sorted apart
  refine (followReceipts_iff growKept).mpr ⟨?_, ?_, by rintro v ⟨⟩⟩
  · refine (tiles_iff order growKept sorted).mpr ⟨apart, fun t => ?_⟩
    simp only [inKept]
    exact covered t
  · refine follow.imp_of_mem fun {a b} isA isB before => ?_
    exact cover.rising a (taken.kept a (inKept.mp isA)) b (taken.kept b (inKept.mp isB))
      ((growKept a isA).trans_le before)

/-- The documents of a preview can be written, since they are built from texts. -/
theorem writes_texts {d : Document} (texts : ∀ e ∈ d.items, ∃ text, e.2.json = .ok text) :
    ∃ text, (Value.dict d).json = .ok text := by
  have written : ∀ entries : List (String × Value), (∀ e ∈ entries, ∃ text, e.2.json = .ok text) →
      ∃ parts, entries.mapM memberText = .ok parts := by
    intro entries
    induction entries with
    | nil => exact fun _ => ⟨[], rfl⟩
    | cons entry rest ih =>
      intro each
      obtain ⟨text, shown⟩ := each entry List.mem_cons_self
      obtain ⟨parts, others⟩ := ih fun e inRest => each e (List.mem_cons_of_mem _ inRest)
      refine ⟨(jsonText entry.1 ++ ':' :: text) :: parts, ?_⟩
      rw [List.mapM_cons, others, memberText, shown]
      rfl
  obtain ⟨parts, shown⟩ := written (sortedItems d) fun e member =>
    texts e ((perm_sortedItems d).mem_iff.mp member)
  exact ⟨_, by rw [json_dict, shown]; rfl⟩

/-- The receipt and its preview can be written. -/
theorem previewRecord_text (cutover : Cutover) {scope : String} {m : ReceiptMaterial} {source : Document}
    (readAs : ReadAs sha256 scope m source) :
    (∃ text, receiptJson (.dict m.payload) = .ok text)
      ∧ ∃ text, receiptJson (previewRecord cutover m) = .ok text := by
  obtain ⟨payload, -, -, shape, -, -⟩ := readAs.text
  have payloadText := json_textObject shape
  have written : ∀ {v : Value} {text : List Char}, v.json = .ok text → receiptJson v = .ok text := by
    intro v text shown
    rw [receiptJson, shown]
  obtain ⟨result, resultText⟩ := writes_texts (d := ⟨[("external_cash_flow_interval", .dict m.payload)]⟩)
    (by simpa [Dict.items, Dict.dedupe] using ⟨_, payloadText⟩)
  obtain ⟨record, recordText⟩ := writes_texts
    (d := ⟨[("strategy_profile", .str cutover.strategyProfile), ("domain", .str "crypto"),
      ("record_kind", .str "execution"), ("recorded_at", .str (DateTime.isoformat m.finish)),
      ("lifecycle_stream_id", .str cutover.lifecycleStreamId),
      ("execution_result", .dict ⟨[("external_cash_flow_interval", .dict m.payload)]⟩)]⟩)
    (by simpa [Dict.items, Dict.dedupe, Value.json] using ⟨_, resultText⟩)
  exact ⟨⟨_, written payloadText⟩, ⟨record, written recordText⟩⟩

/-- Everything a returned preview is made of. -/
structure Prepared (sha256 : List Char → String) (request : PreviewRequest) (entries : List (Value × Value))
    (preview : IntervalReceiptPreview) (cutover : Cutover) (materials : List ReceiptMaterial)
    (batch : Batch) : Prop where
  header : readRequest request entries.length = .ok cutover
  read : entries.mapM (readReceipt sha256 cutover.ledgerPath cutover.scope) = .ok materials
  taken : Taken cutover materials batch
  followed : followReceipts cutover.start none (sortedReceipts batch.kept) = .ok cutover.finish
  records : (sortedReceipts batch.kept).mapM (fun m => receiptJson (previewRecord cutover m))
    = .ok preview.recordsJson
  digests : (sortedReceipts batch.kept).mapM (fun m => receiptDigest sha256 (.dict m.payload))
    = .ok preview.payloadSha256s
  ids : preview.intervalIds = (sortedReceipts batch.kept).map ReceiptMaterial.logicalId
  counts : preview.inputCount = entries.length ∧ preview.duplicateCount = batch.duplicates

/-- What a preview that returns has checked. -/
theorem preview_ok {request : PreviewRequest} {entries : List (Value × Value)}
    {preview : IntervalReceiptPreview}
    (success : prepareRetainedIntervalPreview sha256 request entries = .ok preview) :
    ∃ cutover materials batch, Prepared sha256 request entries preview cutover materials batch := by
  unfold prepareRetainedIntervalPreview at success
  split at success
  case h_1 found prepared =>
    cases success
    obtain ⟨cutover, header, rest⟩ := bind_ok prepared
    obtain ⟨batch, looped, rest⟩ := bind_ok rest
    obtain ⟨cursor, followed, rest⟩ := bind_ok rest
    obtain ⟨atEnd, rest⟩ := require_bind rest
    obtain ⟨records, recorded, rest⟩ := bind_ok rest
    obtain ⟨digests, digested, rest⟩ := bind_ok rest
    cases rest
    obtain ⟨materials, read, folded⟩ := foldlM_read_ok.mp looped
    rw [decide_eq_true_eq] at atEnd
    exact ⟨cutover, materials, batch, header, read, by simpa using takeReceipts_ok (taken_empty cutover) folded,
      atEnd ▸ followed, recorded, digested, rfl, rfl, rfl⟩
  all_goals cases success

theorem readRequest_order {request : PreviewRequest} {count : ℕ} {cutover : Cutover}
    (success : readRequest request count = .ok cutover) : cutover.start < cutover.finish := by
  obtain ⟨maxReceipts, -, success⟩ := bind_ok success
  obtain ⟨maxBytes, -, success⟩ := bind_ok success
  obtain ⟨-, success⟩ := require_bind success
  obtain ⟨path, -, success⟩ := bind_ok success
  obtain ⟨-, success⟩ := require_bind success
  obtain ⟨start, -, success⟩ := bind_ok success
  obtain ⟨finish, -, success⟩ := bind_ok success
  obtain ⟨order, success⟩ := require_bind success
  cases success
  simpa using order

/-- The number of receipts decides only whether the request is refused. -/
theorem readRequest_unique {request : PreviewRequest} {m n : ℕ} {a b : Cutover}
    (first : readRequest request m = .ok a) (second : readRequest request n = .ok b) : a = b := by
  obtain ⟨maxReceipts, limit, first⟩ := bind_ok first
  obtain ⟨maxBytes, bytes, first⟩ := bind_ok first
  obtain ⟨-, first⟩ := require_bind first
  obtain ⟨otherReceipts, otherLimit, second⟩ := bind_ok second
  obtain ⟨otherBytes, alsoBytes, second⟩ := bind_ok second
  obtain ⟨-, second⟩ := require_bind second
  obtain rfl : maxReceipts = otherReceipts := Except.ok.inj (limit.symm.trans otherLimit)
  obtain rfl : maxBytes = otherBytes := Except.ok.inj (bytes.symm.trans alsoBytes)
  exact Except.ok.inj (first.symm.trans second)

theorem prepared_grow {request : PreviewRequest} {entries : List (Value × Value)}
    {preview : IntervalReceiptPreview} {cutover : Cutover} {materials : List ReceiptMaterial} {batch : Batch}
    (prepared : Prepared sha256 request entries preview cutover materials batch) :
    ∀ k ∈ sortedReceipts batch.kept, k.start < k.finish := by
  intro k isK
  have member := prepared.taken.kept k ((perm_sortedReceipts batch.kept).mem_iff.mp isK)
  obtain ⟨source, readAs⟩ := read_materials prepared.read k member
  exact readAs.grows

/-- The materials of a prepared batch cover its interval without a gap or an overlap. -/
theorem prepared_cover {request : PreviewRequest} {entries : List (Value × Value)}
    {preview : IntervalReceiptPreview} {cutover : Cutover} {materials : List ReceiptMaterial} {batch : Batch}
    (prepared : Prepared sha256 request entries preview cutover materials batch) :
    IsExactCover cutover.start cutover.finish materials := by
  obtain ⟨tiles, rising, -⟩ := (followReceipts_iff (prepared_grow prepared)).mp prepared.followed
  exact cover_of_followed prepared.taken (read_materials prepared.read) tiles rising

/-- An exact cover within the limits is accepted. -/
theorem preview_of_cover {request : PreviewRequest} {entries : List (Value × Value)}
    {cutover : Cutover} {materials : List ReceiptMaterial}
    (header : readRequest request entries.length = .ok cutover)
    (read : entries.mapM (readReceipt sha256 cutover.ledgerPath cutover.scope) = .ok materials)
    (bytes : (materials.map ReceiptMaterial.encodedBytes).sum ≤ cutover.maxBytes)
    (cover : IsExactCover cutover.start cutover.finish materials) :
    ∃ preview, prepareRetainedIntervalPreview sha256 request entries = .ok preview := by
  have readAs := read_materials read
  have grow : ∀ m ∈ materials, m.start < m.finish := by
    intro m member
    obtain ⟨source, shown⟩ := readAs m member
    exact shown.grows
  have inside : ∀ m ∈ materials, cutover.start ≤ m.start ∧ m.finish ≤ cutover.finish := by
    intro m member
    have first := (cover.fills m.start).mp ⟨m, member, le_rfl, grow m member⟩
    have last := (cover.fills (m.finish - 1)).mp
      ⟨m, member, Int.le_sub_one_of_lt (grow m member), Int.sub_one_lt_of_le le_rfl⟩
    exact ⟨first.1, Int.le_of_sub_one_lt last.2⟩
  have takeable : Takeable cutover ([] ++ materials) :=
    ⟨bytes, inside, grow, cover.identical, cover.apart⟩
  obtain ⟨batch, looped⟩ := takeReceipts_returns (taken_empty cutover) takeable
  have taken : Taken cutover materials batch := by
    simpa using takeReceipts_ok (taken_empty cutover) looped
  have covered : ∀ t, (∃ k ∈ batch.kept, Covers ReceiptMaterial.start ReceiptMaterial.finish k t)
      ↔ cutover.start ≤ t ∧ t < cutover.finish := by
    intro t
    rw [← cover.fills t]
    constructor
    · rintro ⟨k, isK, within⟩
      exact ⟨k, taken.kept k isK, within⟩
    · rintro ⟨m, member, within⟩
      obtain ⟨k, isK, -, same⟩ := taken.represented m member
      obtain ⟨sourceK, readK⟩ := readAs k (taken.kept k isK)
      obtain ⟨sourceM, readM⟩ := readAs m member
      obtain ⟨starts, finishes, -, -⟩ := serialized_determines readK readM same
      exact ⟨k, isK, by rwa [Covers, starts, finishes]⟩
  have followed := followed_of_cover taken (readRequest_order header).le grow covered cover
  -- The records and digests of kept receipts can all be written.
  have texts : ∀ ks : List ReceiptMaterial, (∀ k ∈ ks, k ∈ materials) →
      (∃ records, ks.mapM (fun m => receiptJson (previewRecord cutover m)) = .ok records)
        ∧ ∃ digests, ks.mapM (fun m => receiptDigest sha256 (.dict m.payload)) = .ok digests := by
    intro ks
    induction ks with
    | nil => exact fun _ => ⟨⟨[], rfl⟩, ⟨[], rfl⟩⟩
    | cons k rest ih =>
      intro each
      obtain ⟨source, shown⟩ := readAs k (each k List.mem_cons_self)
      obtain ⟨⟨payload, payloadText⟩, ⟨record, recordText⟩⟩ := previewRecord_text cutover shown
      obtain ⟨⟨records, recorded⟩, ⟨digests, digested⟩⟩ := ih fun m inRest => each m (List.mem_cons_of_mem _ inRest)
      refine ⟨⟨record :: records, ?_⟩, ⟨sha256 payload :: digests, ?_⟩⟩
      · rw [List.mapM_cons, recordText, recorded]
        rfl
      · rw [List.mapM_cons, receiptDigest, payloadText, digested]
        rfl
  obtain ⟨⟨records, recorded⟩, ⟨digests, digested⟩⟩ := texts (sortedReceipts batch.kept) fun k isK =>
    taken.kept k ((perm_sortedReceipts batch.kept).mem_iff.mp isK)
  refine ⟨⟨records, (sortedReceipts batch.kept).map ReceiptMaterial.logicalId, digests, entries.length,
    batch.duplicates, batch.totalBytes⟩, ?_⟩
  have prepared : prepare sha256 request entries = .ok ⟨records,
      (sortedReceipts batch.kept).map ReceiptMaterial.logicalId, digests, entries.length,
      batch.duplicates, batch.totalBytes⟩ := by
    rw [prepare, header]
    change (entries.foldlM (fun batch entry => readReceipt sha256 cutover.ledgerPath cutover.scope entry
      >>= takeReceipt cutover batch) Batch.empty >>= _) = _
    rw [foldlM_read_ok.mpr ⟨materials, read, looped⟩]
    change (followReceipts cutover.start none (sortedReceipts batch.kept) >>= _) = _
    rw [followed]
    change (require (decide (cutover.finish = cutover.finish)) _ >>= _) = _
    rw [require_bind_of (by simp), recorded]
    change (List.mapM (fun m => receiptDigest sha256 (.dict m.payload)) (sortedReceipts batch.kept) >>= _) = _
    rw [digested]
    rfl
  rw [prepareRetainedIntervalPreview, prepared]

/-! ## What a preview depends on -/

/-- What the preview lists of a kept receipt, under its start. -/
def listing (sha256 : List Char → String) (cutover : Cutover) (m : ReceiptMaterial) :
    Instant × String × Except ReceiptError (List Char) × Except ReceiptError String :=
  (m.start, m.logicalId, receiptJson (previewRecord cutover m), receiptDigest sha256 (.dict m.payload))

/-- The listing reads four fields of a receipt. -/
theorem listing_congr {cutover : Cutover} {a b : ReceiptMaterial} (starts : a.start = b.start)
    (finishes : a.finish = b.finish) (ids : a.logicalId = b.logicalId)
    (payloads : (Value.dict a.payload).json = (Value.dict b.payload).json) :
    listing sha256 cutover a = listing sha256 cutover b := by
  have digests : receiptDigest sha256 (.dict a.payload) = receiptDigest sha256 (.dict b.payload) := by
    rw [receiptDigest, receiptDigest, receiptJson, receiptJson, payloads]
  have records : (previewRecord cutover a).json = (previewRecord cutover b).json := by
    simp only [Value.json] at payloads
    simp only [previewRecord, Value.json, Value.jsonDict, Value.jsonEntries, Value.jsonEntry, payloads,
      finishes]
  rw [listing, listing, starts, ids, digests, receiptJson, receiptJson, records]

/-- Every kept receipt of one batch has a kept receipt with the same listing in a batch
of the same receipts. -/
theorem listing_mem {request : PreviewRequest} {entries others : List (Value × Value)}
    {preview otherPreview : IntervalReceiptPreview} {cutover : Cutover}
    {materials otherMaterials : List ReceiptMaterial} {batch otherBatch : Batch}
    (prepared : Prepared sha256 request entries preview cutover materials batch)
    (again : Prepared sha256 request others otherPreview cutover otherMaterials otherBatch)
    (supplied : ∀ e ∈ entries, e ∈ others) {x}
    (member : x ∈ (sortedReceipts batch.kept).map (listing sha256 cutover)) :
    x ∈ (sortedReceipts otherBatch.kept).map (listing sha256 cutover) := by
  obtain ⟨m, isM, rfl⟩ := List.mem_map.mp member
  have isRead := prepared.taken.kept m ((perm_sortedReceipts batch.kept).mem_iff.mp isM)
  obtain ⟨entry, isEntry, success⟩ := forall₂_exists (mapM_ok prepared.read).flip isRead
  obtain ⟨m', isM', success'⟩ := forall₂_exists (mapM_ok again.read) (supplied entry isEntry)
  obtain rfl : m = m' := Except.ok.inj (success.symm.trans success')
  obtain ⟨k, isK, sameId, same⟩ := again.taken.represented m isM'
  obtain ⟨sourceK, readK⟩ := read_materials again.read k (again.taken.kept k isK)
  obtain ⟨sourceM, readM⟩ := read_materials again.read m isM'
  obtain ⟨starts, finishes, -, payloads⟩ := serialized_determines readK readM same
  rw [← listing_congr starts finishes sameId payloads]
  exact List.mem_map_of_mem ((perm_sortedReceipts otherBatch.kept).mem_iff.mpr isK)

/-- The listed intervals rise strictly. -/
theorem listing_rising {request : PreviewRequest} {entries : List (Value × Value)}
    {preview : IntervalReceiptPreview} {cutover : Cutover} {materials : List ReceiptMaterial} {batch : Batch}
    (prepared : Prepared sha256 request entries preview cutover materials batch) :
    ((sortedReceipts batch.kept).map (listing sha256 cutover)).Pairwise fun a b => a.1 < b.1 := by
  have grow := prepared_grow prepared
  obtain ⟨tiles, -, -⟩ := (followReceipts_iff grow).mp prepared.followed
  rw [List.pairwise_map]
  exact tiles.pairwise.imp_of_mem fun {a b} isA _ before => (grow a isA).trans_le before

/-- The listing of a preview depends on which entries are supplied, not on their order. -/
theorem preview_listing_eq {request : PreviewRequest} {entries others : List (Value × Value)}
    {preview otherPreview : IntervalReceiptPreview}
    (success : prepareRetainedIntervalPreview sha256 request entries = .ok preview)
    (again : prepareRetainedIntervalPreview sha256 request others = .ok otherPreview)
    (supplied : ∀ e, e ∈ entries ↔ e ∈ others) :
    preview.recordsJson = otherPreview.recordsJson ∧ preview.intervalIds = otherPreview.intervalIds
      ∧ preview.payloadSha256s = otherPreview.payloadSha256s := by
  obtain ⟨cutover, materials, batch, prepared⟩ := preview_ok success
  obtain ⟨otherCutover, otherMaterials, otherBatch, preparedAgain⟩ := preview_ok again
  obtain rfl : cutover = otherCutover := readRequest_unique prepared.header preparedAgain.header
  have irrefl : Std.Irrefl fun a b : Instant × String × Except ReceiptError (List Char)
      × Except ReceiptError String => a.1 < b.1 := ⟨fun a => lt_irrefl a.1⟩
  have antisymm : Std.Antisymm fun a b : Instant × String × Except ReceiptError (List Char)
      × Except ReceiptError String => a.1 < b.1 :=
    ⟨fun a b before after => absurd (before.trans after) (lt_irrefl a.1)⟩
  have same : (sortedReceipts batch.kept).map (listing sha256 cutover)
      = (sortedReceipts otherBatch.kept).map (listing sha256 cutover) :=
    List.Pairwise.eq_of_mem_iff (listing_rising prepared) (listing_rising preparedAgain) fun x =>
      ⟨listing_mem prepared preparedAgain fun e => (supplied e).mp,
        listing_mem preparedAgain prepared fun e => (supplied e).mpr⟩
  have part : ∀ {γ : Type} (f : Instant × String × Except ReceiptError (List Char)
      × Except ReceiptError String → γ) (g : ReceiptMaterial → γ), (∀ m, f (listing sha256 cutover m) = g m) →
        (sortedReceipts batch.kept).map g = (sortedReceipts otherBatch.kept).map g := by
    intro γ f g reads
    obtain rfl : f ∘ listing sha256 cutover = g := funext reads
    rw [← List.map_map, ← List.map_map, same]
  refine ⟨?_, ?_, ?_⟩
  · have records := mapM_congr_map (part (fun x => x.2.2.1)
      (fun m => receiptJson (previewRecord cutover m)) fun m => by rw [listing])
    rw [prepared.records, preparedAgain.records] at records
    exact Except.ok.inj records
  · rw [prepared.ids, preparedAgain.ids]
    exact part (fun x => x.2.1) ReceiptMaterial.logicalId fun m => by rw [listing]
  · have digests := mapM_congr_map (part (fun x => x.2.2.2)
      (fun m => receiptDigest sha256 (.dict m.payload)) fun m => by rw [listing])
    rw [prepared.digests, preparedAgain.digests] at digests
    exact Except.ok.inj digests

/-- What is kept is one receipt of each interval. -/
theorem prepared_kept {request : PreviewRequest} {entries : List (Value × Value)}
    {preview : IntervalReceiptPreview} {cutover : Cutover} {materials : List ReceiptMaterial} {batch : Batch}
    (prepared : Prepared sha256 request entries preview cutover materials batch) :
    (batch.kept.map ReceiptMaterial.logicalId).Perm (materials.map ReceiptMaterial.logicalId).dedup := by
  refine (List.perm_ext_iff_of_nodup prepared.taken.distinct (List.nodup_dedup _)).mpr fun id => ?_
  rw [List.mem_dedup]
  constructor
  · intro isKept
    obtain ⟨k, member, rfl⟩ := List.mem_map.mp isKept
    exact List.mem_map_of_mem (prepared.taken.kept k member)
  · intro isRead
    obtain ⟨m, member, rfl⟩ := List.mem_map.mp isRead
    obtain ⟨k, isKept, sameId, -⟩ := prepared.taken.represented m member
    exact List.mem_map.mpr ⟨k, isKept, sameId⟩

/-- The preview lists the identities of the receipts read, each once. -/
theorem prepared_listed {request : PreviewRequest} {entries : List (Value × Value)}
    {preview : IntervalReceiptPreview} {cutover : Cutover} {materials : List ReceiptMaterial} {batch : Batch}
    (prepared : Prepared sha256 request entries preview cutover materials batch) :
    preview.intervalIds.Perm (materials.map ReceiptMaterial.logicalId).dedup := by
  rw [prepared.ids]
  exact ((perm_sortedReceipts batch.kept).map ReceiptMaterial.logicalId).trans (prepared_kept prepared)

/-- The distinct identities and the duplicates make up all entries. -/
theorem prepared_count {request : PreviewRequest} {entries : List (Value × Value)}
    {preview : IntervalReceiptPreview} {cutover : Cutover} {materials : List ReceiptMaterial} {batch : Batch}
    (prepared : Prepared sha256 request entries preview cutover materials batch) :
    (materials.map ReceiptMaterial.logicalId).dedup.length + preview.duplicateCount = entries.length := by
  have same := prepared_kept prepared
  have lengths := (mapM_ok prepared.read).length_eq
  have count := prepared.taken.count
  rw [← same.length_eq, List.length_map, prepared.counts.2]
  omega

/-- Acceptance is exact cover; a preview lists each distinct interval once and counts the
other receipts as duplicates, and its listing is the same whatever the order and
multiplicity of the receipts. -/
theorem accepted_iff_exact_cover (sha256 : List Char → String) (request : PreviewRequest)
    (entries : List (Value × Value)) :
    ((∃ preview, prepareRetainedIntervalPreview sha256 request entries = .ok preview)
      ↔ ∃ cutover materials, readRequest request entries.length = .ok cutover
        ∧ entries.mapM (readReceipt sha256 cutover.ledgerPath cutover.scope) = .ok materials
        ∧ (materials.map ReceiptMaterial.encodedBytes).sum ≤ cutover.maxBytes
        ∧ IsExactCover cutover.start cutover.finish materials)
    ∧ ∀ preview, prepareRetainedIntervalPreview sha256 request entries = .ok preview →
      (∀ cutover materials, readRequest request entries.length = .ok cutover →
        entries.mapM (readReceipt sha256 cutover.ledgerPath cutover.scope) = .ok materials →
        preview.intervalIds.Perm (materials.map ReceiptMaterial.logicalId).dedup
          ∧ (materials.map ReceiptMaterial.logicalId).dedup.length + preview.duplicateCount = entries.length)
      ∧ ∀ others otherPreview, (∀ e, e ∈ entries ↔ e ∈ others) →
        prepareRetainedIntervalPreview sha256 request others = .ok otherPreview →
        preview.recordsJson = otherPreview.recordsJson ∧ preview.intervalIds = otherPreview.intervalIds
          ∧ preview.payloadSha256s = otherPreview.payloadSha256s := by
  refine ⟨⟨?_, ?_⟩, ?_⟩
  · rintro ⟨preview, success⟩
    obtain ⟨cutover, materials, batch, prepared⟩ := preview_ok success
    exact ⟨cutover, materials, prepared.header, prepared.read,
      prepared.taken.bytes ▸ prepared.taken.limit, prepared_cover prepared⟩
  · rintro ⟨cutover, materials, header, read, bytes, cover⟩
    exact preview_of_cover header read bytes cover
  · intro preview success
    refine ⟨?_, fun others otherPreview supplied again => preview_listing_eq success again supplied⟩
    intro cutover materials header read
    obtain ⟨cutover', materials', batch, prepared⟩ := preview_ok success
    obtain rfl : cutover = cutover' := readRequest_unique header prepared.header
    obtain rfl : materials = materials' := Except.ok.inj (read.symm.trans prepared.read)
    exact ⟨prepared_listed prepared, prepared_count prepared⟩

end Accept

/-! A receipt of one day, supplied twice. -/

def coveredScope : String := String.ofList (List.replicate 64 'a')

def coveredDay : Document :=
  ⟨[("account_scope_sha256", .str coveredScope), ("start_at", .str "2026-11-03T00:00:00+00:00"),
    ("end_at", .str "2026-11-04T00:00:00+00:00"), ("end_equity_usdt", .str "100"),
    ("net_external_cash_flow", .str "0"), ("currency", .str "USDT"), ("valuation_basis", .str valuationBasis)]⟩

def coveredReceipt : Value × Value :=
  (.str (receiptPath "ledgers/main" "d"),
    .dict ⟨[("schema_version", .str receiptSchema), ("interval", .dict coveredDay), ("interval_id_sha256", .str "d"),
      ("payload_sha256", .str "d"),
      ("source", .dict ⟨[("ledger_path", .str "ledgers/main"),
        ("ledger_before_version", .str "2026-11-04T00:00:01.000000000Z"), ("ledger_before_sha256", .str coveredScope),
        ("ledger_after_sha256", .str coveredScope), ("patch_sha256", .str coveredScope)]⟩)]⟩)

def coveredRequest : PreviewRequest where
  ledgerPath := .str "ledgers/main"
  accountScope := .str coveredScope
  cutoverStartAt := .str "2026-11-03T00:00:00+00:00"
  cutoverEndAt := .str "2026-11-04T00:00:00+00:00"
  strategyProfile := .str "trend"
  lifecycleStreamId := .str "main"
  maxReceipts := .int 10
  maxBytes := .int 100000

example : (prepareRetainedIntervalPreview (fun _ => "d") coveredRequest [coveredReceipt, coveredReceipt]).toOption.map
    (fun preview => (preview.intervalIds, preview.inputCount, preview.duplicateCount)) = some (["d"], 2, 1) := by
  decide +kernel

end BinancePlatform.Guarantees.ExactCover
