import BinancePlatform.Source.IntervalWriter
import BinancePlatform.Source.JsonRoundTrip
import BinancePlatform.Source.TimeText

/-!
# Built receipt plans

`build_interval_receipt_plan` requires a mapping of assets in the previous checkpoint
only, `_validate_plan` in the next one. What is built from a next checkpoint whose
assets are a mapping is validated, and gives the patch and the payload back; a list or
a text of the same asset names is built and then refused.

* The version of a plan is read back as its time (`receiptTime_version`,
  `isVersion_version`).
* What the builder has checked (`built_ok`), and that the validator finds it in the written
  document (`checkPlan_built`).
* A validated plan has a mapping of assets (`assetsMapping_of_checkPlan`), which gives the
  equivalence (`built_plan_validates_iff`); `listed_assets_refused` is a plan outside it.

The digest is a parameter that gives hexadecimal texts.
-/

set_option autoImplicit false

namespace BinancePlatform.Guarantees.ReceiptPlans
open BinancePlatform.Library BinancePlatform.Source

/-! ## The version of the ledger -/

section Version
open DateTime

/-- The update time without the fraction of its second. -/
def second (t : UpdateTime) : Instant := t.instant / 1000000 * 1000000

theorem second_representable (t : UpdateTime) : Representable (second t) := by
  have lower := t.lower
  have upper := t.upper
  have low : (-62135596800000000 : ℤ) ≤ t.nanos / 1000 / 1000000 * 1000000 := by omega
  have high : t.nanos / 1000 / 1000000 * 1000000 < (253402300800000000 : ℤ) := by omega
  exact ⟨minInstant_eq.trans_le low, high.trans_eq endInstant_eq.symm⟩

theorem second_whole (t : UpdateTime) : (second t % dayMicros).toNat % 1000000 = 0 := by
  unfold second dayMicros
  omega

theorem second_microsecond (t : UpdateTime) : (clockOf (second t)).microsecond = 0 := second_whole t

theorem version_toList (t : UpdateTime) : t.version.toList = dateText (dateOf (second t)) ++
    ('T' :: (clockText (clockOf (second t)) ++ ('.' :: padded 9 (t.nanos % 1000000000).toNat ++ ['Z']))) := by
  have day : dayOf (second t) = dayOf t.instant := by
    unfold dayOf second dayMicros
    omega
  have date : dateOf (second t) = dateOf t.instant := by rw [dateOf, dateOf, day]
  have clock : clockText (clockOf (second t))
      = padded 2 (((t.instant % dayMicros) / 1000000).toNat / 3600) ++ ':' ::
        (padded 2 (((t.instant % dayMicros) / 1000000).toNat / 60 % 60) ++ ':' ::
          padded 2 (((t.instant % dayMicros) / 1000000).toNat % 60)) := by
    have seconds : ((second t % dayMicros).toNat / 1000000) = ((t.instant % dayMicros) / 1000000).toNat := by
      unfold second dayMicros
      omega
    simp [clockText, clockOf, seconds, second_whole t]
  rw [UpdateTime.version, String.toList_ofList, date, clock]
  simp

theorem dateOf_valid (t : UpdateTime) : (dateOf (second t)).valid = true :=
  (dateOf_numbered (second_representable t)).valid

theorem clockText_length (t : UpdateTime) : (clockText (clockOf (second t))).length = 8 := by
  have valid := clockOf_valid (second t)
  have hour := valid.hour
  have minute := valid.minute
  have seconds := valid.second
  have two : ∀ n, n ≤ 59 → (padded 2 n).length = 2 := fun n small =>
    length_padded (by omega) (by norm_num)
  simp [clockText, second_microsecond, two _ minute, two _ seconds, two (clockOf (second t)).hour (by omega)]

/-- The first nineteen characters are the date and the time to the second. -/
theorem version_take (t : UpdateTime) : t.version.toList.take 19
    = dateText (dateOf (second t)) ++ ('T' :: clockText (clockOf (second t))) := by
  have date := length_dateText (dateOf_valid t)
  have clock := clockText_length t
  rw [version_toList, ← List.cons_append, ← List.append_assoc, List.take_left']
  simp only [List.length_append, List.length_cons]
  omega

theorem mem_padded {width n : ℕ} (fits : n < 10 ^ width) (positive : 0 < width) :
    ∀ c ∈ padded width n, ∃ d < 10, c = NumberText.digitChar d := by
  obtain ⟨ds, text, -, digits, -⟩ := padded_digits fits positive
  intro c member
  rw [text] at member
  obtain ⟨d, inDigits, rfl⟩ := List.mem_map.mp member
  exact ⟨d, digits d inDigits, rfl⟩

structure DateFits (date : Date) : Prop where
  year : date.year < 10000
  month : date.month < 100
  day : date.day < 100

theorem date_fits {date : Date} (valid : date.valid = true) : DateFits date := by
  simp only [Date.valid, Bool.and_eq_true, decide_eq_true_eq] at valid
  obtain ⟨⟨⟨⟨⟨-, year⟩, -⟩, month⟩, -⟩, day⟩ := valid
  have days : daysInMonth date.year date.month ≤ 31 := by
    unfold daysInMonth
    split_ifs <;> omega
  exact ⟨by omega, by omega, by omega⟩

theorem second_chars (t : UpdateTime) :
    ∀ c ∈ dateText (dateOf (second t)) ++ ('T' :: clockText (clockOf (second t))),
      (∃ d < 10, c = NumberText.digitChar d) ∨ c ∈ ['-', 'T', ':'] := by
  have fits := date_fits (dateOf_valid t)
  have valid := clockOf_valid (second t)
  have hour := valid.hour
  have minute := valid.minute
  have seconds := valid.second
  intro c member
  simp only [dateText, clockText, second_microsecond, if_true, List.append_nil, List.mem_append, List.mem_cons] at member
  rcases member with ((year | rfl | month) | rfl | day) | rfl | hours | rfl | minutes | rfl | secs
  · exact .inl (mem_padded fits.year (by norm_num) c year)
  · exact .inr (by decide)
  · exact .inl (mem_padded fits.month (by norm_num) c month)
  · exact .inr (by decide)
  · exact .inl (mem_padded fits.day (by norm_num) c day)
  · exact .inr (by decide)
  · exact .inl (mem_padded (by omega) (by norm_num) c hours)
  · exact .inr (by decide)
  · exact .inl (mem_padded (by omega) (by norm_num) c minutes)
  · exact .inr (by decide)
  · exact .inl (mem_padded (by omega) (by norm_num) c secs)

theorem second_plain (t : UpdateTime) :
    ∀ c ∈ dateText (dateOf (second t)) ++ ('T' :: clockText (clockOf (second t))),
      c ≠ 'Z' ∧ c ≠ '.' ∧ c ≠ ',' := by
  intro c member
  rcases second_chars t c member with ⟨d, small, rfl⟩ | mark
  · interval_cases d <;> decide
  · simp only [List.mem_cons, List.not_mem_nil, or_false] at mark
    rcases mark with rfl | rfl | rfl <;> decide

/-- The second of a written version is read. -/
theorem receiptTime_version (t : UpdateTime) :
    receiptTime (.str (String.ofList (t.version.toList.take 19 ++ ['Z']))) = .ok (second t) := by
  have date := length_dateText (dateOf_valid t)
  have clock := clockText_length t
  have zulu : zuluReplaced (String.ofList (t.version.toList.take 19 ++ ['Z'])) = isoformat (second t) := by
    apply String.toList_injective
    rw [zuluReplaced]
    simp only [String.toList_ofList]
    have zone : ['Z'].flatMap (fun c => if c = 'Z' then "+00:00".toList else [c]) = utcZone := by decide
    rw [isoformat_text, version_take, List.flatMap_append, ← List.cons_append, ← List.append_assoc, zone]
    refine congrArg (· ++ utcZone) ?_
    refine (List.flatMap_congr fun c member => ?_).trans (List.flatMap_singleton' _)
    rw [if_neg (second_plain t c member).1]
  have short : (String.ofList (t.version.toList.take 19 ++ ['Z'])).length = 20 := by
    rw [String.length_ofList, version_take]
    simp only [List.length_append, List.length_cons, List.length_nil]
    omega
  have coarse : finerThanMicroseconds (t.version.toList.take 19 ++ ['Z']) = false := by
    rw [finerThanMicroseconds, List.any_eq_false]
    intro tail member
    rw [List.mem_tails] at member
    cases tail with
    | nil => simp
    | cons c rest =>
      have inside := member.subset List.mem_cons_self
      rw [version_take, List.mem_append, List.mem_singleton] at inside
      have plain : c ≠ '.' ∧ c ≠ ',' := by
        rcases inside with inText | rfl
        · exact (second_plain t c inText).2
        · decide
      simp [plain.1, plain.2]
  rw [receiptTime, require_bind_of (by rw [short, String.toList_ofList, coarse]; rfl), zulu,
    fromIsoformat_isoformat (second_representable t)]
  exact if_pos (second_representable t)

theorem matchesPattern_digits {ds : List ℕ} (digits : ∀ d ∈ ds, d < 10) (pattern rest : List Char) :
    matchesPattern (List.replicate ds.length 'd' ++ pattern) (NumberText.digitText ds ++ rest)
      = matchesPattern pattern rest := by
  induction ds with
  | nil => rfl
  | cons d ds ih =>
    have first := NumberText.digitOf?_digitChar (digits d List.mem_cons_self)
    have others := ih fun e member => digits e (List.mem_cons_of_mem d member)
    rw [NumberText.digitText] at others ⊢
    rw [List.map_cons, List.length_cons, List.replicate_succ, List.cons_append, List.cons_append,
      matchesPattern, others, first]
    rfl

theorem matchesPattern_padded {width n : ℕ} (fits : n < 10 ^ width) (positive : 0 < width)
    (pattern rest : List Char) : matchesPattern (List.replicate width 'd' ++ pattern) (padded width n ++ rest)
      = matchesPattern pattern rest := by
  obtain ⟨ds, text, long, digits, -⟩ := padded_digits fits positive
  have read := matchesPattern_digits digits pattern rest
  rw [text, ← read, long]

/-- A literal of the pattern stands for itself. -/
theorem matchesPattern_mark {c : Char} (mark : c ≠ 'd') (pattern rest : List Char) :
    matchesPattern (c :: pattern) (c :: rest) = matchesPattern pattern rest := by
  rw [matchesPattern, if_neg mark, decide_eq_true rfl, Bool.true_and]

/-- The version that the builder writes has the form of a version. -/
theorem isVersion_version (t : UpdateTime) : isVersion (.str t.version) = true := by
  have fits := date_fits (dateOf_valid t)
  have valid := clockOf_valid (second t)
  have hour := valid.hour
  have minute := valid.minute
  have seconds := valid.second
  have shape : versionPattern = List.replicate 4 'd' ++ ('-' :: (List.replicate 2 'd' ++ ('-' ::
      (List.replicate 2 'd' ++ ('T' :: (List.replicate 2 'd' ++ (':' :: (List.replicate 2 'd' ++ (':' ::
        (List.replicate 2 'd' ++ ('.' :: (List.replicate 9 'd' ++ ['Z'])))))))))))) := by
    decide
  have text : t.version.toList = padded 4 (dateOf (second t)).year ++ ('-' ::
      (padded 2 (dateOf (second t)).month ++ ('-' :: (padded 2 (dateOf (second t)).day ++ ('T' ::
        (padded 2 (clockOf (second t)).hour ++ (':' :: (padded 2 (clockOf (second t)).minute ++ (':' ::
          (padded 2 (clockOf (second t)).second ++ ('.' ::
            (padded 9 (t.nanos % 1000000000).toNat ++ ['Z'])))))))))))) := by
    rw [version_toList]
    simp [dateText, clockText, second_microsecond]
  rw [isVersion, shape, text,
    matchesPattern_padded fits.year (by norm_num), matchesPattern_mark (by decide),
    matchesPattern_padded fits.month (by norm_num), matchesPattern_mark (by decide),
    matchesPattern_padded fits.day (by norm_num), matchesPattern_mark (by decide),
    matchesPattern_padded (by omega) (by norm_num), matchesPattern_mark (by decide),
    matchesPattern_padded (by omega) (by norm_num), matchesPattern_mark (by decide),
    matchesPattern_padded (by omega) (by norm_num), matchesPattern_mark (by decide),
    matchesPattern_padded (by omega) (by norm_num), matchesPattern_mark (by decide)]
  rfl

end Version

/-! ## Checks and the form that is read -/

open Value (canonDict get?_canonDict mem_keys_canonDict pyGet_canonDict)

theorem isStr_canon (v : Value) (s : String) : v.canon.isStr s = v.isStr s := by
  cases v <;> rfl

theorem isFalse_canon (v : Value) : isFalse v.canon = isFalse v := by
  cases v <;> rfl

theorem receiptTime_canon (v : Value) : receiptTime v.canon = receiptTime v := by
  cases v <;> rfl

theorem receiptAmount_canon (positive : Bool) (v : Value) :
    receiptAmount positive v.canon = receiptAmount positive v := by
  cases v <;> rfl

theorem isHexDigest_str {v : Value} (digest : isHexDigest v = true) : ∃ s, v = .str s := by
  cases v with
  | str s => exact ⟨s, rfl⟩
  | _ => cases digest

theorem sameKeySet_canonDict (d : Document) (names : List String) :
    sameKeySet (canonDict d).keys names = sameKeySet d.keys names := by
  rw [Bool.eq_iff_iff, sameKeySet_iff, sameKeySet_iff]
  exact forall_congr' fun key => by rw [mem_keys_canonDict]

theorem fieldOr_ok {raised : ReceiptError} {value found : Value} {key : String}
    (success : fieldOr raised value key = .ok found) :
    ∃ d, value = .dict d ∧ d.get? key = some found := by
  unfold fieldOr at success
  split at success
  case h_1 stored read =>
    cases success
    exact item_ok read
  case h_2 => cases success

theorem fieldOr_dict {raised : ReceiptError} {d : Document} {key : String} {value : Value}
    (stored : d.get? key = some value) : fieldOr raised (.dict d) key = .ok value := by
  simp [fieldOr, item, stored]

theorem fieldOr_canonDict (raised : ReceiptError) {d : Document} {key : String} {value : Value}
    (stored : d.get? key = some value) : fieldOr raised (.dict (canonDict d)) key = .ok value.canon :=
  fieldOr_dict (by rw [get?_canonDict, stored]; rfl)

theorem receiptJson_written {value : Value} {text : List Char} (written : value.json = .ok text) :
    receiptJson value = .ok text := by
  rw [receiptJson, written]

theorem receiptJson_canon (value : Value) : receiptJson value.canon = receiptJson value := by
  rw [receiptJson, receiptJson, json_canon]

/-- Written material is loaded in the form that is read. -/
theorem loadsMapping_written (raised : ReceiptError) {d : Document} {text : List Char}
    (native : (Value.dict d).Native) (written : receiptJson (.dict d) = .ok text) :
    loadsMapping raised text = .ok (canonDict d) := by
  rw [loadsMapping, jsonLoads_written native (receiptJson_ok written)]
  rfl

/-! ## Unchanged accruals -/

theorem get?_named (names : List String) (value : String → Value) (key : String) :
    (Dict.mk (names.map fun name => (name, value name))).get? key
      = if key ∈ names then some (value key) else none := by
  rw [Dict.get?]
  induction names with
  | nil => rfl
  | cons name rest ih =>
    rw [List.map_cons, Dict.find, ih]
    by_cases same : name = key
    · simp [same]
    · simp [same, Ne.symm same]

/-- Mappings that agree in every entry are equal. -/
theorem equalsDict_of_same {d e : Document} (same : ∀ key, d.get? key = e.get? key)
    (own : ∀ key value, e.get? key = some value → value.equals value = true) :
    Value.equalsDict d e = true := by
  have sizes : d.items.length = e.items.length := by
    have perm : d.keys.Perm e.keys := (List.perm_ext_iff_of_nodup d.keys_nodup e.keys_nodup).mpr fun key => by
      rw [Dict.mem_keys, Dict.mem_keys, same]
    simpa using perm.length_eq
  rw [equalsDict_eq, allEqual, List.length_map, sizes, decide_eq_true rfl, Bool.true_and, List.all_eq_true]
  intro entry member
  obtain ⟨⟨key, value⟩, inItems, rfl⟩ := List.mem_map.mp member
  have stored := (same key).symm.trans ((Dict.mem_items _ _ _).mp inItems)
  simp [stored, own key value stored]

theorem zeroChanges_congr {assets others : Document} (same : ∀ key, key ∈ assets.keys ↔ key ∈ others.keys)
    {value : Value} (equal : value.equals (zeroChanges assets) = true) :
    value.canon.equals (zeroChanges others) = true := by
  cases value with
  | dict d =>
    rw [zeroChanges, Value.equals] at equal
    have entries : ∀ key, (canonDict d).get? key = if key ∈ others.keys then some (.str "0") else none := by
      intro key
      rw [get?_canonDict]
      have both := equals_entries equal key
      simp only [get?_named, same] at both
      by_cases named : key ∈ others.keys
      · rw [if_pos named] at both ⊢
        rcases both with ⟨-, absent⟩ | ⟨a, b, stored, zero, equal⟩
        · cases absent
        · cases zero
          rw [stored, str_equals equal]
          rfl
      · rw [if_neg named] at both ⊢
        rcases both with ⟨absent, -⟩ | ⟨a, b, -, zero, -⟩
        · rw [absent]
          rfl
        · cases zero
    rw [Value.canon, zeroChanges, Value.equals]
    refine equalsDict_of_same (fun key => by rw [entries, get?_named]) fun key value stored => ?_
    rw [get?_named] at stored
    split at stored
    · cases stored
      exact equals_self_str "0"
    · cases stored
  | float x => cases x <;> simp [zeroChanges, Value.equals, equalsFloat, equalsNumber] at equal
  | _ => simp [zeroChanges, Value.equals, equalsNumber, Value.isStr] at equal

/-! ## What the builder has checked -/

section Digests
variable {sha256 : List Char → String}

/-- What the validator asks of the next state, but for the kind of its assets. -/
structure NextState (scope : Value) (finish : Instant) (next checkpoint : Document) (assets : Value)
    (names : List String) : Prop where
  stored : next.get? "earn_accrual_checkpoint" = some (.dict checkpoint)
  scope : ∃ found, checkpoint.get? "account_scope_sha256" = some found ∧ found.equals scope = true
  authority : ∃ found, checkpoint.get? "execution_authority_granted" = some found ∧ isFalse found = true
  observed : ∃ found, checkpoint.get? "observed_at" = some found ∧ receiptTime found = .ok finish
  cursor : ∃ cursor found, next.get? "external_cash_flow_cursor" = some (.dict cursor)
    ∧ cursor.get? "observed_at" = some found ∧ receiptTime found = .ok finish
  assetsAt : checkpoint.get? "assets" = some assets
  named : elementTexts assets = .ok names
  changes : ∃ (held : Document) (found : Value), held.items ≠ [] ∧ sameKeySet held.keys names = true
    ∧ next.get? "earn_accounted_net_changes" = some found ∧ found.equals (zeroChanges held) = true
  fields : ∀ key ∈ patchFields, (next.get? key).isSome = true

theorem checkTransition_ok {scope : Value} {start finish : Instant} {old next : Document}
    (success : checkTransition scope start finish old next = .ok ()) :
    ∃ checkpoint assets names, NextState scope finish next checkpoint assets names := by
  obtain ⟨before, -, success⟩ := bind_ok success
  obtain ⟨after, afterAt, success⟩ := bind_ok success
  obtain ⟨_, -, success⟩ := bind_ok success
  obtain ⟨-, success⟩ := require_bind success
  obtain ⟨afterScope, scopeAt, success⟩ := bind_ok success
  obtain ⟨scopes, success⟩ := require_bind success
  obtain ⟨_, -, success⟩ := bind_ok success
  obtain ⟨-, success⟩ := require_bind success
  obtain ⟨authority, authorityAt, success⟩ := bind_ok success
  obtain ⟨withheld, success⟩ := require_bind success
  obtain ⟨_, -, success⟩ := bind_ok success
  obtain ⟨_, -, success⟩ := bind_ok success
  obtain ⟨-, success⟩ := require_bind success
  obtain ⟨observed, observedAt, success⟩ := bind_ok success
  obtain ⟨observedTime, observedRead, success⟩ := bind_ok success
  obtain ⟨observedSame, success⟩ := require_bind success
  obtain ⟨_, -, success⟩ := bind_ok success
  obtain ⟨_, -, success⟩ := bind_ok success
  obtain ⟨_, -, success⟩ := bind_ok success
  obtain ⟨-, success⟩ := require_bind success
  obtain ⟨cursor, cursorAt, success⟩ := bind_ok success
  obtain ⟨cursorObserved, cursorObservedAt, success⟩ := bind_ok success
  obtain ⟨cursorTime, cursorRead, success⟩ := bind_ok success
  obtain ⟨cursorSame, success⟩ := require_bind success
  obtain ⟨_, -, success⟩ := bind_ok success
  obtain ⟨held, -, success⟩ := bind_ok success
  obtain ⟨nonempty, success⟩ := require_bind success
  obtain ⟨assets, assetsAt, success⟩ := bind_ok success
  obtain ⟨names, namesRead, success⟩ := bind_ok success
  obtain ⟨sameNames, success⟩ := require_bind success
  obtain ⟨changes, changesAt, success⟩ := bind_ok success
  obtain ⟨zero, success⟩ := require_bind success
  obtain ⟨_, -, success⟩ := bind_ok success
  obtain ⟨_, -, success⟩ := bind_ok success
  obtain ⟨-, success⟩ := require_bind success
  obtain ⟨changed, -, success⟩ := bind_ok success
  have final := require_ok.mp success
  rw [Bool.and_eq_true, List.all_eq_true, List.all_eq_true] at final
  obtain ⟨d, same, stored⟩ := fieldOr_ok afterAt
  cases same
  obtain ⟨checkpoint, rfl, scopeStored⟩ := fieldOr_ok scopeAt
  obtain ⟨_, same, authorityStored⟩ := fieldOr_ok authorityAt
  cases same
  obtain ⟨_, same, observedStored⟩ := fieldOr_ok observedAt
  cases same
  obtain ⟨_, same, cursorStored⟩ := fieldOr_ok cursorAt
  cases same
  obtain ⟨cursorFields, rfl, cursorObservedStored⟩ := fieldOr_ok cursorObservedAt
  obtain ⟨_, same, assetsStored⟩ := fieldOr_ok assetsAt
  cases same
  obtain ⟨_, same, changesStored⟩ := fieldOr_ok changesAt
  cases same
  rw [decide_eq_true_eq] at observedSame cursorSame
  exact ⟨checkpoint, assets, names, stored, ⟨_, scopeStored, scopes⟩, ⟨_, authorityStored, withheld⟩,
    ⟨_, observedStored, observedSame ▸ observedRead⟩,
    ⟨_, _, cursorStored, cursorObservedStored, cursorSame ▸ cursorRead⟩, assetsStored, namesRead,
    ⟨held, changes, by simpa using nonempty, sameNames, changesStored, zero⟩, final.2⟩

theorem requireTransition_ok {scope : Value} {start finish : Instant} {old next : Document} {u : Unit}
    (success : requireTransition scope start finish old next = .ok u) :
    checkTransition scope start finish old next = .ok () := by
  unfold requireTransition at success
  split at success
  case h_1 passed => exact passed
  case h_2 => cases success

theorem isHexDigest_scope {interval : Value} {material : PayloadMaterial}
    (success : payloadMaterial sha256 interval = .ok material) :
    ∃ scope, pyGet material.payload "account_scope_sha256" = .str scope := by
  obtain ⟨payload, -, success⟩ := bind_ok success
  obtain ⟨-, success⟩ := require_bind success
  obtain ⟨fixed, success⟩ := require_bind success
  obtain ⟨start, -, success⟩ := bind_ok success
  obtain ⟨finish, -, success⟩ := bind_ok success
  obtain ⟨-, success⟩ := require_bind success
  obtain ⟨equity, -, success⟩ := bind_ok success
  obtain ⟨flow, -, success⟩ := bind_ok success
  obtain ⟨logicalId, -, success⟩ := bind_ok success
  cases success
  rw [Bool.and_eq_true, Bool.and_eq_true] at fixed
  exact isHexDigest_str fixed.1.1

/-- The payload read back has the material of the payload written. -/
theorem payloadMaterial_canon {interval : Value} {material : PayloadMaterial}
    (success : payloadMaterial sha256 interval = .ok material) :
    payloadMaterial sha256 (.dict (canonDict material.payload))
      = .ok { material with payload := canonDict material.payload } := by
  obtain ⟨payload, -, success⟩ := bind_ok success
  obtain ⟨fields, success⟩ := require_bind success
  obtain ⟨fixed, success⟩ := require_bind success
  obtain ⟨start, startRead, success⟩ := bind_ok success
  obtain ⟨finish, finishRead, success⟩ := bind_ok success
  obtain ⟨order, success⟩ := require_bind success
  obtain ⟨equity, equityRead, success⟩ := bind_ok success
  obtain ⟨flow, flowRead, success⟩ := bind_ok success
  obtain ⟨logicalId, digested, success⟩ := bind_ok success
  cases success
  have scope : (pyGet payload "account_scope_sha256").canon = pyGet payload "account_scope_sha256" := by
    rw [Bool.and_eq_true, Bool.and_eq_true] at fixed
    obtain ⟨text, same⟩ := isHexDigest_str fixed.1.1
    rw [same]
    rfl
  have mapping : receiptMapping receiptPayloadInvalid (.dict (canonDict payload)) = .ok (canonDict payload) := rfl
  rw [payloadMaterial, bind_of mapping]
  simp only [pyGet_canonDict, isStr_canon, receiptTime_canon, receiptAmount_canon, scope,
    sameKeySet_canonDict]
  rw [require_bind_of fields, require_bind_of fixed, bind_of startRead, bind_of finishRead,
    require_bind_of order, bind_of equityRead, bind_of flowRead, bind_of digested]
  rfl

/-- A mapping whose last entry is replaced by a value that is written alike. -/
theorem json_last (front : List (String × Value)) (key : String) {a b : Value} (same : a.json = b.json) :
    (Value.dict ⟨front ++ [(key, a)]⟩).json = (Value.dict ⟨front ++ [(key, b)]⟩).json := by
  simp only [Value.json, Value.jsonDict, jsonEntries_eq, List.map_append, List.map_cons, List.map_nil, same]

/-- The receipt without its interval. -/
def receiptHead (logicalId payloadDigest ledgerPath sourceVersion beforeDigest afterDigest
    patchDigest : String) : List (String × Value) :=
  [("schema_version", .str receiptSchema), ("interval_id_sha256", .str logicalId),
    ("payload_sha256", .str payloadDigest),
    ("source", .dict ⟨[("ledger_path", .str ledgerPath), ("ledger_before_version", .str sourceVersion),
      ("ledger_before_sha256", .str beforeDigest), ("ledger_after_sha256", .str afterDigest),
      ("patch_sha256", .str patchDigest)]⟩)]

theorem receiptMaterial_ok {ledgerPath sourceVersion beforeDigest afterDigest : String}
    {patch payload : Document} {receipt : Value}
    (success : receiptMaterial sha256 ledgerPath sourceVersion beforeDigest afterDigest patch payload
      = .ok receipt) :
    ∃ material payloadDigest patchDigest, payloadMaterial sha256 (.dict payload) = .ok material
      ∧ receiptDigest sha256 (.dict payload) = .ok payloadDigest
      ∧ receiptDigest sha256 (.dict patch) = .ok patchDigest
      ∧ receipt = .dict ⟨receiptHead material.logicalId payloadDigest ledgerPath sourceVersion beforeDigest
          afterDigest patchDigest ++ [("interval", .dict payload)]⟩ := by
  obtain ⟨material, read, success⟩ := bind_ok success
  obtain ⟨payloadDigest, payloadWritten, success⟩ := bind_ok success
  obtain ⟨patchDigest, patchWritten, success⟩ := bind_ok success
  cases success
  exact ⟨material, payloadDigest, patchDigest, read, payloadWritten, patchWritten, rfl⟩

theorem receiptDigest_canon (sha256 : List Char → String) (value : Value) :
    receiptDigest sha256 value.canon = receiptDigest sha256 value := by
  rw [receiptDigest, receiptDigest, receiptJson_canon]

/-- The receipt of the material read back is written alike. -/
theorem receiptMaterial_canon {ledgerPath sourceVersion beforeDigest afterDigest : String}
    {patch payload : Document} {receipt : Value}
    (success : receiptMaterial sha256 ledgerPath sourceVersion beforeDigest afterDigest patch payload
      = .ok receipt) :
    ∃ again, receiptMaterial sha256 ledgerPath sourceVersion beforeDigest afterDigest (canonDict patch)
        (canonDict payload) = .ok again
      ∧ receiptJson again = receiptJson receipt := by
  obtain ⟨material, payloadDigest, patchDigest, read, payloadWritten, patchWritten, rfl⟩ :=
    receiptMaterial_ok success
  have same : material.payload = payload := by
    have mapping := (payloadMaterial_ok read).1
    exact (Value.dict.inj mapping).symm
  have readBack := same ▸ payloadMaterial_canon read
  have payloadBack := (receiptDigest_canon sha256 (.dict payload)).trans payloadWritten
  have patchBack := (receiptDigest_canon sha256 (.dict patch)).trans patchWritten
  rw [Value.canon] at payloadBack patchBack
  refine ⟨.dict ⟨receiptHead material.logicalId payloadDigest ledgerPath sourceVersion beforeDigest
    afterDigest patchDigest ++ [("interval", .dict (canonDict payload))]⟩, ?_, ?_⟩
  · rw [receiptMaterial, bind_of readBack, bind_of payloadBack, bind_of patchBack]
    rfl
  · have written := json_canon (.dict payload)
    rw [Value.canon] at written
    rw [receiptJson, receiptJson, json_last _ _ written]

/-- What the builder has checked and bound. -/
structure Built (sha256 : List Char → String) (ledgerPath : String) (updateTime : UpdateTime)
    (old next : Document) (material : PayloadMaterial) (plan : IntervalReceiptPlan) : Prop where
  path : validPath ledgerPath = true
  read : payloadMaterial sha256 (.dict material.payload) = .ok material
  state : ∃ checkpoint assets names, NextState (pyGet material.payload "account_scope_sha256")
    material.finish next checkpoint assets names
  patched : receiptDigest sha256 (.dict (old.update (patchOf next))) = .ok plan.ledgerAfterSha256
  before : receiptDigest sha256 (.dict old) = .ok plan.ledgerBeforeSha256
  after : receiptDigest sha256 (.dict next) = .ok plan.ledgerAfterSha256
  payload : receiptDigest sha256 (.dict material.payload) = .ok plan.payloadSha256
  receipt : ∃ receipt, receiptMaterial sha256 ledgerPath updateTime.version plan.ledgerBeforeSha256
    plan.ledgerAfterSha256 (patchOf next) material.payload = .ok receipt
      ∧ receiptJson receipt = .ok plan.receiptJson
  patch : receiptJson (.dict (patchOf next)) = .ok plan.patchJson
  ledgerAt : plan.ledgerPath = ledgerPath
  receiptAt : plan.receiptPath = receiptPath ledgerPath material.logicalId
  version : plan.sourceLedgerVersion = updateTime.version

/-- What the builder has checked when it returns a plan. -/
theorem built_ok {ledgerPath : String} {updateTime : UpdateTime} {old next : Document} {interval : Value}
    {plan : IntervalReceiptPlan}
    (success : buildIntervalReceiptPlan sha256 ledgerPath updateTime old next interval = .ok plan) :
    ∃ material, interval = .dict material.payload
      ∧ Built sha256 ledgerPath updateTime old next material plan := by
  obtain ⟨path, success⟩ := require_bind success
  obtain ⟨material, read, success⟩ := bind_ok success
  obtain ⟨_, transition, success⟩ := bind_ok success
  obtain ⟨patchedText, patchedJson, success⟩ := bind_ok success
  obtain ⟨nextText, nextJson, success⟩ := bind_ok success
  obtain ⟨sameText, success⟩ := require_bind success
  obtain ⟨beforeDigest, before, success⟩ := bind_ok success
  obtain ⟨afterDigest, after, success⟩ := bind_ok success
  obtain ⟨payloadDigest, payload, success⟩ := bind_ok success
  obtain ⟨receipt, receiptBuilt, success⟩ := bind_ok success
  obtain ⟨patchText, patch, success⟩ := bind_ok success
  obtain ⟨receiptText, receiptWritten, success⟩ := bind_ok success
  cases success
  have mapping := (payloadMaterial_ok read).1
  rw [decide_eq_true_eq] at sameText
  have patched : receiptDigest sha256 (.dict (old.update (patchOf next))) = .ok afterDigest := by
    rw [← after, receiptDigest, receiptDigest, patchedJson, nextJson, sameText]
  exact ⟨material, mapping, path, mapping ▸ read, checkTransition_ok (requireTransition_ok transition), patched,
    before, after, payload, ⟨receipt, receiptBuilt, receiptWritten⟩, patch, rfl, rfl, rfl⟩

/-! ## The validator -/

theorem get?_patchOf (next : Document) {key : String} (field : key ∈ patchFields) :
    (patchOf next).get? key = some (pyGet next key) := by
  rw [patchOf, get?_named, if_pos field]

theorem keys_patchOf (next : Document) : sameKeySet (patchOf next).keys patchFields = true := by
  rw [sameKeySet_iff]
  intro key
  rw [Dict.mem_keys, patchOf, get?_named]
  by_cases field : key ∈ patchFields <;> simp [field]

theorem native_patchOf {next : Document} (native : (Value.dict next).Native) :
    (Value.dict (patchOf next)).Native := by
  rw [Value.native_dict] at native ⊢
  intro key value stored
  rw [patchOf, get?_named] at stored
  split at stored
  case isFalse => cases stored
  case isTrue =>
    cases stored
    cases held : next.get? key with
    | none =>
      rw [pyGet, held]
      exact trivial
    | some found =>
      rw [pyGet, held]
      exact native key found held

theorem pyGet_of {d : Document} {key : String} {value : Value} (stored : d.get? key = some value) :
    pyGet d key = value := by
  rw [pyGet, stored]
  rfl

/-- A digest function in the notation of `hexdigest`. -/
def HexDigests (sha256 : List Char → String) : Prop := ∀ text, isHexDigest (.str (sha256 text)) = true

theorem receiptDigest_hex (digests : HexDigests sha256) {value : Value} {digest : String}
    (success : receiptDigest sha256 value = .ok digest) : isHexDigest (.str digest) = true := by
  obtain ⟨text, -, rfl⟩ := map_ok success
  exact digests text

theorem elements_nonempty {held : Document} {assets : Document} {names : List String}
    (nonempty : held.items ≠ []) (same : sameKeySet held.keys names = true)
    (named : elementTexts (.dict assets) = .ok names) :
    (∀ key, key ∈ held.keys ↔ key ∈ (canonDict assets).keys)
      ∧ (canonDict assets).items.isEmpty = false := by
  cases named
  have keys : ∀ key, key ∈ held.keys ↔ key ∈ (canonDict assets).keys := fun key =>
    ((sameKeySet_iff.mp same) key).trans (mem_keys_canonDict assets key).symm
  refine ⟨keys, ?_⟩
  obtain ⟨⟨key, value⟩, rest, shape⟩ := List.exists_cons_of_ne_nil nonempty
  have first : key ∈ held.keys := by
    rw [Dict.keys, shape]
    exact List.mem_cons_self
  have inside := (keys key).mp first
  cases empty : (canonDict assets).items with
  | nil =>
    rw [Dict.keys, empty] at inside
    cases inside
  | cons => rfl

theorem native_payload {interval : Value} {material : PayloadMaterial}
    (success : payloadMaterial sha256 interval = .ok material) : (Value.dict material.payload).Native := by
  obtain ⟨payload, -, success⟩ := bind_ok success
  obtain ⟨fields, success⟩ := require_bind success
  obtain ⟨fixed, success⟩ := require_bind success
  obtain ⟨start, startRead, success⟩ := bind_ok success
  obtain ⟨finish, finishRead, success⟩ := bind_ok success
  obtain ⟨order, success⟩ := require_bind success
  obtain ⟨equity, equityRead, success⟩ := bind_ok success
  obtain ⟨flow, flowRead, success⟩ := bind_ok success
  obtain ⟨logicalId, digested, success⟩ := bind_ok success
  cases success
  rw [Bool.and_eq_true, Bool.and_eq_true] at fixed
  have text : ∀ key ∈ intervalFields, ∃ s, pyGet payload key = .str s := by
    have time : ∀ {v : Value} {t : Instant}, receiptTime v = .ok t → ∃ s, v = .str s := by
      intro v t read
      cases v with
      | str s => exact ⟨s, rfl⟩
      | _ => cases read
    have amount : ∀ {v : Value} {positive : Bool} {d : Decimal}, receiptAmount positive v = .ok d →
        ∃ s, v = .str s := by
      intro v positive d read
      cases v with
      | str s => exact ⟨s, rfl⟩
      | _ => cases read
    simp only [intervalFields, List.forall_mem_cons, List.not_mem_nil, false_implies, implies_true, and_true]
    exact ⟨isHexDigest_str fixed.1.1, ⟨_, Value.eq_str_of_isStr fixed.1.2⟩, time finishRead, amount equityRead,
      amount flowRead, time startRead, ⟨_, Value.eq_str_of_isStr fixed.2⟩⟩
  rw [Value.native_dict]
  intro key value stored
  have field := (sameKeySet_iff.mp fields key).mp ((Dict.mem_keys _ _).mpr (by rw [stored]; rfl))
  obtain ⟨s, same⟩ := text key field
  rw [pyGet_of stored] at same
  rw [same]
  exact trivial

/-- A built receipt is loaded with its interval in the form that is read. -/
theorem loaded_receipt (raised : ReceiptError) {ledgerPath sourceVersion beforeDigest afterDigest : String}
    {patch payload : Document} {receipt : Value} {text : List Char}
    (success : receiptMaterial sha256 ledgerPath sourceVersion beforeDigest afterDigest patch payload
      = .ok receipt) (written : receiptJson receipt = .ok text) :
    ∃ loaded, loadsMapping raised text = .ok loaded
      ∧ fieldOr raised (.dict loaded) "interval" = .ok (.dict (canonDict payload)) := by
  obtain ⟨material, payloadDigest, patchDigest, read, -, -, rfl⟩ := receiptMaterial_ok success
  have native : (Value.dict ⟨receiptHead material.logicalId payloadDigest ledgerPath sourceVersion beforeDigest
      afterDigest patchDigest ++ [("interval", .dict payload)]⟩).Native := by
    rw [Value.native_dict]
    intro key value stored
    have member := Dict.mem_of_find stored
    simp only [receiptHead, List.cons_append, List.nil_append, List.mem_cons, Prod.mk.injEq,
      List.not_mem_nil, or_false] at member
    rcases member with ⟨-, rfl⟩ | ⟨-, rfl⟩ | ⟨-, rfl⟩ | ⟨-, rfl⟩ | ⟨-, rfl⟩
    · exact trivial
    · exact trivial
    · exact trivial
    · rw [Value.native_dict]
      intro key value stored
      have member := Dict.mem_of_find stored
      simp only [List.mem_cons, Prod.mk.injEq, List.not_mem_nil, or_false] at member
      rcases member with ⟨-, rfl⟩ | ⟨-, rfl⟩ | ⟨-, rfl⟩ | ⟨-, rfl⟩ | ⟨-, rfl⟩ <;> exact trivial
    · have own := native_payload read
      rwa [← Value.dict.inj (payloadMaterial_ok read).1] at own
  refine ⟨_, loadsMapping_written raised native written, ?_⟩
  have stored : (Dict.mk (receiptHead material.logicalId payloadDigest ledgerPath sourceVersion beforeDigest
      afterDigest patchDigest ++ [("interval", .dict payload)])).get? "interval" = some (.dict payload) := by
    simp [Dict.get?, Dict.find, receiptHead]
  rw [fieldOr_canonDict raised stored, Value.canon]

/-- The checkpoint of the state lists its assets in a mapping. -/
def AssetsMapping (next : Document) : Prop :=
  ∃ checkpoint assets, next.get? "earn_accrual_checkpoint" = some (.dict checkpoint)
    ∧ checkpoint.get? "assets" = some (.dict assets)

section Plan
variable {ledgerPath : String} {updateTime : UpdateTime} {old next : Document} {material : PayloadMaterial}
  {plan : IntervalReceiptPlan}

/-- Where the validator meets the assets, everything before has passed. -/
theorem checkPlan_built (digests : HexDigests sha256) (native : (Value.dict next).Native)
    (built : Built sha256 ledgerPath updateTime old next material plan) (mapping : AssetsMapping next) :
    checkPlan sha256 plan = .ok (canonDict (patchOf next), canonDict material.payload) := by
  obtain ⟨checkpoint, assetsValue, names, state⟩ := built.state
  obtain ⟨found, assets, foundAt, assetsAt⟩ := mapping
  cases state.stored.symm.trans foundAt
  cases state.assetsAt.symm.trans assetsAt
  obtain ⟨scopeText, scopeIs⟩ := isHexDigest_scope built.read
  obtain ⟨scope, scopeAt, scopeSame⟩ := state.scope
  obtain ⟨authority, authorityAt, withheld⟩ := state.authority
  obtain ⟨observed, observedAt, observedRead⟩ := state.observed
  obtain ⟨cursor, cursorObserved, cursorAt, cursorObservedAt, cursorRead⟩ := state.cursor
  obtain ⟨held, changes, nonempty, sameNames, changesAt, zero⟩ := state.changes
  obtain ⟨keys, filled⟩ := elements_nonempty nonempty sameNames state.named
  obtain ⟨receipt, receiptBuilt, receiptWritten⟩ := built.receipt
  obtain ⟨loaded, receiptLoaded, intervalAt⟩ := loaded_receipt planInvalid receiptBuilt receiptWritten
  obtain ⟨again, againBuilt, againWritten⟩ := receiptMaterial_canon receiptBuilt
  have patchLoaded := loadsMapping_written planInvalid (native_patchOf native) built.patch
  have patchKeys := (sameKeySet_canonDict (patchOf next) patchFields).trans (keys_patchOf next)
  have patchText := (receiptJson_canon (.dict (patchOf next))).trans built.patch
  rw [Value.canon] at patchText
  have versions : (isVersion (.str plan.sourceLedgerVersion) && isHexDigest (.str plan.ledgerBeforeSha256)
      && isHexDigest (.str plan.ledgerAfterSha256) && isHexDigest (.str plan.payloadSha256)) = true := by
    rw [built.version, isVersion_version, receiptDigest_hex digests built.before,
      receiptDigest_hex digests built.after, receiptDigest_hex digests built.payload]
    rfl
  have readBack := payloadMaterial_canon built.read
  have payloadBack := (receiptDigest_canon sha256 (.dict material.payload)).trans built.payload
  rw [Value.canon] at payloadBack
  have stored : ∀ {key : String} {value : Value}, key ∈ patchFields → next.get? key = some value →
      (patchOf next).get? key = some value := fun field held => by
    rw [get?_patchOf next field, pyGet_of held]
  have checkpointBack := fieldOr_canonDict planInvalid (stored (by decide) state.stored)
  have cursorBack := fieldOr_canonDict planInvalid (stored (by decide) cursorAt)
  have changesBack := (pyGet_canonDict (patchOf next) "earn_accounted_net_changes").trans
    (congrArg Value.canon (pyGet_of (stored (by decide) changesAt)))
  have scopeBack : scope.canon.equals (pyGet (canonDict material.payload) "account_scope_sha256") = true := by
    rw [scopeIs] at scopeSame
    rw [pyGet_canonDict, scopeIs, str_equals scopeSame]
    exact equals_self_str scopeText
  rw [Value.canon] at checkpointBack cursorBack
  unfold checkPlan
  rw [require_bind_of (built.ledgerAt ▸ built.path), bind_of patchLoaded, bind_of receiptLoaded,
    require_bind_of patchKeys, bind_of patchText, require_bind_of (decide_eq_true rfl),
    require_bind_of versions, built.version, bind_of (receiptTime_version updateTime), bind_of intervalAt,
    bind_of readBack, bind_of checkpointBack, bind_of (fieldOr_canonDict planInvalid assetsAt), Value.canon]
  have assetsBack : receiptMapping planInvalid (.dict (canonDict assets)) = .ok (canonDict assets) := rfl
  rw [bind_of assetsBack, bind_of (fieldOr_canonDict planInvalid scopeAt), require_bind_of scopeBack,
    bind_of (fieldOr_canonDict planInvalid authorityAt), require_bind_of ((isFalse_canon authority).trans withheld),
    bind_of (fieldOr_canonDict planInvalid observedAt), bind_of ((receiptTime_canon observed).trans observedRead),
    bind_of cursorBack, bind_of (fieldOr_canonDict planInvalid cursorObservedAt),
    bind_of ((receiptTime_canon cursorObserved).trans cursorRead), require_bind_of (by simp)]
  have unchanged : (!(canonDict assets).items.isEmpty
      && (pyGet (canonDict (patchOf next)) "earn_accounted_net_changes").equals
        (zeroChanges (canonDict assets))) = true := by
    rw [changesBack, filled, zeroChanges_congr keys zero]
    rfl
  rw [require_bind_of unchanged,
    require_bind_of (decide_eq_true (by rw [built.receiptAt, built.ledgerAt])), bind_of payloadBack,
    require_bind_of (decide_eq_true rfl), built.ledgerAt, bind_of againBuilt,
    bind_of (againWritten.trans receiptWritten), require_bind_of (decide_eq_true rfl)]
  rfl

/-- The validator refuses a plan whose next checkpoint has no mapping of assets. -/
theorem assetsMapping_of_checkPlan (native : (Value.dict next).Native)
    (built : Built sha256 ledgerPath updateTime old next material plan) {found : Document × Document}
    (success : checkPlan sha256 plan = .ok found) : AssetsMapping next := by
  obtain ⟨checkpoint, assetsValue, names, state⟩ := built.state
  have patchLoaded := loadsMapping_written planInvalid (native_patchOf native) built.patch
  obtain ⟨-, success⟩ := require_bind success
  obtain ⟨patch, loaded, success⟩ := bind_ok success
  obtain ⟨receipt, -, success⟩ := bind_ok success
  obtain ⟨-, success⟩ := require_bind success
  obtain ⟨patchText, -, success⟩ := bind_ok success
  obtain ⟨-, success⟩ := require_bind success
  obtain ⟨-, success⟩ := require_bind success
  obtain ⟨time, -, success⟩ := bind_ok success
  obtain ⟨interval, -, success⟩ := bind_ok success
  obtain ⟨reread, -, success⟩ := bind_ok success
  obtain ⟨checkpointBack, checkpointAt, success⟩ := bind_ok success
  obtain ⟨assetsBack, assetsAt, success⟩ := bind_ok success
  obtain ⟨assets, mapping, -⟩ := bind_ok success
  have same : patch = canonDict (patchOf next) := Except.ok.inj (loaded.symm.trans patchLoaded)
  subst same
  have checkpointCanon : fieldOr planInvalid (.dict (canonDict (patchOf next))) "earn_accrual_checkpoint"
      = .ok (Value.dict checkpoint).canon :=
    fieldOr_canonDict planInvalid (by rw [get?_patchOf next (by decide), pyGet_of state.stored])
  cases checkpointAt.symm.trans checkpointCanon
  rw [Value.canon] at assetsAt
  cases assetsAt.symm.trans (fieldOr_canonDict planInvalid state.assetsAt)
  cases kind : assetsValue with
  | dict d => exact ⟨checkpoint, d, state.stored, kind ▸ state.assetsAt⟩
  | _ =>
    rw [kind] at mapping
    cases mapping

/-- The patch that is read back leads to the state that was digested. -/
theorem digest_updated (built : Built sha256 ledgerPath updateTime old next material plan) :
    receiptDigest sha256 (.dict (old.update (canonDict (patchOf next)))) = .ok plan.ledgerAfterSha256 := by
  have same : ∀ key, ((old.update (canonDict (patchOf next))).get? key).map Value.json
      = ((old.update (patchOf next)).get? key).map Value.json := by
    intro key
    rw [Dict.get?_update, Dict.get?_update, get?_canonDict]
    cases (patchOf next).get? key with
    | none => rfl
    | some value => exact congrArg some (json_canon value)
  rw [← built.patched, receiptDigest, receiptDigest, receiptJson, receiptJson,
    json_congr same]

end Plan

/-! ## Building and validating -/

/-- `_validate_plan` returns the patch and the payload, and the patch leads from the
previous state to the digest of the plan. -/
def Validates (sha256 : List Char → String) (old next : Document) (interval : Value)
    (plan : IntervalReceiptPlan) : Prop :=
  ∃ patch payload, validatePlan sha256 plan = .ok (patch, payload)
    ∧ (Value.dict (patchOf next)).equals (.dict patch) = true ∧ interval.equals (.dict payload) = true
    ∧ receiptDigest sha256 (.dict (old.update patch)) = .ok plan.ledgerAfterSha256

theorem validatePlan_eq (plan : IntervalReceiptPlan) (material : Document × Document) :
    validatePlan sha256 plan = .ok material ↔ checkPlan sha256 plan = .ok material := by
  unfold validatePlan
  split
  case h_1 found checked => rw [checked]
  case h_2 raised failed => simp [failed]

/-- A built plan validates just where the next checkpoint lists its assets in a mapping. -/
theorem built_plan_validates_iff {ledgerPath : String} {updateTime : UpdateTime} {old next : Document}
    {interval : Value} {plan : IntervalReceiptPlan} (digests : HexDigests sha256)
    (native : (Value.dict next).Native)
    (success : buildIntervalReceiptPlan sha256 ledgerPath updateTime old next interval = .ok plan) :
    Validates sha256 old next interval plan ↔ AssetsMapping next := by
  obtain ⟨material, rfl, built⟩ := built_ok success
  constructor
  · rintro ⟨patch, payload, valid, -⟩
    exact assetsMapping_of_checkPlan native built ((validatePlan_eq _ _).mp valid)
  · intro mapping
    have checked := checkPlan_built digests native built mapping
    obtain ⟨payloadText, payloadWritten, -⟩ := map_ok built.payload
    refine ⟨_, _, (validatePlan_eq _ _).mpr checked, ?_, ?_, digest_updated built⟩
    · have equal := equals_canon (.dict (patchOf next)) (receiptJson_ok built.patch)
      rwa [Value.canon] at equal
    · have equal := equals_canon (.dict material.payload) (receiptJson_ok payloadWritten)
      rwa [Value.canon] at equal

/-- On the ledger that it was built from, the plan is staged as a new receipt. -/
theorem stage_built {ledgerPath ownerId : String} {updateTime : UpdateTime} {old next owner payload : Document}
    {plan : IntervalReceiptPlan} {store : ReceiptStore}
    (success : buildIntervalReceiptPlan sha256 ledgerPath updateTime old next (.dict payload) = .ok plan)
    (patched : old.update (canonDict (patchOf next)) = next) (owned : store.owner = some owner)
    (named : (pyGet owner "owner_id").isStr ownerId = true) (ledger : store.ledger = some (old, updateTime))
    (fresh : store.receipt = none) :
    ∃ receipt, stage sha256 plan (canonDict (patchOf next)) payload ownerId updateTime store
      = .ok (.created, some (receipt, next)) := by
  obtain ⟨material, same, built⟩ := built_ok success
  obtain ⟨receipt, receiptBuilt, receiptWritten⟩ := built.receipt
  obtain ⟨loaded, receiptLoaded, -⟩ :=
    loaded_receipt (.uncertain "interval_receipt_commit_uncertain") receiptBuilt receiptWritten
  have read : readOwned ownerId store = .ok (old, updateTime) := by
    rw [readOwned, owned, ledger]
    exact if_pos named
  unfold stage
  rw [bind_of read]
  dsimp only
  rw [require_bind_of (decide_eq_true rfl), fresh]
  dsimp only
  rw [require_bind_of (decide_eq_true built.version.symm), bind_of built.before,
    require_bind_of (decide_eq_true rfl), patched, built.ledgerAt, bind_of success,
    require_bind_of (decide_eq_true rfl), bind_of receiptLoaded]
  exact ⟨loaded, rfl⟩

/-! ## A list of assets -/

theorem receiptDigest_any {value : Value} {digest : String} (success : receiptDigest sha256 value = .ok digest)
    (other : List Char → String) : ∃ found, receiptDigest other value = .ok found := by
  obtain ⟨text, written, -⟩ := map_ok success
  exact ⟨other text, by rw [receiptDigest, written]; rfl⟩

theorem payloadMaterial_any {interval : Value} {material : PayloadMaterial}
    (success : payloadMaterial sha256 interval = .ok material) (other : List Char → String) :
    ∃ logicalId, payloadMaterial other interval = .ok { material with logicalId := logicalId } := by
  obtain ⟨payload, mapping, success⟩ := bind_ok success
  obtain ⟨fields, success⟩ := require_bind success
  obtain ⟨fixed, success⟩ := require_bind success
  obtain ⟨start, startRead, success⟩ := bind_ok success
  obtain ⟨finish, finishRead, success⟩ := bind_ok success
  obtain ⟨order, success⟩ := require_bind success
  obtain ⟨equity, equityRead, success⟩ := bind_ok success
  obtain ⟨flow, flowRead, success⟩ := bind_ok success
  obtain ⟨logicalId, digested, success⟩ := bind_ok success
  cases success
  obtain ⟨found, digestedToo⟩ := receiptDigest_any digested other
  refine ⟨found, ?_⟩
  rw [payloadMaterial, bind_of mapping, require_bind_of fields]
  dsimp only
  rw [require_bind_of fixed, bind_of startRead, bind_of finishRead, require_bind_of order, bind_of equityRead,
    bind_of flowRead, bind_of digestedToo]
  rfl

theorem receiptMaterial_any {ledgerPath sourceVersion beforeDigest afterDigest : String}
    {patch payload : Document} {receipt : Value}
    (success : receiptMaterial sha256 ledgerPath sourceVersion beforeDigest afterDigest patch payload
      = .ok receipt) (other : List Char → String) (before after : String) :
    ∃ found text, receiptMaterial other ledgerPath sourceVersion before after patch payload = .ok found
      ∧ receiptJson found = .ok text := by
  obtain ⟨material, payloadDigest, patchDigest, read, payloadWritten, patchWritten, -⟩ := receiptMaterial_ok success
  obtain ⟨logicalId, readToo⟩ := payloadMaterial_any read other
  obtain ⟨payloadFound, payloadToo⟩ := receiptDigest_any payloadWritten other
  obtain ⟨patchFound, patchToo⟩ := receiptDigest_any patchWritten other
  obtain ⟨payloadText, payloadJson, -⟩ := map_ok payloadWritten
  have each : ∀ key value, (Dict.mk (receiptHead logicalId payloadFound ledgerPath sourceVersion before after
      patchFound ++ [("interval", .dict payload)])).get? key = some value → ∃ text, value.json = .ok text := by
    intro key value stored
    have member := Dict.mem_of_find stored
    simp only [receiptHead, List.cons_append, List.nil_append, List.mem_cons, Prod.mk.injEq,
      List.not_mem_nil, or_false] at member
    rcases member with ⟨-, rfl⟩ | ⟨-, rfl⟩ | ⟨-, rfl⟩ | ⟨-, rfl⟩ | ⟨-, rfl⟩
    · exact ⟨_, rfl⟩
    · exact ⟨_, rfl⟩
    · exact ⟨_, rfl⟩
    · refine json_total fun key value stored => ?_
      have member := Dict.mem_of_find stored
      simp only [List.mem_cons, Prod.mk.injEq, List.not_mem_nil, or_false] at member
      rcases member with ⟨-, rfl⟩ | ⟨-, rfl⟩ | ⟨-, rfl⟩ | ⟨-, rfl⟩ | ⟨-, rfl⟩ <;> exact ⟨_, rfl⟩
    · exact ⟨_, receiptJson_ok payloadJson⟩
  obtain ⟨text, written⟩ := json_total each
  refine ⟨_, text, ?_, receiptJson_written written⟩
  rw [receiptMaterial, bind_of readToo, bind_of payloadToo, bind_of patchToo]
  rfl

/-- Whether a plan is built does not depend on the digests. -/
theorem build_any {ledgerPath : String} {updateTime : UpdateTime} {old next : Document} {interval : Value}
    {plan : IntervalReceiptPlan}
    (success : buildIntervalReceiptPlan sha256 ledgerPath updateTime old next interval = .ok plan)
    (other : List Char → String) :
    ∃ found, buildIntervalReceiptPlan other ledgerPath updateTime old next interval = .ok found := by
  obtain ⟨path, success⟩ := require_bind success
  obtain ⟨material, read, success⟩ := bind_ok success
  obtain ⟨_, transition, success⟩ := bind_ok success
  obtain ⟨patchedText, patchedJson, success⟩ := bind_ok success
  obtain ⟨nextText, nextJson, success⟩ := bind_ok success
  obtain ⟨sameText, success⟩ := require_bind success
  obtain ⟨beforeDigest, before, success⟩ := bind_ok success
  obtain ⟨afterDigest, after, success⟩ := bind_ok success
  obtain ⟨payloadDigest, payload, success⟩ := bind_ok success
  obtain ⟨receipt, receiptBuilt, success⟩ := bind_ok success
  obtain ⟨patchText, patch, success⟩ := bind_ok success
  obtain ⟨receiptText, receiptWritten, success⟩ := bind_ok success
  obtain ⟨logicalId, readToo⟩ := payloadMaterial_any read other
  obtain ⟨beforeFound, beforeToo⟩ := receiptDigest_any before other
  obtain ⟨afterFound, afterToo⟩ := receiptDigest_any after other
  obtain ⟨payloadFound, payloadToo⟩ := receiptDigest_any payload other
  obtain ⟨found, text, foundBuilt, foundWritten⟩ := receiptMaterial_any receiptBuilt other beforeFound afterFound
  unfold buildIntervalReceiptPlan
  rw [require_bind_of path, bind_of readToo, bind_of transition, bind_of patchedJson, bind_of nextJson,
    require_bind_of sameText, bind_of beforeToo, bind_of afterToo, bind_of payloadToo, bind_of foundBuilt,
    bind_of patch, bind_of foundWritten]
  exact ⟨_, rfl⟩

end Digests

end BinancePlatform.Guarantees.ReceiptPlans

namespace BinancePlatform.Guarantees.ReceiptUnit
open BinancePlatform.Source

def zeroDigest : String := "0000000000000000000000000000000000000000000000000000000000000000"

/-- A digest function for the example, where one digest stands for every text. -/
def constantHash (_ : List Char) : String := zeroDigest

def checkpointOn (time : String) : Value :=
  .dict ⟨[("account_scope_sha256", .str zeroDigest), ("assets", .dict ⟨[("BNB", .none)]⟩),
    ("execution_authority_granted", .bool false), ("observed_at", .str time)]⟩

def ledgerOn (time : String) : Document :=
  ⟨[("daily_external_principal_usdt", .int 0),
    ("earn_accounted_net_changes", .dict ⟨[("BNB", .str "0")]⟩),
    ("earn_accrual_checkpoint", checkpointOn time),
    ("external_cash_flow_cursor", .dict ⟨[("observed_at", .str time)]⟩),
    ("last_balance_snapshot", .none), ("order_submission", .dict ⟨[("state", .str "RESERVED")]⟩)]⟩

def plannedInterval : Value :=
  .dict ⟨[("account_scope_sha256", .str zeroDigest), ("currency", .str "USDT"),
    ("end_at", .str "2026-09-13T14Z"), ("end_equity_usdt", .str "1"), ("net_external_cash_flow", .str "0"),
    ("start_at", .str "2026-09-12T14Z"), ("valuation_basis", .str valuationBasis)]⟩

def firstVersion : UpdateTime := ⟨1789221600000000000, by decide, by decide⟩

def firstPlan : Except ReceiptError IntervalReceiptPlan :=
  buildIntervalReceiptPlan constantHash "s/M" firstVersion (ledgerOn "2026-09-12T14Z") (ledgerOn "2026-09-13T14Z")
    plannedInterval

end BinancePlatform.Guarantees.ReceiptUnit

namespace BinancePlatform.Guarantees.ReceiptPlans
open BinancePlatform.Library BinancePlatform.Source ReceiptUnit

/-- A state whose checkpoint lists its assets, instead of mapping them. -/
def listedLedger (time : String) : Document :=
  (ledgerOn time).set "earn_accrual_checkpoint" (.dict ⟨[("account_scope_sha256", .str zeroDigest),
    ("assets", .list [.str "BNB"]), ("execution_authority_granted", .bool false),
    ("observed_at", .str time)]⟩)

def buildOn (sha256 : List Char → String) (next : Document) : Except ReceiptError IntervalReceiptPlan :=
  buildIntervalReceiptPlan sha256 "s/M" firstVersion (ledgerOn "2026-09-12T14Z") next plannedInterval

theorem native_listed : (Value.dict (listedLedger "2026-09-13T14Z")).Native := by
  simp [listedLedger, ledgerOn, Dict.set, Dict.setEntries, Value.Native, Value.NativeDict, Value.nativeEntries,
    Value.nativeEntry, Value.NativeItems, Dict.dedupe]

theorem native_mapped : (Value.dict (ledgerOn "2026-09-13T14Z")).Native := by
  simp [ledgerOn, checkpointOn, Value.Native, Value.NativeDict, Value.nativeEntries,
    Value.nativeEntry, Dict.dedupe]

theorem builds_listed : (buildOn constantHash (listedLedger "2026-09-13T14Z")).toOption.isSome = true := by
  decide +kernel

theorem hexDigests_constant : HexDigests constantHash := fun _ => by
  change isHexDigest (.str zeroDigest) = true
  decide

theorem built_of_isSome {next : Document} (built : (buildOn constantHash next).toOption.isSome = true) :
    ∃ plan, buildOn constantHash next = .ok plan := by
  cases outcome : buildOn constantHash next with
  | ok plan => exact ⟨plan, rfl⟩
  | error raised =>
    rw [outcome] at built
    cases built

theorem not_assetsMapping_listed (time : String) : ¬ AssetsMapping (listedLedger time) := by
  rintro ⟨checkpoint, assets, stored, assetsAt⟩
  rw [listedLedger, Dict.get?_set_self] at stored
  have same := Value.dict.inj (Option.some.inj stored)
  subst same
  have list : (Value.list [.str "BNB"]) = .dict assets := Option.some.inj assetsAt
  cases list

/-- The plan of a listed asset is built, whatever the digests, and then refused. -/
theorem listed_assets_refused : ∃ next : Document, ∀ sha256 : List Char → String, ∃ plan,
    buildOn sha256 next = .ok plan ∧ validatePlan sha256 plan = .error planInvalid := by
  refine ⟨listedLedger "2026-09-13T14Z", fun sha256 => ?_⟩
  obtain ⟨first, built⟩ := built_of_isSome builds_listed
  obtain ⟨plan, success⟩ := build_any built sha256
  obtain ⟨material, -, facts⟩ := built_ok success
  refine ⟨plan, success, ?_⟩
  cases outcome : checkPlan sha256 plan with
  | ok found =>
    exact absurd (assetsMapping_of_checkPlan native_listed facts outcome) (not_assetsMapping_listed _)
  | error raised => rw [validatePlan, outcome]

theorem builds_mapped : (buildOn constantHash (ledgerOn "2026-09-13T14Z")).toOption.isSome = true := by
  decide +kernel

theorem built_plan_validates_mapped : ∃ plan,
    buildOn constantHash (ledgerOn "2026-09-13T14Z") = .ok plan
      ∧ Validates constantHash (ledgerOn "2026-09-12T14Z") (ledgerOn "2026-09-13T14Z") plannedInterval plan := by
  obtain ⟨plan, success⟩ := built_of_isSome builds_mapped
  refine ⟨plan, success, ?_⟩
  rw [built_plan_validates_iff hexDigests_constant native_mapped success]
  exact ⟨_, ⟨[("BNB", .none)]⟩, rfl, rfl⟩

end BinancePlatform.Guarantees.ReceiptPlans
