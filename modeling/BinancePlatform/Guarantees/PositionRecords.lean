import BinancePlatform.Source.SymbolRecords
import BinancePlatform.Guarantees.SaveReload

/-!
# Position records across universe changes

The working document of a run is normalized whenever the trend universe changes and
written symbol by symbol in between. Under the universe of the latest normalization a
USDT symbol other than Bitcoin has its record in exactly one of the two places, and
reading it gives back the last active value written (`performAll_reads`). No run raises
(`performAll_returns`), and normalizing again changes nothing (`normalize_again`).
-/

set_option autoImplicit false

namespace BinancePlatform.Guarantees.PositionRecords
open BinancePlatform.Library BinancePlatform.Source

inductive Operation where
  | normalize (trendUniverse : TrendUniverse)
  | set (trendUniverse : TrendUniverse) (symbol : String) (value : Value)

/-- The universe of the latest normalization. -/
def latestUniverse (first : TrendUniverse) : List Operation → TrendUniverse
  | [] => first
  | .normalize next :: rest => latestUniverse next rest
  | .set _ _ _ :: rest => latestUniverse first rest

/-- Every write takes place under the universe of the latest normalization. -/
def Aligned (current : TrendUniverse) : List Operation → Prop
  | [] => True
  | .normalize next :: rest => Aligned next rest
  | .set used _ _ :: rest => used = current ∧ Aligned current rest

/-- The value last written for a symbol, as a record. -/
def lastWritten (symbol : String) (first : Document) : List Operation → Document
  | [] => first
  | .normalize _ :: rest => lastWritten symbol first rest
  | .set _ written value :: rest =>
    lastWritten symbol (if written = symbol then normalizeSymbolState value else first) rest

section Runs
variable [CharacterTable]

def perform (state : Document) : Operation → Except PyException Document
  | .normalize trendUniverse => normalizeTradeState trendUniverse (.dict state)
  | .set trendUniverse symbol value => setSymbolTradeState trendUniverse state symbol value

def performAll (state : Document) : List Operation → Except PyException Document
  | [] => .ok state
  | operation :: rest => do
    let next ← perform state operation
    performAll next rest

/-- A record is where the universe puts it, and nowhere else. -/
structure Placed (trendUniverse : TrendUniverse) (state : Document) (symbol : String) : Prop where
  inside : symbol ∈ trendUniverse.symbols →
    (∃ value, state.get? symbol = some (.dict (normalizeSymbolState value)))
      ∧ (existingRetired state).get? symbol = none
  outside : symbol ∉ trendUniverse.symbols → state.get? symbol = none
    ∧ ∀ entry, (existingRetired state).get? symbol = some entry → retires entry = true

/-- The record read is the expected one while that is active, and inactive otherwise. -/
def Reads (trendUniverse : TrendUniverse) (state : Document) (symbol : String) (last : Document) :
    Prop :=
  if hasActivePosition last = true then getSymbolTradeState trendUniverse state symbol = last
  else hasActivePosition (getSymbolTradeState trendUniverse state symbol) = false

omit [CharacterTable] in
theorem Reads.refl (trendUniverse : TrendUniverse) (state : Document) (symbol : String) :
    Reads trendUniverse state symbol (getSymbolTradeState trendUniverse state symbol) := by
  unfold Reads
  split
  · rfl
  case isFalse inactive => simpa using inactive

omit [CharacterTable] in
/-- Reads are carried over a change that keeps the record or replaces one inactive record
by another. -/
theorem Reads.carry {before after : TrendUniverse} {state next : Document} {symbol : String}
    {last : Document} (reads : Reads before state symbol last)
    (kept : getSymbolTradeState after next symbol = getSymbolTradeState before state symbol
      ∨ hasActivePosition (getSymbolTradeState before state symbol) = false
        ∧ hasActivePosition (getSymbolTradeState after next symbol) = false) :
    Reads after next symbol last := by
  unfold Reads at *
  rcases kept with same | ⟨wasInactive, isInactive⟩
  · rwa [same]
  · split at reads
    case isTrue active =>
      rw [← reads, wasInactive] at active
      cases active
    case isFalse inactive =>
      rw [if_neg inactive]
      exact isInactive

omit [CharacterTable] in
theorem inactive_default : hasActivePosition (normalizeSymbolState emptyDict) = false := by decide

omit [CharacterTable] in
theorem notRetiredKey {symbol : String} (suffix : endsWithUSDT symbol = true) :
    symbol ≠ retiredTrendPositionsKey := by
  rintro rfl
  revert suffix
  decide

/-! ## One step -/

section Normalize
variable {before after : TrendUniverse} {state next : Document} {symbol : String}

/-- After any normalization the record has one place. -/
theorem normalize_places (success : normalizeTradeState after (.dict state) = .ok next)
    (suffix : endsWithUSDT symbol = true) (notBitcoin : symbol ≠ "BTCUSDT") :
    Placed after next symbol := by
  obtain ⟨working, retired, same⟩ := normalizeTradeState_split success
  have holds : ∀ member ∈ after.symbols, working.contains member = true := by
    intro member inUniverse
    rw [Dict.contains, same member (notRetiredKey (after.suffixed member inUniverse))]
    exact (contains_normalized_suffix success (after.suffixed member inUniverse)).mpr (.inl inUniverse)
  have isRetired : existingRetired next = retiredPositions after state working := by
    rw [existingRetired, retired]
  refine ⟨fun member => ⟨⟨_, get?_normalized_symbol success member⟩, ?_⟩, fun outside => ⟨?_, ?_⟩⟩
  · rw [isRetired]
    by_contra found
    obtain ⟨entry, found⟩ := Option.ne_none_iff_exists'.mp found
    exact (retiredPositions_entry holds found).1 member
  · have absent : next.contains symbol = false := by
      rw [← Bool.not_eq_true, contains_normalized_suffix success suffix]
      simp [outside, notBitcoin]
    simpa [Dict.contains] using absent
  · intro entry found
    rw [isRetired] at found
    exact (retiredPositions_entry holds found).2.1

/-- The retired record of a symbol outside the new universe. -/
theorem normalize_retired (success : normalizeTradeState after (.dict state) = .ok next)
    (suffix : endsWithUSDT symbol = true) (notBitcoin : symbol ≠ "BTCUSDT")
    (outside : symbol ∉ after.symbols) :
    (existingRetired next).get? symbol = (carriedRecord state symbol).map (retiredEntry symbol) := by
  obtain ⟨working, retired, same⟩ := normalizeTradeState_split success
  have free : working.contains symbol = false := by
    rw [Dict.contains, same symbol (notRetiredKey suffix), ← Dict.contains, ← Bool.not_eq_true,
      contains_normalized_suffix success suffix]
    simp [outside, notBitcoin]
  rw [existingRetired, retired]
  exact get?_retiredPositions_carried outside free suffix

/-- Normalizing under another universe moves the record without changing what is read. -/
theorem normalize_reads (placed : Placed before state symbol)
    (success : normalizeTradeState after (.dict state) = .ok next)
    (suffix : endsWithUSDT symbol = true) (notBitcoin : symbol ≠ "BTCUSDT") :
    getSymbolTradeState after next symbol = getSymbolTradeState before state symbol
      ∨ hasActivePosition (getSymbolTradeState before state symbol) = false
        ∧ hasActivePosition (getSymbolTradeState after next symbol) = false := by
  by_cases enters : symbol ∈ after.symbols
  · left
    rw [getSymbolTradeState_inside enters, get?_normalized_symbol success enters, Option.getD_some]
    by_cases member : symbol ∈ before.symbols
    · obtain ⟨⟨value, own⟩, unretired⟩ := placed.inside member
      rw [getSymbolTradeState_inside member, own, Option.getD_some,
        mergedSymbolState_normalized own unretired, normalizeSymbolState_idem]
    · obtain ⟨absent, active⟩ := placed.outside member
      rw [getSymbolTradeState_outside member, mergedSymbolState, absent]
      cases found : (existingRetired state).get? symbol with
      | none =>
        rw [normalizeSymbolState_idem]
        rfl
      | some entry =>
        have shape := active entry found
        rw [normalizeSymbolState_idem, Option.getD_some]
        cases entry with
        | dict fields =>
          rw [retires, Bool.and_eq_true] at shape
          simp only [trendSource, shape.1, if_true]
          refine normalizeSymbolState_congr fun key => ?_
          rw [Dict.get?_update, Dict.get?_update]
          simp
        | _ => cases shape
  · rw [getSymbolTradeState_outside enters, normalize_retired success suffix notBitcoin enters,
      carriedRecord]
    by_cases member : symbol ∈ before.symbols
    · obtain ⟨⟨value, own⟩, unretired⟩ := placed.inside member
      rw [getSymbolTradeState_inside member, own, unretired, Option.getD_some]
      by_cases active : retires (.dict (normalizeSymbolState value)) = true
      · left
        rw [Option.filter_some, if_pos active, Option.some_or, Option.map_some, Option.getD_some,
          normalizeSymbolState_retiredEntry]
      · right
        rw [Option.filter_some, if_neg active]
        rw [retires, isTrendSymbolState_normalized, Bool.true_and] at active
        exact ⟨by simpa using active, inactive_default⟩
    · left
      obtain ⟨absent, active⟩ := placed.outside member
      rw [getSymbolTradeState_outside member, absent]
      cases found : (existingRetired state).get? symbol with
      | none => rfl
      | some entry =>
        rw [Option.filter_none, Option.none_or, Option.filter_some, if_pos (active entry found),
          Option.map_some, Option.getD_some, Option.getD_some, normalizeSymbolState_retiredEntry]

end Normalize

section Set
variable {trendUniverse : TrendUniverse} {state next : Document} {symbol written : String} {value : Value}

theorem set_places (placed : Placed trendUniverse state symbol)
    (success : setSymbolTradeState trendUniverse state written value = .ok next)
    (suffix : endsWithUSDT symbol = true) : Placed trendUniverse next symbol := by
  obtain ⟨fields, retired, inside, outside⟩ := setSymbolTradeState_ok success
  by_cases same : symbol = written
  · subst same
    refine ⟨fun member => ⟨⟨value, (inside member).1⟩, (inside member).2⟩, fun notMember => ?_⟩
    obtain ⟨kept, existing, stored⟩ := outside notMember
    refine ⟨(kept (notRetiredKey suffix)).trans (placed.outside notMember).1, fun entry found => ?_⟩
    rw [stored] at found
    split at found
    case isTrue active =>
      cases found
      exact retires_heldEntry existing active
    case isFalse => cases found
  · have own := fields symbol same (notRetiredKey suffix)
    have other := retired symbol same
    constructor
    · rw [own, other]
      exact placed.inside
    · rw [own, other]
      exact placed.outside

theorem set_reads {last : Document} (reads : Reads trendUniverse state symbol last)
    (success : setSymbolTradeState trendUniverse state written value = .ok next)
    (suffix : endsWithUSDT symbol = true) :
    Reads trendUniverse next symbol (if written = symbol then normalizeSymbolState value else last) := by
  obtain ⟨fields, retired, inside, outside⟩ := setSymbolTradeState_ok success
  by_cases same : written = symbol
  · subst same
    rw [if_pos rfl]
    by_cases member : written ∈ trendUniverse.symbols
    · have shown := Reads.refl trendUniverse next written
      rwa [getSymbolTradeState_inside member, (inside member).1, Option.getD_some,
        normalizeSymbolState_idem] at shown
    · obtain ⟨-, existing, stored⟩ := outside member
      unfold Reads
      rw [getSymbolTradeState_outside member, stored]
      split
      case isTrue active =>
        rw [Option.getD_some, normalizeSymbolState_heldEntry]
      case isFalse => exact inactive_default
  · rw [if_neg same]
    refine reads.carry (.inl ?_)
    by_cases member : symbol ∈ trendUniverse.symbols
    · rw [getSymbolTradeState_inside member, getSymbolTradeState_inside member,
        fields symbol (Ne.symm same) (notRetiredKey suffix)]
    · rw [getSymbolTradeState_outside member, getSymbolTradeState_outside member,
        retired symbol (Ne.symm same)]

end Set

/-! ## Whole runs -/

/-- The induction over the operations: the record stays in one place and reads as the last one
written. -/
theorem performAll_reads {current : TrendUniverse} {state final : Document} {symbol : String}
    {last : Document} {operations : List Operation} (placed : Placed current state symbol)
    (reads : Reads current state symbol last) (suffix : endsWithUSDT symbol = true)
    (notBitcoin : symbol ≠ "BTCUSDT") (aligned : Aligned current operations)
    (success : performAll state operations = .ok final) :
    Placed (latestUniverse current operations) final symbol
      ∧ Reads (latestUniverse current operations) final symbol (lastWritten symbol last operations) := by
  induction operations generalizing current state last with
  | nil =>
    cases success
    exact ⟨placed, reads⟩
  | cons operation rest ih =>
    obtain ⟨next, stepped, others⟩ := bind_ok success
    cases operation with
    | normalize after =>
      exact ih (normalize_places stepped suffix notBitcoin)
        (reads.carry (normalize_reads placed stepped suffix notBitcoin)) aligned others
    | set used written value =>
      obtain ⟨rfl, aligned⟩ := aligned
      exact ih (set_places placed stepped suffix) (set_reads reads stepped suffix) aligned others

/-- A normalized document carries nothing that a second normalization drops or retires. -/
theorem normalized_reloads {trendUniverse : TrendUniverse} {state normalized : Document}
    (success : normalizeTradeState trendUniverse (.dict state) = .ok normalized) :
    SaveReload.ReloadsExactly trendUniverse normalized state := by
  refine ⟨?_, ?_, ?_⟩
  · rintro ⟨marker, found⟩
    rw [get?_normalized_rebase success] at found
    split at found
    case h_1 stored present => exact ⟨stored, present⟩
    case h_2 => cases found
  · intro key field present
    rwa [get?_normalized_earn success field] at present
  · intro symbol payload stale
    have held : normalized.contains symbol = true := by
      rw [Dict.contains, stale.stored]
      rfl
    rcases (contains_normalized_suffix success stale.suffix).mp held with member | bitcoin
    · exact absurd member stale.outside
    · exact absurd bitcoin stale.notBitcoin

/-- Normalization is idempotent under a fixed universe. -/
theorem normalize_again {trendUniverse : TrendUniverse} {state normalized : Document}
    (success : normalizeTradeState trendUniverse (.dict state) = .ok normalized) :
    ∃ again, normalizeTradeState trendUniverse (.dict normalized) = .ok again
      ∧ again.Same normalized := by
  have own : intendedDocument normalized normalized = normalized := normalized.update_self
  obtain ⟨again, reload⟩ := (normalizeTradeState_returns_iff trendUniverse
    (intendedDocument normalized normalized)).mpr (SaveReload.reload_basis success).1
  have same := SaveReload.reload_exact success reload (normalized_reloads success)
  rw [own] at reload
  exact ⟨again, reload, same⟩

/-- A state that is no mapping normalizes to the default document, as the empty one does. -/
theorem normalizeTradeState_empty (trendUniverse : TrendUniverse) :
    normalizeTradeState trendUniverse (.dict .empty) = .ok (buildDefaultState trendUniverse) := by
  have fields : normalizeFields trendUniverse .empty = buildDefaultState trendUniverse := by
    refine Dict.setAll_of_present fun entry member => ?_
    obtain ⟨⟨key, value⟩, inItems, produced⟩ := List.mem_filterMap.mp member
    obtain ⟨merged, kept, rfl⟩ := Option.map_eq_some_iff.mp produced
    dsimp only at kept
    split at kept
    · cases kept
    · cases kept
      have unmerged : mergeDefault value none = value := by cases value <;> rfl
      simpa [unmerged] using (Dict.mem_items _ _ _).mp inItems
  have symbols : normalizeSymbols trendUniverse .empty (buildDefaultState trendUniverse)
      = buildDefaultState trendUniverse := by
    refine Dict.setAll_of_present fun entry member => ?_
    obtain ⟨symbol, inUniverse, rfl⟩ := List.mem_map.mp member
    rw [get?_buildDefaultState, if_pos inUniverse]
    rfl
  have retired : (buildDefaultState trendUniverse).get? retiredTrendPositionsKey = some emptyDict := by
    rw [get?_buildDefaultState, if_neg (not_symbol_of_suffix trendUniverse (by decide))]
    rfl
  rw [normalizeTradeState, fields]
  change Except.ok ((normalizeSymbols trendUniverse .empty (buildDefaultState trendUniverse)).set
    retiredTrendPositionsKey emptyDict) = _
  rw [symbols, Dict.set_of_get? retired]

/-- Any input normalizes as some mapping does. -/
theorem normalize_mapping {trendUniverse : TrendUniverse} {raw : Value} {normalized : Document}
    (success : normalizeTradeState trendUniverse raw = .ok normalized) :
    ∃ state, normalizeTradeState trendUniverse (.dict state) = .ok normalized := by
  cases raw with
  | dict state => exact ⟨state, success⟩
  | _ =>
    cases success
    exact ⟨.empty, normalizeTradeState_empty trendUniverse⟩

/-! ## No run raises -/

/-- The accounting is readable and every retired entry is a mapping. -/
structure Ready (state : Document) : Prop where
  accounting : AccountingReadable state
  retired : ∀ symbol entry, (existingRetired state).get? symbol = some entry → ∃ d, entry = .dict d

theorem normalize_ready {trendUniverse : TrendUniverse} {state normalized : Document}
    (success : normalizeTradeState trendUniverse (.dict state) = .ok normalized) : Ready normalized := by
  have own : intendedDocument normalized normalized = normalized := normalized.update_self
  obtain ⟨fields, -, -, carried, entryOf⟩ := SaveReload.intended_retired success normalized
  constructor
  · have readable : AccountingReadable (intendedDocument normalized normalized) :=
      (SaveReload.reload_basis success).1
    rwa [own] at readable
  · rw [own] at carried
    intro symbol entry found
    rw [carried] at found
    have active := (entryOf symbol entry found).2.1
    cases entry with
    | dict d => exact ⟨d, rfl⟩
    | _ => cases active

theorem set_returns {state : Document} (ready : Ready state) (trendUniverse : TrendUniverse)
    (symbol : String) (value : Value) :
    ∃ next, setSymbolTradeState trendUniverse state symbol value = .ok next := by
  unfold setSymbolTradeState
  dsimp only
  rw [existingRetired_withRetiredPositions]
  by_cases member : symbol ∈ trendUniverse.symbols
  · rw [if_pos member]
    split <;> exact ⟨_, rfl⟩
  · rw [if_neg member]
    split
    · cases found : (existingRetired state).get? symbol with
      | none => exact ⟨_, rfl⟩
      | some entry =>
        obtain ⟨d, rfl⟩ := ready.retired symbol entry found
        exact ⟨_, rfl⟩
    · exact ⟨_, rfl⟩

theorem set_ready {trendUniverse : TrendUniverse} {state next : Document} {symbol : String}
    {value : Value} (ready : Ready state)
    (success : setSymbolTradeState trendUniverse state symbol value = .ok next) : Ready next := by
  obtain ⟨fields, retired, inside, outside⟩ := setSymbolTradeState_ok success
  have kept : ∀ key, endsWithUSDT key = false → key ≠ retiredTrendPositionsKey →
      next.get? key = state.get? key := by
    intro key plain notRetired
    by_cases same : key = symbol
    · subst same
      exact (outside (not_symbol_of_suffix trendUniverse plain)).1 notRetired
    · exact fields key same notRetired
  constructor
  · intro recorded
    rw [kept _ (by decide) (by decide)] at recorded
    obtain ⟨valid, reads⟩ := ready.accounting recorded
    refine ⟨valid, Eq.trans (trendAccountingValid_congr fun field member => ?_) reads⟩
    have plain : ∀ k ∈ accountingFields, endsWithUSDT k = false ∧ k ≠ retiredTrendPositionsKey := by
      decide
    exact kept field (plain field member).1 (plain field member).2
  · intro other entry found
    by_cases same : other = symbol
    · subst same
      by_cases member : other ∈ trendUniverse.symbols
      · rw [(inside member).2] at found
        cases found
      · obtain ⟨-, existing, stored⟩ := outside member
        rw [stored] at found
        split at found <;> cases found
        exact ⟨_, rfl⟩
    · rw [retired other same] at found
      exact ready.retired other entry found

/-- No operation raises on a state that is ready. -/
theorem performAll_returns {state : Document} (ready : Ready state) (operations : List Operation) :
    ∃ final, performAll state operations = .ok final ∧ Ready final := by
  induction operations generalizing state with
  | nil => exact ⟨state, rfl, ready⟩
  | cons operation rest ih =>
    have stepped : ∃ next, perform state operation = .ok next ∧ Ready next := by
      cases operation with
      | normalize trendUniverse =>
        obtain ⟨next, success⟩ := (normalizeTradeState_returns_iff trendUniverse state).mpr ready.accounting
        exact ⟨next, success, normalize_ready success⟩
      | set trendUniverse symbol value =>
        obtain ⟨next, success⟩ := set_returns ready trendUniverse symbol value
        exact ⟨next, success, set_ready ready success⟩
    obtain ⟨next, step, nextReady⟩ := stepped
    obtain ⟨final, others, finalReady⟩ := ih nextReady
    refine ⟨final, ?_, finalReady⟩
    rw [performAll, step]
    exact others

/-- The main result: in a run of normalizations under arbitrary universes and of writes
under the universe of the moment, no record is lost, kept twice or revived. -/
theorem records_survive_universe_changes {first : TrendUniverse} {raw : Value} {start : Document}
    {operations : List Operation} (normalized : normalizeTradeState first raw = .ok start)
    (aligned : Aligned first operations) :
    ∃ final, performAll start operations = .ok final
      ∧ (∀ symbol, endsWithUSDT symbol = true → symbol ≠ "BTCUSDT" →
        Reads (latestUniverse first operations) final symbol
            (lastWritten symbol (getSymbolTradeState first start symbol) operations)
          ∧ ¬ ((final.get? symbol).isSome = true ∧ ((existingRetired final).get? symbol).isSome = true))
      ∧ ∀ trendUniverse value result, normalizeTradeState trendUniverse value = .ok result →
        ∃ again, normalizeTradeState trendUniverse (.dict result) = .ok again ∧ again.Same result := by
  obtain ⟨state, started⟩ := normalize_mapping normalized
  obtain ⟨final, run, -⟩ := performAll_returns (normalize_ready started) operations
  refine ⟨final, run, fun symbol suffix notBitcoin => ?_, fun _ _ _ success => ?_⟩
  case refine_2 =>
    obtain ⟨source, again⟩ := normalize_mapping success
    exact normalize_again again
  obtain ⟨placed, reads⟩ := performAll_reads (normalize_places started suffix notBitcoin)
    (Reads.refl first start symbol) suffix notBitcoin aligned run
  refine ⟨reads, ?_⟩
  rintro ⟨own, retired⟩
  by_cases member : symbol ∈ (latestUniverse first operations).symbols
  · rw [(placed.inside member).2] at retired
    cases retired
  · rw [(placed.outside member).1] at own
    cases own

end Runs

section Sample

local instance : CharacterTable := asciiTable

theorem none_suffixed : ∀ symbol ∈ ([] : List String), endsWithUSDT symbol = true := nofun

def solana : TrendUniverse := ⟨["SOLUSDT"], by simp, by decide⟩
def bitcoin : TrendUniverse := ⟨["BTCUSDT"], by simp, by decide⟩
def nothing : TrendUniverse := ⟨[], List.nodup_nil, none_suffixed⟩

def heldRecord : Value := .dict ⟨[("is_holding", .bool true)]⟩

theorem records_survive_universe_changes_solana :
    ∃ start, normalizeTradeState solana .none = .ok start ∧ ∃ final, performAll start
        [.set solana "SOLUSDT" heldRecord, .normalize nothing, .normalize solana] = .ok final
      ∧ (∀ symbol, endsWithUSDT symbol = true → symbol ≠ "BTCUSDT" →
        Reads solana final symbol (lastWritten symbol (getSymbolTradeState solana start symbol)
            [.set solana "SOLUSDT" heldRecord, .normalize nothing, .normalize solana])
          ∧ ¬ ((final.get? symbol).isSome = true ∧ ((existingRetired final).get? symbol).isSome = true))
      ∧ ∀ trendUniverse value result, normalizeTradeState trendUniverse value = .ok result →
        ∃ again, normalizeTradeState trendUniverse (.dict result) = .ok again ∧ again.Same result :=
  ⟨_, rfl, records_survive_universe_changes
    (show normalizeTradeState solana .none = .ok _ from rfl) ⟨rfl, trivial⟩⟩

/-- The record a symbol has at the end of a run from the default document is active. -/
def endsActive (first : TrendUniverse) (operations : List Operation) (symbol : String) : Bool :=
  match performAll (buildDefaultState first) operations with
  | .ok final => hasActivePosition (getSymbolTradeState (latestUniverse first operations) final symbol)
  | .error _ => false

/-- Closed under another universe than that of the latest normalization, a position comes
back from the top level; Bitcoin as a trend symbol loses its position when it leaves. -/
theorem closed_elsewhere_revives_and_bitcoin_is_lost :
    (¬ ∀ (first : TrendUniverse) (start final : Document) (operations : List Operation) (symbol : String),
      normalizeTradeState first .none = .ok start → performAll start operations = .ok final →
      endsWithUSDT symbol = true → Reads (latestUniverse first operations) final symbol
        (lastWritten symbol (getSymbolTradeState first start symbol) operations))
    ∧ ¬ ∀ (first : TrendUniverse) (start final : Document) (operations : List Operation) (symbol : String),
      normalizeTradeState first .none = .ok start → Aligned first operations →
      performAll start operations = .ok final →
      endsWithUSDT symbol = true → Reads (latestUniverse first operations) final symbol
        (lastWritten symbol (getSymbolTradeState first start symbol) operations) := by
  constructor
  · intro survives
    have revived : endsActive solana [.set solana "SOLUSDT" heldRecord,
        .set nothing "SOLUSDT" .none, .normalize nothing] "SOLUSDT" = true := by decide +kernel
    unfold endsActive at revived
    split at revived
    case h_2 => cases revived
    case h_1 final run =>
      have reads := survives solana _ final _ "SOLUSDT" rfl run (by decide)
      unfold Reads at reads
      rw [if_neg (by decide)] at reads
      rw [reads] at revived
      cases revived
  · intro survives
    have lost : endsActive bitcoin [.set bitcoin "BTCUSDT" heldRecord, .normalize nothing] "BTCUSDT"
        = false := by decide +kernel
    unfold endsActive at lost
    have returned := (performAll_returns (normalize_ready (normalizeTradeState_empty bitcoin))
      [.set bitcoin "BTCUSDT" heldRecord, .normalize nothing])
    obtain ⟨final, run, -⟩ := returned
    rw [run] at lost
    have reads := survives bitcoin _ final [.set bitcoin "BTCUSDT" heldRecord, .normalize nothing]
      "BTCUSDT" rfl ⟨rfl, trivial⟩ run (by decide)
    unfold Reads at reads
    rw [if_pos (by decide)] at reads
    dsimp only at lost
    rw [reads] at lost
    revert lost
    decide

end Sample
end BinancePlatform.Guarantees.PositionRecords
