import BinancePlatform.Library.Effects
import BinancePlatform.Source.Equality
import BinancePlatform.Source.JsonReader

/-!
# The authority reissue

`run_update` of `update_binance_authority_reissue.py`. The environment is one secret and
two variables; a write that is not acknowledged may have been applied. SHA-256 is a
parameter.
-/

set_option autoImplicit false

namespace BinancePlatform.Source
open BinancePlatform.Library

/-- A byte string: the UTF-8 form of a text, or not UTF-8. -/
inductive RawBytes where
  | utf8 (text : List Char)
  | other (bytes : List UInt8)
  deriving DecidableEq

def RawBytes.size : RawBytes → ℕ
  | .utf8 text => (text.map Char.utf8Size).sum
  | .other bytes => bytes.length

/-! ## Strict JSON -/

/-- Why a strict reader refuses a text. -/
inductive JsonRefusal where
  | notUtf8
  | malformed
  | constant
  | duplicate
  deriving DecidableEq

namespace StrictJson
open JsonReader

def found {α : Type} : Option α → Except JsonRefusal α
  | some x => .ok x
  | none => .error .malformed

def plainLiterals : List String := ["null", "true", "false"]

/-- `parse_constant` refuses the other literals. -/
def readScalar (cs : List Char) : Except JsonRefusal (Value × List Char) :=
  match readLiteral cs with
  | some read =>
    if plainLiterals.any fun literal => literal.toList.isPrefixOf cs then .ok read else .error .constant
  | none => found (readNumber cs)

/-- The hook of an object's pairs. -/
def strictPairs (members : List (String × Value)) : Except JsonRefusal Value := do
  require (decide (members.map Prod.fst).Nodup) .duplicate
  return .dict (Dict.empty.setAll members)

mutual

def readValue : ℕ → List Char → Except JsonRefusal (Value × List Char)
  | 0, _ => .error .malformed
  | _ + 1, '"' :: rest => do
    let (cs, tail) ← found (readString rest.length rest)
    return (.str (String.ofList cs), tail)
  | fuel + 1, '{' :: rest =>
    match skipSpace rest with
    | '}' :: tail => .ok (.dict .empty, tail)
    | other => do
      let (members, tail) ← readMembers fuel other
      let value ← strictPairs members
      return (value, tail)
  | fuel + 1, '[' :: rest =>
    match skipSpace rest with
    | ']' :: tail => .ok (.list [], tail)
    | other => do
      let (items, tail) ← readItems fuel other
      return (.list items, tail)
  | _ + 1, cs => readScalar cs

def readMembers : ℕ → List Char → Except JsonRefusal (List (String × Value) × List Char)
  | 0, _ => .error .malformed
  | fuel + 1, '"' :: rest => do
    let (key, afterKey) ← found (readString rest.length rest)
    match skipSpace afterKey with
    | ':' :: afterColon =>
      let (value, afterValue) ← readValue fuel (skipSpace afterColon)
      match skipSpace afterValue with
      | '}' :: tail => .ok ([(String.ofList key, value)], tail)
      | ',' :: more =>
        let (others, tail) ← readMembers fuel (skipSpace more)
        return ((String.ofList key, value) :: others, tail)
      | _ => .error .malformed
    | _ => .error .malformed
  | _ + 1, _ => .error .malformed

def readItems : ℕ → List Char → Except JsonRefusal (List Value × List Char)
  | 0, _ => .error .malformed
  | fuel + 1, cs => do
    let (value, afterValue) ← readValue fuel cs
    match skipSpace afterValue with
    | ']' :: tail => .ok ([value], tail)
    | ',' :: more =>
      let (others, tail) ← readItems fuel (skipSpace more)
      return (value :: others, tail)
    | _ => .error .malformed

end

/-- `json.loads` with both hooks. -/
def loads : RawBytes → Except JsonRefusal Value
  | .other _ => .error .notUtf8
  | .utf8 text => do
    let (value, rest) ← readValue (text.length + 1) (skipSpace text)
    require (skipSpace rest).isEmpty .malformed
    return value

end StrictJson

/-! ## The reissue -/

def authorityUpdateError (message : String) : PyException := valueError message
def authorityWriteUncertain : PyException := ⟨.runtimeError, "authority write uncertain"⟩

/-- `(value or "").strip().lower()`. -/
def normalized (s : String) : String := String.ofList ((strip s).toList.map NumberText.lower)

/-- `_require_sha`. -/
def requireSha (value fieldName : String) (length : ℕ) : Except PyException String := do
  require (fullMatch lowerHex length length (normalized value)) (authorityUpdateError ("invalid " ++ fieldName))
  return normalized value

/-- `_strict_json_object`. -/
def strictJsonObject (raw : RawBytes) : Except PyException Document :=
  match StrictJson.loads raw with
  | .error .notUtf8 => .error (authorityUpdateError "authority JSON is not valid UTF-8")
  | .error .malformed => .error (authorityUpdateError "authority JSON is malformed")
  | .error .constant => .error (authorityUpdateError "authority JSON contains non-finite or invalid constants")
  | .error .duplicate => .error (authorityUpdateError "authority JSON contains duplicate keys")
  | .ok value => asMapping (authorityUpdateError "authority JSON root must be an object") value

/-- A match of a version field's pattern: its three groups and what follows. -/
structure FieldMatch where
  opening : List Char
  value : List Char
  rest : List Char
  deriving DecidableEq

/-- The pattern at one place: the quoted name, a colon between spaces, and a quoted revision. -/
def matchField (name : String) (cs : List Char) : Option FieldMatch := do
  let key := '"' :: name.toList ++ ['"']
  if !key.isPrefixOf cs then none
  let afterKey := cs.drop key.length
  let gap := afterKey.takeWhile NumberText.isSpace
  let afterGap ← (afterKey.drop gap.length).head?.bind fun c =>
    if c = ':' then some ((afterKey.drop gap.length).drop 1) else none
  let space := afterGap.takeWhile NumberText.isSpace
  let quoted := (afterGap.drop space.length)
  if quoted.head? ≠ some '"' then none
  let value := (quoted.drop 1).take 40
  if value.length ≠ 40 ∨ !value.all lowerHex ∨ ((quoted.drop 41).head? ≠ some '"') then none
  return ⟨key ++ gap ++ ':' :: space ++ ['"'], value, quoted.drop 42⟩

/-- `pattern.finditer`; fuel bounds the characters. -/
def findFields (name : String) : ℕ → List Char → List FieldMatch
  | 0, _ => []
  | fuel + 1, cs =>
    match matchField name cs with
    | some found => found :: findFields name fuel found.rest
    | none => if cs = [] then [] else findFields name fuel cs.tail

/-- `pattern.sub` of the first match. -/
def replaceField (name : String) (target : List Char) : List Char → List Char
  | [] => []
  | c :: cs =>
    match matchField name (c :: cs) with
    | some found => found.opening ++ target ++ '"' :: found.rest
    | none => c :: replaceField name target cs

/-- `_patch_one_field`. -/
def patchOneField (text : List Char) (fieldName oldValue target : String) : Except PyException (List Char) :=
  if oldValue = target then .ok text
  else
    match findFields fieldName (text.length + 1) text with
    | [only] =>
      if only.value = oldValue.toList then .ok (replaceField fieldName target.toList text)
      else .error (authorityUpdateError ("authority JSON " ++ fieldName ++ " encoding mismatch"))
    | _ => .error (authorityUpdateError ("authority JSON " ++ fieldName ++ " field is ambiguous"))

/-- `_semantic_without_versions`. -/
def semanticWithoutVersions (payload : Document) : Document :=
  (payload.erase "strategy_revision").erase "runner_revision"

/-- A version field of the authority. -/
def versionField (payload : Document) (name : String) : Except PyException String := do
  match pyGet payload name with
  | .str s =>
    require (fullMatch lowerHex 40 40 s) (authorityUpdateError ("authority JSON " ++ name ++ " is invalid"))
    return s
  | _ => throw (authorityUpdateError ("authority JSON " ++ name ++ " is invalid"))

def endsWithNewline (text : List Char) : Bool := text.getLast? = some '\n' || text.getLast? = some '\r'

/-- `patch_version_fields_bytes`: the bytes with the target revisions. -/
def patchVersionFieldsBytes (raw : RawBytes) (targetStrategy targetRunner : String) :
    Except PyException RawBytes := do
  let targetStrategy ← requireSha targetStrategy "target_strategy_revision" 40
  let targetRunner ← requireSha targetRunner "target_runner_revision" 40
  let payload ← strictJsonObject raw
  require (payload.contains "strategy_revision") (authorityUpdateError "authority JSON missing strategy_revision")
  require (payload.contains "runner_revision") (authorityUpdateError "authority JSON missing runner_revision")
  let oldStrategy ← versionField payload "strategy_revision"
  let oldRunner ← versionField payload "runner_revision"
  if oldStrategy = targetStrategy ∧ oldRunner = targetRunner then
    let again ← strictJsonObject raw
    require (Value.equalsDict (semanticWithoutVersions again) (semanticWithoutVersions payload))
      (authorityUpdateError "authority JSON semantic mismatch on reparse")
    return raw
  match raw with
  | .other _ => throw (authorityUpdateError "authority JSON is not valid UTF-8")
  | .utf8 text =>
    let patched ← patchOneField text "strategy_revision" oldStrategy targetStrategy
    let newText ← patchOneField patched "runner_revision" oldRunner targetRunner
    require (endsWithNewline text = endsWithNewline newText)
      (authorityUpdateError "authority JSON newline framing changed")
    let newPayload ← strictJsonObject (.utf8 newText)
    require ((pyGet newPayload "strategy_revision").isStr targetStrategy)
      (authorityUpdateError "patched strategy_revision mismatch")
    require ((pyGet newPayload "runner_revision").isStr targetRunner)
      (authorityUpdateError "patched runner_revision mismatch")
    require (Value.equalsDict (semanticWithoutVersions newPayload) (semanticWithoutVersions payload))
      (authorityUpdateError "non-version authority fields would change")
    return .utf8 newText

/-- The GitHub environment: the authority file's secret and the two variables beside it. -/
structure AuthorityEnvironment where
  secret : RawBytes
  sha256 : String
  sourceRevision : String
  deriving DecidableEq

/-- What becomes of one write, and whether a write that is not acknowledged was applied. -/
inductive RemoteWriteOutcome where
  | submitted
  | failed (applied : Bool)
  | uncertain (applied : Bool)
  deriving DecidableEq

/-- What the world answers one call: the flag and the runs at each of its two reads, or a
read that raises, and the outcome of each write. -/
structure Gateway where
  reads : ℕ → Except PyException (String × List String)
  secretWrite : RemoteWriteOutcome
  sha256Write : RemoteWriteOutcome
  sourceWrite : RemoteWriteOutcome

structure UpdateRequest where
  mode : String
  rawAuthority : RawBytes
  targetStrategyRevision : String
  targetRunnerRevision : String
  targetSourceRevision : String
  expectedAuthoritySha256 : String
  expectedSourceRevision : String
  maintenanceWorkflowSha : String
  writeTokenPresent : Bool

/-- The status of a result that is returned. -/
inductive UpdateStatus where
  | alreadyAtTarget
  | planOk
  | applySubmitted
  deriving DecidableEq

abbrev Reissue := Program PyException AuthorityEnvironment

namespace Reissue

def evaluate {α : Type} (outcome : Except PyException α) : Reissue α := fun s => (outcome, s)

end Reissue

/-- One remote write and the exception it is reported by. -/
def remoteWrite (outcome : RemoteWriteOutcome) (failure : String)
    (apply : AuthorityEnvironment → AuthorityEnvironment) : Reissue Unit :=
  match outcome with
  | .submitted => .update apply
  | .failed applied => do
    Program.update fun s => if applied then apply s else s
    Program.leave (authorityUpdateError failure)
  | .uncertain applied => do
    Program.update fun s => if applied then apply s else s
    Program.leave authorityWriteUncertain

/-- `assert_preconditions`. -/
def assertPreconditions (flags : String × List String) (environment : AuthorityEnvironment)
    (expectedSha256 expectedSourceRevision : String) : Except PyException Unit := do
  let expectedSha ← requireSha expectedSha256 "expected_authority_sha256" 64
  let expectedSource ← requireSha expectedSourceRevision "expected_source_revision" 40
  require (normalized flags.1 = "false")
    (authorityUpdateError "RUNTIME_TARGET_ENABLED must be false before apply/plan")
  require (normalized environment.sha256 = expectedSha)
    (authorityUpdateError "live BINANCE_RISK_AUTHORITY_SHA256 does not match expectation")
  require (normalized environment.sourceRevision = expectedSource)
    (authorityUpdateError "live BINANCE_RISK_AUTHORITY_SOURCE_REVISION does not match expectation")
  require flags.2.isEmpty (authorityUpdateError "in-progress Runtime-related runs are present")

section Update
variable (digest : RawBytes → String)

/-- `gateway.read_preconditions` and their check. -/
def checkedRead (gateway : Gateway) (n : ℕ) (request : UpdateRequest) (expectedSource : String) : Reissue Unit := do
  let environment ← Program.get
  let flags ← Reissue.evaluate (gateway.reads n)
  Reissue.evaluate (assertPreconditions flags environment request.expectedAuthoritySha256 expectedSource)

/-- The arguments of `run_update` that are checked first. -/
structure UpdateTargets where
  mode : String
  strategy : String
  runner : String
  source : String
  expectedSource : String

def updateTargets (request : UpdateRequest) : Except PyException UpdateTargets := do
  let mode := normalized request.mode
  require (mode = "plan" || mode = "apply") (authorityUpdateError "mode must be plan or apply")
  let _ ← requireSha request.maintenanceWorkflowSha "maintenance_workflow_sha" 40
  let strategy ← requireSha request.targetStrategyRevision "target_strategy_revision" 40
  let runner ← requireSha request.targetRunnerRevision "target_runner_revision" 40
  let source ← requireSha request.targetSourceRevision "target_source_revision" 40
  let expectedSource ← requireSha request.expectedSourceRevision "expected_source_revision" 40
  return { mode, strategy, runner, source, expectedSource }

/-- `verify_old_digest` and the patch. -/
def plannedBytes (request : UpdateRequest) (targets : UpdateTargets) : Except PyException RawBytes := do
  let expected ← requireSha request.expectedAuthoritySha256 "expected_authority_sha256" 64
  require (digest request.rawAuthority = expected)
    (authorityUpdateError "authority bytes do not match expected_authority_sha256")
  patchVersionFieldsBytes request.rawAuthority targets.strategy targets.runner

/-- The three writes, each skipped when it is not needed. -/
def submit (gateway : Gateway) (request : UpdateRequest) (targets : UpdateTargets) (newRaw : RawBytes) :
    Reissue Unit := do
  if newRaw ≠ request.rawAuthority then
    remoteWrite gateway.secretWrite "environment secret write failed" fun s => { s with secret := newRaw }
    remoteWrite gateway.sha256Write
      "environment SHA256 write failed after secret submit; do not retry blindly"
      fun s => { s with sha256 := digest newRaw }
  if targets.expectedSource ≠ targets.source then
    remoteWrite gateway.sourceWrite "environment source revision write failed; do not retry blindly"
      fun s => { s with sourceRevision := targets.source }

/-- `run_update`. -/
def runUpdate (gateway : Gateway) (request : UpdateRequest) : Reissue UpdateStatus := do
  let targets ← Reissue.evaluate (updateTargets request)
  checkedRead gateway 0 request targets.expectedSource
  let newRaw ← Reissue.evaluate (plannedBytes digest request targets)
  if newRaw = request.rawAuthority ∧ targets.expectedSource = targets.source then return .alreadyAtTarget
  if targets.mode = "plan" then return .planOk
  Reissue.evaluate (require request.writeTokenPresent
    (authorityUpdateError "apply requires BINANCE_AUTHORITY_UPDATE_TOKEN"))
  checkedRead gateway 1 request targets.expectedSource
  submit digest gateway request targets newRaw
  return .applySubmitted

end Update

end BinancePlatform.Source
