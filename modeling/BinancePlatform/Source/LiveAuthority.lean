import BinancePlatform.Source.AuthorityReissue
import BinancePlatform.Source.EarnAccrual
import BinancePlatform.Source.FillAccounting

/-!
# The live risk authority

`load_live_risk_authority` of `live_risk_authority.py`: the digest of the file against its
variable, then the approval that the bytes spell out. The versions that run are given.
-/

set_option autoImplicit false

namespace BinancePlatform.Source
open BinancePlatform.Library

def liveRiskAuthorityError (reason : String) : PyException :=
  valueError ("live risk authority configuration invalid: " ++ reason)

/-- `_digest`. -/
def authorityDigest (value field : String) (length : ℕ) : Except PyException String := do
  require (fullMatch lowerHex length length value) (liveRiskAuthorityError ("invalid " ++ field))
  return value

structure RuntimeTarget where
  platformId : String
  strategyProfile : String
  accountScope : String
  accountSelector : List String
  deploymentSelector : String

def authorityFields : List String :=
  ["decision", "authority_scope", "runtime_target", "strategy_revision", "runner_revision", "config_sha256",
   "continuous_inputs_allowed", "mandate"]

def runtimeTargetFields : List String :=
  ["platform_id", "strategy_profile", "account_scope", "account_selector", "deployment_selector"]

def optionalMandateFields : List String :=
  ["product_effective_caps", "max_nonzero_assets", "budget_policy", "validity_mode", "loss_budget"]

def requiredMandateFields : List String :=
  ["mandate_id", "mandate_version", "effective_at", "expires_at", "max_snapshot_age_seconds",
   "effective_exposure_cap", "product_caps", "nominal_caps", "product_leverage_factors",
   "allowed_nonzero_assets"]

def forbiddenAuthorityFields : List String :=
  ["no_live", "no_order", "no_paper", "no_shadow", "research_only", "paper_only"]

/-- `_target_binding`. -/
def targetBinding : Option RuntimeTarget → Except PyException RuntimeTarget
  | none => .error (liveRiskAuthorityError "runtime target is missing")
  | some target => do
    require ([target.platformId, target.strategyProfile, target.accountScope, target.deploymentSelector].all
      fun text => text ≠ "" && text ≠ "None") (liveRiskAuthorityError "runtime target identity is incomplete")
    require (target.accountScope ≠ "default" && target.accountSelector ≠ []
        && target.accountSelector ≠ ["default"])
      (liveRiskAuthorityError "runtime target account identity is ambiguous")
    require (target.accountSelector.all fun selector => strip selector ≠ "" && selector ≠ "default")
      (liveRiskAuthorityError "runtime target account identity is ambiguous")
    return target

/-- `_validate_target_binding`. -/
def validateTargetBinding (value : Value) (runtimeTarget : Option RuntimeTarget) :
    Except PyException RuntimeTarget := do
  let binding ← asMapping (liveRiskAuthorityError "runtime target binding is invalid") value
  require (sameKeySet binding.keys runtimeTargetFields)
    (liveRiskAuthorityError "runtime target binding is invalid")
  let expected ← targetBinding runtimeTarget
  require ((pyGet binding "account_selector").equals (.list (expected.accountSelector.map Value.str))
      && (pyGet binding "platform_id").isStr expected.platformId
      && (pyGet binding "strategy_profile").isStr expected.strategyProfile
      && (pyGet binding "account_scope").isStr expected.accountScope
      && (pyGet binding "deployment_selector").isStr expected.deploymentSelector)
    (liveRiskAuthorityError "runtime target mismatch")
  return expected

/-- `_parse_utc`. -/
def parseAuthorityUtc (value : Value) (field : String) : Except PyException Instant :=
  match value with
  | .str s =>
    match (DateTime.fromIsoformat (zuluReplaced s)).filter fun parsed => parsed.offset = some 0 with
    | some parsed => .ok (parsed.instant?.getD 0)
    | none => .error (liveRiskAuthorityError ("invalid " ++ field))
  | _ => .error (liveRiskAuthorityError ("invalid " ++ field))

/-- `_finite` within bounds; an integer beyond every float overflows. -/
def finiteAuthorityField (value : Value) (field : String) (minimum : PyFloat) (maximum : Option PyFloat) :
    Except PyException Unit :=
  match value with
  | .bool _ => .error (liveRiskAuthorityError ("invalid " ++ field))
  | _ =>
    match value.toFloat with
    | .error raised =>
      .error (if raised = overflowError then raised else liveRiskAuthorityError ("invalid " ++ field))
    | .ok number =>
      require (number.isFinite && !number.lt minimum && maximum.all fun bound => !bound.lt number)
        (liveRiskAuthorityError ("invalid " ++ field))

def isBlankText : Value → Bool
  | .str s => strip s = ""
  | _ => true

/-- The budget of a mandate: a loss budget, or the dynamic policy without one. -/
def validateBudget (mandate : Document) : Except PyException Unit :=
  match pyGet mandate "budget_policy" with
  | .none => do
    require (mandate.contains "loss_budget") (liveRiskAuthorityError "mandate fields are incomplete")
    finiteAuthorityField (pyGet mandate "loss_budget") "loss_budget" .zero none
  | .dict policy => do
    require (sameKeySet policy.keys ["mode"] && (pyGet policy "mode").isStr "managed_usdt_dynamic")
      (liveRiskAuthorityError "invalid budget policy")
    require ((pyGet mandate "loss_budget").equals .none)
      (liveRiskAuthorityError "dynamic budget policy cannot contain loss_budget")
  | _ => .error (liveRiskAuthorityError "invalid budget policy")

/-- The validity of a mandate at an instant. -/
def validateValidity (mandate : Document) (now : Instant) : Except PyException Unit := do
  let effectiveAt ← parseAuthorityUtc (pyGet mandate "effective_at") "effective_at"
  let mode := (mandate.get? "validity_mode").getD (.str "fixed_expiry")
  require mode.hashable typeError
  require (mode.isStr "fixed_expiry" || mode.isStr "until_revoked")
    (liveRiskAuthorityError "invalid validity mode")
  if mode.isStr "until_revoked" then
    require ((pyGet mandate "expires_at").equals .none)
      (liveRiskAuthorityError "until-revoked authority must not contain expires_at")
  else
    let expiresAt ← parseAuthorityUtc (pyGet mandate "expires_at") "expires_at"
    require (decide (effectiveAt < expiresAt) && decide (now < expiresAt))
      (liveRiskAuthorityError "authority expired or not yet effective")
  require (decide (effectiveAt ≤ now)) (liveRiskAuthorityError "authority expired or not yet effective")

/-- A cap is a mapping or a number. -/
def isCap : Value → Bool
  | .dict _ | .int _ | .float _ => true
  | _ => false

/-- `_validate_mandate`. -/
def validateMandate (value : Value) (now : Instant) : Except PyException Document := do
  let mandate ← asMapping (liveRiskAuthorityError "mandate fields are incomplete") value
  require (requiredMandateFields.all fun field => mandate.contains field)
    (liveRiskAuthorityError "mandate fields are incomplete")
  require (mandate.keys.all (· ∈ requiredMandateFields ++ optionalMandateFields))
    (liveRiskAuthorityError "mandate fields are unsupported")
  require (!forbiddenAuthorityFields.any fun field => mandate.contains field)
    (liveRiskAuthorityError "mandate contains contradictory execution flags")
  ["mandate_id", "mandate_version"].forM fun field =>
    require (!isBlankText (pyGet mandate field)) (liveRiskAuthorityError ("invalid " ++ field))
  validateValidity mandate now
  finiteAuthorityField (pyGet mandate "max_snapshot_age_seconds") "max_snapshot_age_seconds"
    (.nearest false (1 / 1000)) none
  finiteAuthorityField (pyGet mandate "effective_exposure_cap") "effective_exposure_cap" .zero (some (.finite false 1))
  validateBudget mandate
  match pyGet mandate "allowed_nonzero_assets" with
  | .list assets =>
    require (!assets.isEmpty && !assets.any isBlankText)
      (liveRiskAuthorityError "allowed_nonzero_assets is invalid")
  | _ => throw (liveRiskAuthorityError "allowed_nonzero_assets is invalid")
  ["product_caps", "nominal_caps", "product_leverage_factors"].forM fun field =>
    require (isCap (pyGet mandate field)) (liveRiskAuthorityError ("invalid " ++ field))
  return mandate

structure LiveRiskAuthority where
  authorityReceiptSha256 : String
  sourceRevision : String
  runtimeTargetBinding : RuntimeTarget
  strategyRevision : String
  runnerRevision : String
  configSha256 : String
  mandate : Document

/-- What the loader is called with beside the environment: a file path, the target and the
versions that run, and the instant. -/
structure LoadContext where
  authorityFile : String
  runtimeTarget : Option RuntimeTarget
  strategyRevision : String
  runnerRevision : String
  configSha256 : String
  now : Instant

/-- `_regular_file_bytes` of the file that holds the secret. -/
def regularFileBytes (file : RawBytes) : Except PyException RawBytes := do
  require (decide (0 < file.size) && decide (file.size ≤ 64 * 1024))
    (liveRiskAuthorityError "authority file size is invalid")
  return file

/-- `_strict_json`. -/
def strictAuthorityJson (raw : RawBytes) : Except PyException Document :=
  match StrictJson.loads raw with
  | .error .duplicate => .error (liveRiskAuthorityError "duplicate authority field")
  | .error .constant => .error (liveRiskAuthorityError "non-finite JSON value")
  | .error _ => .error (liveRiskAuthorityError "invalid authority JSON")
  | .ok value => asMapping (liveRiskAuthorityError "authority JSON must be an object") value

/-- The approval that the loader reads from the bytes. -/
def validateAuthority (context : LoadContext) (raw : RawBytes) : Except PyException (RuntimeTarget × Document) := do
  let payload ← strictAuthorityJson raw
  require (sameKeySet payload.keys authorityFields)
    (liveRiskAuthorityError "authority fields are unsupported or incomplete")
  require ((pyGet payload "decision").isStr "APPROVE") (liveRiskAuthorityError "authority decision is not APPROVE")
  require ((pyGet payload "authority_scope").isStr "LIVE") (liveRiskAuthorityError "authority scope is not LIVE")
  require (isTrue (pyGet payload "continuous_inputs_allowed"))
    (liveRiskAuthorityError "continuous inputs are not approved")
  let binding ← validateTargetBinding (pyGet payload "runtime_target") context.runtimeTarget
  let strategy ← authorityDigest context.strategyRevision "strategy revision" 40
  let runner ← authorityDigest context.runnerRevision "runner revision" 40
  let config ← authorityDigest (String.ofList (context.configSha256.toList.map NumberText.lower))
    "config SHA-256" 64
  require ((pyGet payload "strategy_revision").isStr strategy) (liveRiskAuthorityError "strategy revision mismatch")
  require ((pyGet payload "runner_revision").isStr runner) (liveRiskAuthorityError "runner revision mismatch")
  require ((pyGet payload "config_sha256").isStr config) (liveRiskAuthorityError "config digest mismatch")
  let mandate ← validateMandate (pyGet payload "mandate") context.now
  return (binding, mandate)

/-- `load_live_risk_authority` from an environment; without any parameter there is no authority. -/
def loadLiveRiskAuthority (digest : RawBytes → String) (context : LoadContext)
    (environment : AuthorityEnvironment) : Except PyException (Option LiveRiskAuthority) := do
  let values := [strip context.authorityFile, strip environment.sha256, strip environment.sourceRevision]
  if values.all (· = "") then return none
  require (values.all (· ≠ "")) (liveRiskAuthorityError "authority source parameters are incomplete")
  let raw ← regularFileBytes environment.secret
  let receiptSha256 ← authorityDigest (normalized environment.sha256) "authority SHA-256" 64
  require (digest raw = receiptSha256) (liveRiskAuthorityError "authority file digest mismatch")
  let sourceRevision ← authorityDigest (normalized environment.sourceRevision) "source revision" 40
  let (binding, mandate) ← validateAuthority context raw
  return some { authorityReceiptSha256 := receiptSha256, sourceRevision, runtimeTargetBinding := binding
                strategyRevision := context.strategyRevision, runnerRevision := context.runnerRevision
                configSha256 := String.ofList (context.configSha256.toList.map NumberText.lower), mandate }

end BinancePlatform.Source
