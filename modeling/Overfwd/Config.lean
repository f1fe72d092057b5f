import Overfwd.Lib.Ip
import Overfwd.SendLimit

namespace Overfwd

open Text Outcome Net

def DEFAULT_BIND : String := "0.0.0.0:8000"

def ENV_BIND : String := "OVERFWD_BIND"

def ENV_REQUIRE_API_KEY : String := "OVERFWD_REQUIRE_API_KEY"

def ENV_API_KEY : String := "OVERFWD_API_KEY"

def ENV_ENABLE_MCP : String := "OVERFWD_ENABLE_MCP"

def ENV_BLOCK_PRIVATE_ENDPOINTS : String := "OVERFWD_BLOCK_PRIVATE_ENDPOINTS"

def ENV_MAX_ATTACHMENT_BYTES : String := "OVERFWD_MAX_ATTACHMENT_BYTES"

/-- The environment: `none` where `std::env::var` fails, on a variable that is unset or no
Unicode. -/
abbrev Env := String → Option String

structure GatewayConfig where
  bind : SocketAddr
  requireApiKey : Bool
  apiKey : Option String
  enableMcp : Bool
  blockPrivateEndpoints : Bool
  maxAttachmentBytes : ℕ
  deriving DecidableEq

inductive ConfigError
  | invalidBind (value source : String)
  | invalidBool (var value : String)
  | invalidNumber (var value : String)
  | missingApiKey
  deriving DecidableEq

def ConfigError.message : ConfigError → String
  | .invalidBind value source =>
    ENV_BIND ++ "='" ++ value ++ "' is not a valid host:port address: " ++ source
  | .invalidBool var value => var ++ "='" ++ value ++ "' is not a valid boolean (use true/false)"
  | .invalidNumber var value => var ++ "='" ++ value ++ "' is not a valid non-negative integer"
  | .missingApiKey => ENV_REQUIRE_API_KEY ++ "=true but " ++ ENV_API_KEY ++
      " is unset — refusing to start a gateway that requires a key it does not have"

/-- `AddrParseError` of a socket address. -/
def ADDR_PARSE_ERROR : String := "invalid socket address syntax"

/-- `env_or`. -/
def envOr (env : Env) (key default : String) : String := (env key).getD default

/-- `parse_bool`. -/
def parseBool (raw : String) : Option Bool :=
  let word := toAsciiLowercase (trim raw)
  if ["true", "1", "yes", "on"].contains word then some true
  else if ["false", "0", "no", "off"].contains word then some false
  else none

/-- A boolean variable, with what it means when it is unset. -/
def envBool (env : Env) (var : String) (default : Bool) : Except ConfigError Bool :=
  match env var with
  | some v => okOr (.invalidBool var v) (parseBool v)
  | none => .ok default

def envMaxAttachmentBytes (env : Env) : Except ConfigError ℕ :=
  match env ENV_MAX_ATTACHMENT_BYTES with
  | some v => okOr (.invalidNumber ENV_MAX_ATTACHMENT_BYTES v) (parseUnsigned (2^64) (trim v))
  | none => .ok DEFAULT_MAX_ATTACHMENT_BYTES

/-- The key is taken as it stands, blanks included, unless it is empty. -/
def envApiKey (env : Env) : Option String := (env ENV_API_KEY).filter fun k => !isEmpty k

/-- `Config::from_env`. -/
def GatewayConfig.fromEnv (env : Env) : Except ConfigError GatewayConfig := do
  let bindRaw := envOr env ENV_BIND DEFAULT_BIND
  let bind ← okOr (.invalidBind bindRaw ADDR_PARSE_ERROR) (parseSocketAddr bindRaw)
  let requireApiKey ← envBool env ENV_REQUIRE_API_KEY false
  let apiKey := envApiKey env
  if requireApiKey && apiKey.isNone then .error .missingApiKey
  else do
    let enableMcp ← envBool env ENV_ENABLE_MCP true
    let blockPrivateEndpoints ← envBool env ENV_BLOCK_PRIVATE_ENDPOINTS false
    let maxAttachmentBytes ← envMaxAttachmentBytes env
    .ok { bind, requireApiKey, apiKey, enableMcp, blockPrivateEndpoints, maxAttachmentBytes }

/-- The configuration of an empty environment: every default passes its own check. -/
theorem fromEnv_unset :
    GatewayConfig.fromEnv (fun _ => none) = .ok
      { bind := .v4 ⟨0, 0, 0, 0⟩ 8000, requireApiKey := false, apiKey := none, enableMcp := true,
        blockPrivateEndpoints := false, maxAttachmentBytes := DEFAULT_MAX_ATTACHMENT_BYTES } := by
  decide +kernel

/-- The error tells of a variable that holds the value it quotes, and that value does not
pass. -/
def ConfigError.Tells (env : Env) : ConfigError → Prop
  | .invalidBind value _ => envOr env ENV_BIND DEFAULT_BIND = value ∧ parseSocketAddr value = none
  | .invalidBool var value => env var = some value ∧ parseBool value = none
  | .invalidNumber var value => env var = some value ∧ parseUnsigned (2^64) (trim value) = none
  | .missingApiKey => envApiKey env = none

section Loading

variable (env : Env)

theorem envBool_fails (var : String) (default : Bool) :
    FailsOnly (ConfigError.Tells env) (envBool env var default) := by
  unfold envBool
  cases hvar : env var with
  | none => exact failsOnly_ok default
  | some v =>
    apply failsOnly_okOr_of_none
    intro hparse
    exact ⟨hvar, hparse⟩

theorem envMaxAttachmentBytes_fails :
    FailsOnly (ConfigError.Tells env) (envMaxAttachmentBytes env) := by
  unfold envMaxAttachmentBytes
  cases hvar : env ENV_MAX_ATTACHMENT_BYTES with
  | none => exact failsOnly_ok _
  | some v =>
    apply failsOnly_okOr_of_none
    intro hparse
    exact ⟨hvar, hparse⟩

/-- An environment is refused for what its error tells. -/
theorem fromEnv_fails : FailsOnly (ConfigError.Tells env) (GatewayConfig.fromEnv env) := by
  unfold GatewayConfig.fromEnv
  refine failsOnly_bind (failsOnly_okOr_of_none _ _ ?_) fun bind => ?_
  · intro hparse
    exact ⟨rfl, hparse⟩
  refine failsOnly_bind (envBool_fails env _ _) fun requireApiKey => ?_
  dsimp only
  split_ifs with hmissing
  · rw [Bool.and_eq_true, Option.isNone_iff_eq_none] at hmissing
    exact failsOnly_error _ hmissing.2
  · refine failsOnly_bind (envBool_fails env _ _) fun enableMcp => ?_
    refine failsOnly_bind (envBool_fails env _ _) fun blockPrivateEndpoints => ?_
    refine failsOnly_bind (envMaxAttachmentBytes_fails env) fun maxAttachmentBytes => ?_
    exact failsOnly_ok _

/-- A configuration that requires a key has one, just as the environment holds it. -/
theorem apiKey_of_fromEnv (config : GatewayConfig) (h : GatewayConfig.fromEnv env = .ok config)
    (hrequired : config.requireApiKey = true) :
    ∃ key, config.apiKey = some key ∧ env ENV_API_KEY = some key ∧ key ≠ "" := by
  unfold GatewayConfig.fromEnv at h
  obtain ⟨bind, -, h⟩ := (bind_eq_ok_iff _ _ _).mp h
  obtain ⟨required, -, h⟩ := (bind_eq_ok_iff _ _ _).mp h
  dsimp only at h
  split_ifs at h with hmissing
  obtain ⟨mcp, -, h⟩ := (bind_eq_ok_iff _ _ _).mp h
  obtain ⟨block, -, h⟩ := (bind_eq_ok_iff _ _ _).mp h
  obtain ⟨cap, -, h⟩ := (bind_eq_ok_iff _ _ _).mp h
  obtain rfl := Except.ok.inj h
  dsimp only at hrequired ⊢
  cases hkey : envApiKey env with
  | none =>
    rw [hrequired, hkey] at hmissing
    exact absurd rfl hmissing
  | some key =>
    obtain ⟨hvar, hfilled⟩ := Option.filter_eq_some_iff.mp hkey
    refine ⟨key, rfl, hvar, ?_⟩
    rintro rfl
    exact absurd hfilled (by decide)

end Loading

end Overfwd
