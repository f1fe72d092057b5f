import Overfwd.Auth
import Overfwd.GatewayAccess
import Overfwd.Lib.Rules
import Overfwd.Search
import Overfwd.SendRequest

namespace Overfwd

open Text Outcome Dialogue Serde

def ENV_ENABLE : String := "OVERFWD_AUTOCONFIG_ENABLE"

def ENV_TIMEOUT_SECS : String := "OVERFWD_AUTOCONFIG_TIMEOUT_SECS"

def ENV_CACHE_TTL_SECS : String := "OVERFWD_AUTOCONFIG_CACHE_TTL_SECS"

def ENV_TLS_INSECURE : String := "MAIL_TLS_INSECURE"

/-- `secs_or`. -/
def secsOr (env : Env) (key : String) (default : ℕ) : ℕ :=
  (((env key).bind fun v => parseUnsigned (2^64) (trim v)).filter fun s => 0 < s).getD default

/-- All of `AutoconfigSettings`: the switch, the timeout of an attempt and the times to live,
in seconds. The cache belongs to the state of a run. -/
structure Autoconfig where
  enabled : Bool
  timeout : ℕ
  settings : AutoconfigSettings

def Autoconfig.default : Autoconfig :=
  { enabled := true, timeout := 5, settings := { posTtl := 3600, negTtl := 300 } }

/-- `Autoconfig::from_env`. -/
def Autoconfig.fromEnv (env : Env) : Autoconfig :=
  -- A value that is set and not recognised switches autoconfiguration off.
  { enabled := ((env ENV_ENABLE).map fun v =>
      ["1", "true", "yes", "on"].contains (toAsciiLowercase (trim v))).getD
      Autoconfig.default.enabled
    timeout := secsOr env ENV_TIMEOUT_SECS Autoconfig.default.timeout
    settings :=
      { posTtl := secsOr env ENV_CACHE_TTL_SECS Autoconfig.default.settings.posTtl
        negTtl := Autoconfig.default.settings.negTtl } }

/-- Its resolver is the network's. -/
structure EndpointGuard where
  enabled : Bool

structure AppState where
  config : GatewayConfig
  autoconfig : Autoconfig
  endpoints : EndpointGuard

/-- The state that `app` builds. -/
def app (env : Env) (config : GatewayConfig) : AppState :=
  { config := config
    autoconfig := .fromEnv env
    endpoints := { enabled := config.blockPrivateEndpoints } }

/-- What is used of other crates. -/
structure Crates (Address : Type) where
  json : SerdeJson
  schemas : ToolSchemas
  xml : XmlReader
  mail : MailParser
  escapes : UnicodeEscapes
  lettre : Lettre Address
  builder : MailBuilder

/-- What the gateway asks of its surroundings: what the credential takes, the IMAP server,
what `mail-builder` stamps a message with, and the SMTP server. -/
inductive NetOp (Address : Type)
  | credential (q : RequestOp)
  | imap (q : ImapOp)
  | stamp
  | smtp (q : SendOp Address)

@[reducible] def NetOp.Answer {Address : Type} : NetOp Address → Type
  | .credential q => q.Answer
  | .imap q => q.Answer
  | .stamp => MimeStamp
  | .smtp q => q.Answer

abbrev NetProg (Address : Type) := Prog (NetOp Address) NetOp.Answer

/-- A request to a route behind the gate, with its headers. -/
structure Incoming where
  headers : HeaderMap
  request : GatedRequest

section Serve

variable {Address : Type} (crates : Crates Address) (env : Env) (state : AppState)

/-- The credential of a request, as a part of the gateway's program. -/
def netCredential (headers : HeaderMap) : NetProg Address (Except GatewayError MailboxCredential) :=
  (requestCredential crates.xml state.autoconfig.settings state.autoconfig.enabled
    state.endpoints.enabled headers).run.handle fun q => call (NetOp.credential q)

/-- `ImapSettings::from_env`, read anew by every action. -/
def imapSettings : ImapSettings := .fromEnv (env ENV_TLS_INSECURE)

def netSearch (cred : MailboxCredential) (request : SearchRequest) :
    NetProg Address (Except GatewayError SearchResponse) :=
  (doSearch crates.mail crates.escapes (imapSettings env) cred request).run.handle fun q =>
    call (NetOp.imap q)

def netGet (cred : MailboxCredential) (request : GetRequest) :
    NetProg Address (Except GatewayError FullMessage) :=
  (doGet crates.mail (imapSettings env) cred request).run.handle fun q => call (NetOp.imap q)

/-- The stamp is drawn before it is known whether the message is built. -/
def netSend (cred : MailboxCredential) (request : SendRequest) (limits : AttachmentLimits) :
    NetProg Address (Except GatewayError SendResponse) := do
  let stamp ← call NetOp.stamp
  (doSend crates.lettre crates.builder (env ENV_TLS_INSECURE) stamp cred request limits).run.handle
    fun q => call (NetOp.smtp q)

/-- What answers the questions of the handlers. -/
def answerMcp : (q : McpOp) → NetProg Address q.Answer
  | .resolveCredential headers => netCredential crates state headers
  | .search cred request => netSearch crates env cred request
  | .get cred request => netGet crates env cred request
  | .send cred request limits => netSend crates env cred request limits

/-- The handler of a request behind the gate, with all that it calls. -/
def netHandler (incoming : Incoming) : NetProg Address GatewayReply :=
  (incoming.request.handler crates.json crates.schemas state.config incoming.headers).handle
    (answerMcp crates env state)

/-- The application's answer to a request; `none` where there is no such route. -/
def serve (incoming : Incoming) : NetProg Address (Option GatewayReply) :=
  match router crates.json crates.schemas state.config incoming.headers incoming.request with
  | some program => some <$> program.handle (answerMcp crates env state)
  | none => pure none

end Serve

/-- The gate lets the request through: no key is required, or the key is presented. -/
def Admitted (config : GatewayConfig) (headers : HeaderMap) : Prop :=
  config.requireApiKey = true → ∃ key, config.apiKey = some key ∧ bearerToken headers = some key

theorem gate_admitted {α : Type} (config : GatewayConfig) (headers : HeaderMap) (next : McpProg α)
    (h : Admitted config headers) : requireGatewayAccess config headers next = liftM next := by
  cases hrequired : config.requireApiKey with
  | false => exact requireGatewayAccess_open config headers next hrequired
  | true =>
    obtain ⟨key, hkey, htoken⟩ := h hrequired
    exact requireGatewayAccess_admitted config headers next key hrequired hkey htoken

/-- Otherwise it refuses, whatever is behind it. -/
theorem gate_refused (config : GatewayConfig) (headers : HeaderMap) (h : ¬Admitted config headers) :
    ∃ message, ∀ {α : Type} (next : McpProg α),
      requireGatewayAccess config headers next = throw (.unauthorized message) := by
  unfold Admitted at h
  push Not at h
  obtain ⟨hrequired, htoken⟩ := h
  unfold requireGatewayAccess
  rw [hrequired]
  cases hkey : config.apiKey with
  | none => exact ⟨"gateway api_key required", fun next => rfl⟩
  | some key =>
    cases hpresented : bearerToken headers with
    | none => exact ⟨"missing or malformed bearer token", fun next => rfl⟩
    | some presented =>
      have hne : presented ≠ key := by
        rintro rfl
        exact htoken presented hkey hpresented
      exact ⟨"invalid api_key", fun next => if_neg hne⟩

section Routing

variable {Address : Type} (crates : Crates Address) (env : Env) (state : AppState)
  (incoming : Incoming)

theorem serve_unrouted (hserved : incoming.request.served state.config = false) :
    serve crates env state incoming = pure none := by
  unfold serve router
  rw [if_neg (by rw [hserved]; decide)]

/-- A request that the gate refuses is answered without a question. -/
theorem serve_refused (hserved : incoming.request.served state.config = true) (e : GatewayError)
    (hgate : ∀ next : McpProg GatewayReply,
      requireGatewayAccess state.config incoming.headers next = throw e) :
    serve crates env state incoming = pure (some (.rest e.intoResponse)) := by
  unfold serve router gated
  rw [if_pos hserved, hgate]
  rfl

/-- A request that the gate lets through is answered by its handler. -/
theorem serve_admitted (hserved : incoming.request.served state.config = true)
    (hadmitted : Admitted state.config incoming.headers) :
    serve crates env state incoming = some <$> netHandler crates env state incoming := by
  unfold serve
  rw [router_admitted crates.json crates.schemas state.config incoming.headers incoming.request
    hserved (gate_admitted state.config incoming.headers _ hadmitted)]
  rfl

/-- All that a run can be: there is no such route, the gate refuses, or the handler runs. -/
theorem plays_serve {H : List (Exchange (NetOp Address) NetOp.Answer)} {reply : Option GatewayReply}
    (hplays : Plays (serve crates env state incoming) H reply) :
    incoming.request.served state.config = false ∧ H = [] ∧ reply = none ∨
      ¬Admitted state.config incoming.headers ∧ H = [] ∧
        (∃ message, reply = some (.rest (GatewayError.unauthorized message).intoResponse)) ∨
      incoming.request.served state.config = true ∧ Admitted state.config incoming.headers ∧
        ∃ reply', reply = some reply' ∧ Plays (netHandler crates env state incoming) H reply' := by
  cases hserved : incoming.request.served state.config with
  | false =>
    rw [serve_unrouted crates env state incoming hserved] at hplays
    exact .inl ⟨rfl, (plays_pure _ _).mp hplays⟩
  | true =>
    by_cases hadmitted : Admitted state.config incoming.headers
    · rw [serve_admitted crates env state incoming hserved hadmitted] at hplays
      obtain ⟨reply', hhandler, hreply⟩ := (plays_map _ _ _).mp hplays
      exact .inr (.inr ⟨rfl, hadmitted, reply', hreply, hhandler⟩)
    · obtain ⟨message, hgate⟩ := gate_refused state.config incoming.headers hadmitted
      rw [serve_refused crates env state incoming hserved _ hgate] at hplays
      obtain ⟨hnone, hreply⟩ := (plays_pure _ _).mp hplays
      exact .inr (.inl ⟨hadmitted, hnone, message, hreply⟩)

/-- Whatever the request: a state that every answer comes back to is where the whole ends. -/
theorem serve_keeps {G : Type} (next : G → (q : NetOp Address) → q.Answer → G)
    (C : Contract (NetOp Address) NetOp.Answer G) (inv : G → Prop)
    (hanswer : ∀ q g, inv g → Keeps next C (answerMcp crates env state q) (fun _ g' => inv g') g)
    (g : G) (hg : inv g) :
    Keeps next C (serve crates env state incoming) (fun _ g' => inv g') g := by
  unfold serve
  cases router crates.json crates.schemas state.config incoming.headers incoming.request with
  | none => exact (keeps_pure _ _ _ _ _).mpr hg
  | some program =>
    dsimp only
    rw [map_eq_pure_bind, keeps_bind]
    apply keeps_mono _ _ (keeps_handle_invariant next C _ inv hanswer program g hg)
    exact fun reply g' hg' => (keeps_pure _ _ _ _ _).mpr hg'

end Routing

/-- Crates that read nothing, and libraries that accept everything. -/
def plainCrates : Crates String where
  json := noJson
  schemas := ⟨.null, .null, .null⟩
  xml _ := none
  mail _ := none
  escapes _ := false
  lettre := { parse := some, missingTo := "missing destination", buildTls := fun _ => .ok () }
  builder := { base64EncodeMime := .ok, writeToVec := fun _ _ => .ok [] }

/-- Every variable unset. -/
def plainApp : AppState :=
  app (fun _ => none)
    { bind := .v4 ⟨0, 0, 0, 0⟩ 8000, requireApiKey := false, apiKey := none, enableMcp := true,
      blockPrivateEndpoints := false, maxAttachmentBytes := DEFAULT_MAX_ATTACHMENT_BYTES }

/-- The credential `alice:s3cr3t` with both targets. -/
def aliceHeaders : HeaderMap where
  entries :=
    [("x-mailbox-auth", bytes "Basic YWxpY2U6czNjcjN0"),
      ("x-mailbox-imap", bytes "imap.example.com:993"),
      ("x-mailbox-smtp", bytes "smtp.example.com:465")]

def searchIncoming : Incoming where
  headers := aliceHeaders
  request := .search (.ok newestTwo)

/-- Servers that let everybody in, and no autoconfiguration anywhere. -/
def plainAnswer {Address : Type} : (q : NetOp Address) → q.Answer
  | .credential (.resolver (.get _)) => .ok none
  | .credential (.resolver (.srv _)) => []
  | .credential (.resolver (.mx _)) => []
  | .credential (.resolver (.cacheGet _)) => none
  | .credential (.resolver .now) => 0
  | .credential (.resolver (.cacheInsert _ _)) => ()
  | .credential (.lookup _) => .error "not found"
  | .imap q => expungedAnswer q
  | .stamp => ⟨"", "", ""⟩
  | .smtp (.sendRaw _ _ _) => .ok ()
  | .smtp (.info _) => ()

end Overfwd
