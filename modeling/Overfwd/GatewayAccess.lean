import Overfwd.Config
import Overfwd.Routes

namespace Overfwd

open Text Outcome Dialogue Serde

def AUTHORIZATION : String := "authorization"

/-- `bearer_token`. -/
def bearerToken (headers : HeaderMap) : Option String := do
  let value ← headers.get AUTHORIZATION
  let value ← headerToStr value
  let token ← ((stripPrefix "Bearer " value).or (stripPrefix "bearer " value)).map trim
  if !isEmpty token then some token else none

/-- `require_gateway_access`: the handler's response, or why it was not run. -/
def requireGatewayAccess {α : Type} (config : GatewayConfig) (headers : HeaderMap)
    (next : McpProg α) : RestProg α :=
  if !config.requireApiKey then liftM next
  else do
    let expected ← okOr (GatewayError.unauthorized "gateway api_key required") config.apiKey
    let presented ← okOr (GatewayError.unauthorized "missing or malformed bearer token")
      (bearerToken headers)
    if presented = expected then liftM next
    else throw (GatewayError.unauthorized "invalid api_key")

/-- A request to a route behind the gate, with what its handler's extractor makes of the
body. -/
inductive GatedRequest
  | search (body : Except JsonRejection SearchRequest)
  | get (body : Except JsonRejection GetRequest)
  | send (body : Except JsonRejection SendRequest)
  | mcp (body : Except BytesRejection (List UInt8))

inductive GatewayReply
  | rest (reply : RestReply)
  | mcp (reply : McpReply)

section Router

variable (json : SerdeJson) (schemas : ToolSchemas) (config : GatewayConfig) (headers : HeaderMap)

/-- The handler of a route. -/
def GatedRequest.handler : GatedRequest → McpProg GatewayReply
  | .search body => (fun result => .rest (Routes.respond SearchResponse.toValue result)) <$>
      (Routes.search headers body).run
  | .get body => (fun result => .rest (Routes.respond FullMessage.toValue result)) <$>
      (Routes.get headers body).run
  | .send body => (fun result => .rest (Routes.respond SendResponse.toValue result)) <$>
      (Routes.send config.maxAttachmentBytes headers body).run
  | .mcp body => .mcp <$> mcpEndpoint json schemas config.maxAttachmentBytes headers body

/-- The routes that `router` registers: `/mcp` only when it is enabled. -/
def GatedRequest.served : GatedRequest → Bool
  | .mcp _ => config.enableMcp
  | _ => true

/-- The outcome of the gate around the route's handler. -/
def gated (request : GatedRequest) : RestProg GatewayReply :=
  requireGatewayAccess config headers (request.handler json schemas config headers)

/-- `router`: the response to a request, if its route is there. -/
def router (request : GatedRequest) : Option (McpProg GatewayReply) :=
  if request.served config then some do
    match ← (gated json schemas config headers request).run with
    | .ok reply => pure reply
    | .error err => pure (.rest err.intoResponse)
  else none

/-- The handler runs, and its reply is what comes out of the gate. -/
def HandlerRuns (request : GatedRequest) : Prop :=
  gated json schemas config headers request =
    liftM (request.handler json schemas config headers)

/-- A handler that is run answers the request by itself. -/
theorem router_admitted (request : GatedRequest) (hserved : request.served config = true)
    (hruns : HandlerRuns json schemas config headers request) :
    router json schemas config headers request =
      some (request.handler json schemas config headers) := by
  unfold HandlerRuns at hruns
  unfold router
  rw [if_pos hserved, hruns]
  apply congrArg some
  change (Except.ok <$> request.handler json schemas config headers) >>= _ = _
  rw [map_eq_pure_bind, bind_assoc]
  exact bind_pure _

end Router

section Gate

variable {α : Type} (config : GatewayConfig) (headers : HeaderMap) (next : McpProg α)

/-- A handler that is run gives a response, so no refusal can be mistaken for it. -/
theorem lift_ne_throw (e : GatewayError) : (liftM next : RestProg α) ≠ throw e := by
  intro h
  have hrun : (Except.ok <$> next : McpProg (Except GatewayError α)) = pure (.error e) := h
  cases next with
  | ret a => cases hrun
  | ask q k => cases hrun

theorem requireGatewayAccess_open (h : config.requireApiKey = false) :
    requireGatewayAccess config headers next = liftM next := by
  unfold requireGatewayAccess
  rw [h]
  rfl

variable (key : String) (hrequired : config.requireApiKey = true) (hkey : config.apiKey = some key)

include hrequired hkey

theorem requireGatewayAccess_admitted (h : bearerToken headers = some key) :
    requireGatewayAccess config headers next = liftM next := by
  unfold requireGatewayAccess
  rw [hrequired, hkey, h]
  exact if_pos rfl

theorem requireGatewayAccess_refused (h : bearerToken headers ≠ some key) :
    ∃ message, requireGatewayAccess config headers next = throw (.unauthorized message) := by
  unfold requireGatewayAccess
  rw [hrequired, hkey]
  cases htoken : bearerToken headers with
  | none => exact ⟨"missing or malformed bearer token", rfl⟩
  | some presented =>
    have hne : presented ≠ key := by
      intro hsame
      rw [htoken, hsame] at h
      exact h rfl
    exact ⟨"invalid api_key", if_neg hne⟩

end Gate

/-- The text after the scheme and its blank. -/
def StartsBearer (text rest : String) : Prop := text = "Bearer " ++ rest ∨ text = "bearer " ++ rest

/-- The whitespace of a header: blanks and tabs. -/
def HeaderBlanks (s : String) : Prop := ∀ c ∈ s.toList, c = ' ' ∨ c = '\t'

/-- A header value that presents the key: the scheme, a blank, and the key with or without
whitespace around it. -/
def Presents (key : String) (value : List UInt8) : Prop :=
  ∃ text before after, value = bytes text ∧ StartsBearer text (before ++ key ++ after) ∧
    HeaderBlanks before ∧ HeaderBlanks after

/-- A key that survives a header: no whitespace at its ends, and only header characters. -/
structure HeaderKey (key : String) : Prop where
  trimmed : IsTrimmed key.toList
  chars : ∀ c ∈ key.toList, IsHeaderChar c

section Tokens

theorem stripBearer_eq_some_iff (text rest : String) :
    (stripPrefix "Bearer " text).or (stripPrefix "bearer " text) = some rest ↔
      StartsBearer text rest :=
  stripPrefix_or_eq_some_iff _ _ _ _ 'B' 'b' _ _ rfl rfl (by decide)

/-- What stands before the token is header text. -/
theorem bearer_chars (text rest : String) (h : StartsBearer text rest) :
    (∀ c ∈ text.toList, IsHeaderChar c) ↔ ∀ c ∈ rest.toList, IsHeaderChar c := by
  have hscheme (scheme : String) (hchars : ∀ c ∈ scheme.toList, IsHeaderChar c) :
      (∀ c ∈ (scheme ++ rest).toList, IsHeaderChar c) ↔ ∀ c ∈ rest.toList, IsHeaderChar c := by
    rw [String.toList_append, List.forall_mem_append]
    exact and_iff_right hchars
  have hupper : ∀ c ∈ "Bearer ".toList, IsHeaderChar c := by
    unfold IsHeaderChar
    exact forall_mem_toList _ (by decide)
  have hlower : ∀ c ∈ "bearer ".toList, IsHeaderChar c := by
    unfold IsHeaderChar
    exact forall_mem_toList _ (by decide)
  rcases h with rfl | rfl
  · exact hscheme _ hupper
  · exact hscheme _ hlower

theorem bearerToken_eq_some_iff (headers : HeaderMap) (token : String) :
    bearerToken headers = some token ↔
      ∃ value text rest, headers.get AUTHORIZATION = some value ∧ value = bytes text ∧
        (∀ c ∈ text.toList, IsHeaderChar c) ∧ StartsBearer text rest ∧ trim rest = token ∧
        token ≠ "" := by
  unfold bearerToken
  constructor
  · intro h
    obtain ⟨value, hvalue, h⟩ := Option.bind_eq_some_iff.mp h
    obtain ⟨text, htext, h⟩ := Option.bind_eq_some_iff.mp h
    obtain ⟨trimmed, hrest, h⟩ := Option.bind_eq_some_iff.mp h
    obtain ⟨rest, hstrip, rfl⟩ := Option.map_eq_some_iff.mp hrest
    obtain ⟨hbytes, hchars⟩ := (headerToStr_eq_some_iff value text).mp htext
    split_ifs at h with hfilled
    cases h
    have hrest := (stripBearer_eq_some_iff text rest).mp hstrip
    refine ⟨value, text, rest, hvalue, hbytes, hchars, hrest, rfl, ?_⟩
    intro hnil
    simp [(isEmpty_eq_true_iff _).mpr hnil] at hfilled
  · rintro ⟨value, text, rest, hvalue, hbytes, hchars, hrest, rfl, hfilled⟩
    have htext := (headerToStr_eq_some_iff value text).mpr ⟨hbytes, hchars⟩
    have hstrip := (stripBearer_eq_some_iff text rest).mpr hrest
    have hnot : isEmpty (trim rest) = false := by
      rw [← Bool.not_eq_true, isEmpty_eq_true_iff]
      exact hfilled
    simp [hvalue, htext, hstrip, hnot]

/-- Whitespace that a header can hold is a blank or a tab. -/
theorem header_whitespace (c : Char) (h : IsHeaderChar c) (hwhite : isWhitespace c = true) :
    c = ' ' ∨ c = '\t' := by
  have hblank : c = ' ' ↔ c.toNat = 32 := char_eq_iff c ' '
  have htab : c = '\t' ↔ c.toNat = 9 := char_eq_iff c '\t'
  rw [hblank, htab]
  rcases (isHeaderChar_iff c).mp h with h | h
  · exact Or.inr h
  · simp only [isWhitespace, Bool.or_eq_true, Bool.and_eq_true, decide_eq_true_eq, beq_iff_eq]
      at hwhite
    omega

theorem whitespace_of_blanks (s : String) (h : HeaderBlanks s) :
    ∀ c ∈ s.toList, isWhitespace c = true ∧ IsHeaderChar c := by
  intro c hc
  rcases h c hc with rfl | rfl
  · exact ⟨by decide, Or.inr (by decide)⟩
  · exact ⟨by decide, Or.inl rfl⟩

/-- Trimming header text takes off what a header counts as whitespace. -/
theorem trim_header (rest : String) (h : ∀ c ∈ rest.toList, IsHeaderChar c) :
    ∃ before after, rest = before ++ trim rest ++ after ∧ HeaderBlanks before ∧
      HeaderBlanks after ∧ ∀ c ∈ (trim rest).toList, IsHeaderChar c := by
  obtain ⟨before, after, hcut, hbefore, hafter⟩ := trim_spec rest
  have hlist := congrArg String.toList hcut
  rw [String.toList_append, String.toList_append] at hlist
  rw [hlist, List.forall_mem_append, List.forall_mem_append] at h
  obtain ⟨⟨hfront, htrim⟩, hback⟩ := h
  refine ⟨before, after, hcut, ?_, ?_, htrim⟩
  · exact fun c hc => header_whitespace c (hfront c hc) (hbefore c hc)
  · exact fun c hc => header_whitespace c (hback c hc) (hafter c hc)

/-- What is read as a token is presented by the header, and has what a key needs to survive
one. -/
theorem presents_of_token (headers : HeaderMap) (token : String)
    (h : bearerToken headers = some token) :
    HeaderKey token ∧ ∃ value, headers.get AUTHORIZATION = some value ∧ Presents token value := by
  obtain ⟨value, text, rest, hvalue, hbytes, hchars, hrest, rfl, -⟩ :=
    (bearerToken_eq_some_iff headers token).mp h
  have hrestchars := (bearer_chars text rest hrest).mp hchars
  obtain ⟨before, after, hcut, hbefore, hafter, htrim⟩ := trim_header rest hrestchars
  refine ⟨⟨isTrimmed_trim rest, htrim⟩, value, hvalue, text, before, after, hbytes, ?_, hbefore,
    hafter⟩
  exact hcut ▸ hrest

/-- A key that survives a header is read from whatever presents it. -/
theorem token_of_presents (headers : HeaderMap) (key : String) (value : List UInt8)
    (hkey : HeaderKey key) (hne : key ≠ "") (hvalue : headers.get AUTHORIZATION = some value)
    (h : Presents key value) : bearerToken headers = some key := by
  obtain ⟨text, before, after, hbytes, hrest, hbefore, hafter⟩ := h
  have hchars : ∀ c ∈ (before ++ key ++ after).toList, IsHeaderChar c := by
    rw [String.toList_append, String.toList_append, List.forall_mem_append, List.forall_mem_append]
    exact ⟨⟨fun c hc => (whitespace_of_blanks before hbefore c hc).2, hkey.chars⟩,
      fun c hc => (whitespace_of_blanks after hafter c hc).2⟩
  have htrim := trim_of_surrounded before key after hkey.trimmed
    (fun c hc => (whitespace_of_blanks before hbefore c hc).1)
    (fun c hc => (whitespace_of_blanks after hafter c hc).1)
  exact (bearerToken_eq_some_iff headers key).mpr
    ⟨value, text, _, hvalue, hbytes, (bearer_chars text _ hrest).mpr hchars, hrest, htrim, hne⟩

end Tokens

section Admission

variable (json : SerdeJson) (schemas : ToolSchemas) (config : GatewayConfig) (key : String)

/-- The gate does what its documentation says: the handler of a route that is served runs for
whoever presents the key and for nobody else. -/
def GateKeeps : Prop :=
  ∀ (headers : HeaderMap) (request : GatedRequest), request.served config = true →
    (HandlerRuns json schemas config headers request ↔
      ∃ value, headers.get AUTHORIZATION = some value ∧ Presents key value) ∧
    (headers.get AUTHORIZATION = some (bytes ("Bearer " ++ key)) →
      HandlerRuns json schemas config headers request)

variable (hrequired : config.requireApiKey = true) (hkey : config.apiKey = some key)

include hrequired hkey

theorem handlerRuns_iff (headers : HeaderMap) (request : GatedRequest) :
    HandlerRuns json schemas config headers request ↔ bearerToken headers = some key := by
  constructor
  · intro hruns
    by_contra htoken
    obtain ⟨message, hrefused⟩ :=
      requireGatewayAccess_refused config headers (request.handler json schemas config headers) key
        hrequired hkey htoken
    exact lift_ne_throw _ _ (hruns.symm.trans hrefused)
  · exact requireGatewayAccess_admitted config headers _ key hrequired hkey

/-- A refusal is a response of its own: nothing is asked for, and the status is 401. -/
theorem router_refused (headers : HeaderMap) (request : GatedRequest)
    (hserved : request.served config = true)
    (hruns : ¬HandlerRuns json schemas config headers request) :
    ∃ message, router json schemas config headers request =
      some (pure (.rest (GatewayError.unauthorized message).intoResponse)) := by
  have hiff := handlerRuns_iff json schemas config key hrequired hkey headers request
  have htoken := hiff.not.mp hruns
  obtain ⟨message, hrefused⟩ :=
    requireGatewayAccess_refused config headers (request.handler json schemas config headers) key
      hrequired hkey htoken
  refine ⟨message, ?_⟩
  unfold router gated
  rw [if_pos hserved, hrefused]
  rfl

/-- A key that no header can carry as it stands lets nobody in. -/
theorem locked_out (h : ¬HeaderKey key) (headers : HeaderMap) (request : GatedRequest) :
    ¬HandlerRuns json schemas config headers request := by
  rw [handlerRuns_iff json schemas config key hrequired hkey]
  exact fun htoken => h ((presents_of_token headers key htoken).1)

theorem gateKeeps_iff (hne : key ≠ "") : GateKeeps json schemas config key ↔ HeaderKey key := by
  have hruns := handlerRuns_iff json schemas config key hrequired hkey
  constructor
  · intro hkeeps
    let headers : HeaderMap := ⟨[(AUTHORIZATION, bytes ("Bearer " ++ key))]⟩
    have hget : headers.get AUTHORIZATION = some (bytes ("Bearer " ++ key)) := by
      have hname : toAsciiLowercase AUTHORIZATION = AUTHORIZATION := by decide
      rw [HeaderMap.get, hname]
      exact List.lookup_cons_self
    have hadmitted := (hkeeps headers (.search (.error ⟨400, "", ""⟩)) rfl).2 hget
    exact (presents_of_token headers key ((hruns _ _).mp hadmitted)).1
  · intro hheader headers request _
    have hpresented (value : List UInt8) (hvalue : headers.get AUTHORIZATION = some value)
        (h : Presents key value) : HandlerRuns json schemas config headers request :=
      (hruns headers request).mpr (token_of_presents headers key value hheader hne hvalue h)
    constructor
    · constructor
      · intro h
        exact (presents_of_token headers key ((hruns headers request).mp h)).2
      · rintro ⟨value, hvalue, h⟩
        exact hpresented value hvalue h
    · intro hvalue
      apply hpresented _ hvalue
      have hnone : HeaderBlanks "" := fun c hc => (List.not_mem_nil hc).elim
      exact ⟨"Bearer " ++ key, "", "", rfl, Or.inl (by simp), hnone, hnone⟩

end Admission

/-- In every environment that is accepted with the gate on, the gate keeps its promise
exactly when the key survives a header; otherwise no request reaches a handler. -/
theorem gate_keeps_iff_headerKey (env : Env) (config : GatewayConfig) (json : SerdeJson)
    (schemas : ToolSchemas) (hload : GatewayConfig.fromEnv env = .ok config)
    (hrequired : config.requireApiKey = true) :
    ∃ key, env ENV_API_KEY = some key ∧ config.apiKey = some key ∧
      (GateKeeps json schemas config key ↔ HeaderKey key) ∧
      (¬HeaderKey key → ∀ headers request, ¬HandlerRuns json schemas config headers request) := by
  obtain ⟨key, hkey, hvar, hne⟩ := apiKey_of_fromEnv env config hload hrequired
  exact ⟨key, hvar, hkey, gateKeeps_iff json schemas config key hrequired hkey hne,
    locked_out json schemas config key hrequired hkey⟩

/-- The gate on, with this key, and nothing else set. -/
def keyedEnv (key : String) : Env := fun var =>
  if var = ENV_REQUIRE_API_KEY then some "true" else if var = ENV_API_KEY then some key else none

def keyedConfig (key : String) : GatewayConfig :=
  { bind := .v4 ⟨0, 0, 0, 0⟩ 8000, requireApiKey := true, apiKey := some key, enableMcp := true,
    blockPrivateEndpoints := false, maxAttachmentBytes := DEFAULT_MAX_ATTACHMENT_BYTES }

/-- A JSON reader that reads nothing. -/
def noJson : SerdeJson where
  fromSlice _ := .error "expected value"
  toText _ := ""
  errorText _ := ""

theorem plain_key_admits :
    GateKeeps noJson ⟨.null, .null, .null⟩ (keyedConfig "your-secret-key") "your-secret-key" := by
  obtain ⟨key, hvar, -, hkeeps, -⟩ := gate_keeps_iff_headerKey (keyedEnv "your-secret-key")
    (keyedConfig "your-secret-key") noJson ⟨.null, .null, .null⟩ (by decide +kernel) rfl
  have hkey : "your-secret-key" = key := Option.some.inj hvar
  rw [hkey] at hkeeps ⊢
  apply hkeeps.mpr
  rw [← hkey]
  constructor
  · apply isTrimmed_of_forall
    exact forall_mem_toList _ (by decide)
  · unfold IsHeaderChar
    exact forall_mem_toList _ (by decide)

/-- A key with a blank in front of it: a header that carries it whole is refused. -/
theorem padded_key_locks_out :
    GatewayConfig.fromEnv (keyedEnv " secret") = .ok (keyedConfig " secret") ∧
      ¬HandlerRuns noJson ⟨.null, .null, .null⟩ (keyedConfig " secret")
        ⟨[(AUTHORIZATION, bytes ("Bearer " ++ " secret"))]⟩ (.search (.error ⟨400, "", ""⟩)) ∧
      ¬∀ (env : Env) (config : GatewayConfig) (json : SerdeJson) (schemas : ToolSchemas)
          (key : String),
        GatewayConfig.fromEnv env = .ok config → config.requireApiKey = true →
          config.apiKey = some key → GateKeeps json schemas config key := by
  have hload : GatewayConfig.fromEnv (keyedEnv " secret") = .ok (keyedConfig " secret") := by
    decide +kernel
  have hblank : ¬HeaderKey " secret" := by
    intro hkey
    exact absurd (hkey.trimmed.head ' ' (by decide)) (by decide)
  refine ⟨hload, locked_out _ _ _ " secret" rfl rfl hblank _ _, ?_⟩
  intro hall
  have hkeeps := hall _ _ noJson ⟨.null, .null, .null⟩ " secret" hload rfl rfl
  exact hblank ((gateKeeps_iff _ _ _ _ rfl rfl (by decide)).mp hkeeps)

end Overfwd
