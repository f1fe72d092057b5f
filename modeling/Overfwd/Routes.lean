import Overfwd.Actions

namespace Overfwd

open Text Outcome Dialogue Serde

/-- What is read of a body that is no JSON request. -/
structure JsonRejection where
  status : ℕ
  bodyText : String
  display : String

/-- `json_rejection`. -/
def jsonRejection (err : JsonRejection) : GatewayError :=
  if err.status = 413 then .payloadTooLarge ("request body too large: " ++ err.bodyText)
  else .badRequest ("invalid JSON request body: " ++ err.display)

/-- An HTTP response with a JSON body. -/
structure RestReply where
  status : ℕ
  body : Value

/-- `ErrorResponse`. -/
def GatewayError.body (err : GatewayError) : Value :=
  .object [("code", .string err.code), ("message", .string err.message)]

/-- `into_response`. -/
def GatewayError.intoResponse (err : GatewayError) : RestReply :=
  { status := err.status, body := err.body }

abbrev RestProg := Fallible GatewayError McpOp McpOp.Answer

namespace Routes

def resolveCredential (headers : HeaderMap) : RestProg MailboxCredential :=
  ExceptT.mk (invoke (.resolveCredential headers))

def doSearch (credential : MailboxCredential) (request : SearchRequest) : RestProg SearchResponse :=
  ExceptT.mk (invoke (.search credential request))

def doGet (credential : MailboxCredential) (request : GetRequest) : RestProg FullMessage :=
  ExceptT.mk (invoke (.get credential request))

def doSend (credential : MailboxCredential) (request : SendRequest) (limits : AttachmentLimits) :
    RestProg SendResponse :=
  ExceptT.mk (invoke (.send credential request limits))

def search (headers : HeaderMap) (body : Except JsonRejection SearchRequest) :
    RestProg SearchResponse := do
  let credential ← resolveCredential headers
  let request ← body.mapError jsonRejection
  doSearch credential request

def get (headers : HeaderMap) (body : Except JsonRejection GetRequest) :
    RestProg FullMessage := do
  let credential ← resolveCredential headers
  let request ← body.mapError jsonRejection
  doGet credential request

def send (maxAttachmentBytes : ℕ) (headers : HeaderMap) (body : Except JsonRejection SendRequest) :
    RestProg SendResponse := do
  -- A body that is too large is refused before anything else.
  let request ← body.mapError jsonRejection
  let credential ← resolveCredential headers
  doSend credential request (.withMaxTotalBytes maxAttachmentBytes)

/-- What a handler's result becomes. -/
def respond {α : Type} (toValue : α → Value) : Except GatewayError α → RestReply
  | .ok value => { status := 200, body := toValue value }
  | .error err => err.intoResponse

/-- The REST handler of a tool's action, given the body's JSON. `reject` is what the
extractor makes of JSON that does not fit the request type. -/
def handler (maxAttachmentBytes : ℕ) (reject : Serde.Error → JsonRejection) (headers : HeaderMap)
    (args : Value) : Tool → McpProg RestReply
  | .search => respond SearchResponse.toValue <$>
      (search headers ((SearchRequest.fromValue args).mapError reject)).run
  | .get => respond FullMessage.toValue <$>
      (get headers ((GetRequest.fromValue args).mapError reject)).run
  | .send => respond SendResponse.toValue <$>
      (send maxAttachmentBytes headers ((SendRequest.fromValue args).mapError reject)).run

section Handlers

variable (maxAttachmentBytes : ℕ) (reject : Serde.Error → JsonRejection) (headers : HeaderMap)
  (args : Value) (answer : ∀ q : McpOp, q.Answer)

/-- The reply that tells an action's outcome. -/
def outcomeReply : Except GatewayError Value → RestReply
  | .ok payload => { status := 200, body := payload }
  | .error err => err.intoResponse

theorem respond_eq {α : Type} (toValue : α → Value) (x : Except GatewayError α) :
    respond toValue x = outcomeReply (x.map toValue) := by
  cases x with
  | error err => rfl
  | ok value => rfl

theorem asked_resolveCredential :
    Prog.asked answer (ExceptT.run (resolveCredential headers)) = [.resolveCredential headers] := rfl

theorem runE_resolveCredential :
    runE answer (resolveCredential headers) = answer (.resolveCredential headers) := rfl

theorem asked_respond {α : Type} (toValue : α → Value) (p : RestProg α) :
    (respond toValue <$> p.run).asked answer = Prog.asked answer p.run := by
  rw [map_eq_pure_bind, asked_bind, asked_pure, List.append_nil]

theorem run_respond {α : Type} (toValue : α → Value) (p : RestProg α) :
    (respond toValue <$> p.run).run answer = outcomeReply ((runE answer p).map toValue) := by
  rw [map_eq_pure_bind, run_bind, run_pure, respond_eq]
  rfl

section Orders

variable {α β : Type} (body : Except GatewayError α) (act : MailboxCredential → α → RestProg β)

/-- The credential is asked for before the body is looked at. -/
theorem asked_credential_first :
    Prog.asked answer (ExceptT.run (do
      let credential ← resolveCredential headers
      let request ← (liftM body : RestProg α)
      act credential request)) =
      McpOp.resolveCredential headers :: match answer (.resolveCredential headers), body with
        | .ok credential, .ok request => Prog.asked answer (ExceptT.run (act credential request))
        | _, _ => [] := by
  rw [asked_fallible_bind, asked_resolveCredential, runE_resolveCredential]
  cases answer (.resolveCredential headers) with
  | error err => rfl
  | ok credential =>
    dsimp only
    rw [asked_fallible_bind]
    cases body with
    | error err => rfl
    | ok request => rfl

/-- The credential is asked for once the body could be read. -/
theorem asked_body_first :
    Prog.asked answer (ExceptT.run (do
      let request ← (liftM body : RestProg α)
      let credential ← resolveCredential headers
      act credential request)) =
      match body with
      | .error _ => []
      | .ok request => McpOp.resolveCredential headers ::
          match answer (.resolveCredential headers) with
          | .ok credential => Prog.asked answer (ExceptT.run (act credential request))
          | .error _ => [] := by
  rw [asked_fallible_bind]
  cases body with
  | error err => rfl
  | ok request =>
    change Prog.asked answer (ExceptT.run (do
      let credential ← resolveCredential headers
      act credential request)) = _
    rw [asked_fallible_bind, asked_resolveCredential, runE_resolveCredential]
    cases answer (.resolveCredential headers) with
    | error err => rfl
    | ok credential => rfl

variable (toValue : β → Value) (credential : MailboxCredential) (request : α)
  (hresolve : answer (.resolveCredential headers) = .ok credential) (hbody : body = .ok request)

include hresolve hbody

/-- With a credential and a request either order comes to the action, and to its outcome. -/
theorem credential_first_runs (p : RestProg β)
    (hp : p = do
      let credential ← resolveCredential headers
      let request ← (liftM body : RestProg α)
      act credential request) :
    (respond toValue <$> p.run).asked answer =
        .resolveCredential headers :: Prog.asked answer (ExceptT.run (act credential request)) ∧
      (respond toValue <$> p.run).run answer =
        outcomeReply ((runE answer (act credential request)).map toValue) := by
  rw [hp]
  constructor
  · rw [asked_respond, asked_credential_first, hresolve, hbody]
  · rw [run_respond, runE_bind, runE_resolveCredential, hresolve, hbody]
    rfl

theorem body_first_runs (p : RestProg β)
    (hp : p = do
      let request ← (liftM body : RestProg α)
      let credential ← resolveCredential headers
      act credential request) :
    (respond toValue <$> p.run).asked answer =
        .resolveCredential headers :: Prog.asked answer (ExceptT.run (act credential request)) ∧
      (respond toValue <$> p.run).run answer =
        outcomeReply ((runE answer (act credential request)).map toValue) := by
  rw [hp]
  constructor
  · rw [asked_respond, asked_body_first, hresolve, hbody]
  · rw [run_respond, hbody]
    change outcomeReply ((runE answer (resolveCredential headers >>= fun credential =>
      act credential request)).map toValue) = _
    rw [runE_bind, runE_resolveCredential, hresolve]
    rfl

end Orders

/-- A request that can be read under a credential that resolves runs its action, and the
reply tells its outcome. -/
theorem handler_runs (tool : Tool) (action : Action) (credential : MailboxCredential)
    (hresolve : answer (.resolveCredential headers) = .ok credential)
    (hread : tool.read args = .ok action) :
    (handler maxAttachmentBytes reject headers args tool).asked answer =
        [.resolveCredential headers, action.op maxAttachmentBytes credential] ∧
      (handler maxAttachmentBytes reject headers args tool).run answer =
        outcomeReply (action.outcome maxAttachmentBytes credential
          (answer (action.op maxAttachmentBytes credential))) := by
  cases tool with
  | search =>
    obtain ⟨request, hrequest, rfl⟩ := (map_eq_ok_iff _ _ _).mp hread
    exact credential_first_runs headers answer _ doSearch _ credential request hresolve
      (by rw [hrequest]; rfl) _ rfl
  | get =>
    obtain ⟨request, hrequest, rfl⟩ := (map_eq_ok_iff _ _ _).mp hread
    exact credential_first_runs headers answer _ doGet _ credential request hresolve
      (by rw [hrequest]; rfl) _ rfl
  | send =>
    obtain ⟨request, hrequest, rfl⟩ := (map_eq_ok_iff _ _ _).mp hread
    exact body_first_runs headers answer _
      (fun credential request => doSend credential request (.withMaxTotalBytes maxAttachmentBytes))
      _ credential request hresolve (by rw [hrequest]; rfl) _ rfl

/-- Without a credential, or without a request, nothing past the credential is asked for. -/
theorem passive_credential_first {α β : Type} (body : Except GatewayError α)
    (act : MailboxCredential → α → RestProg β)
    (h : (∀ credential, answer (.resolveCredential headers) ≠ .ok credential) ∨
      ∀ request, body ≠ .ok request) :
    Prog.asked answer (ExceptT.run (do
      let credential ← resolveCredential headers
      let request ← (liftM body : RestProg α)
      act credential request)) = [.resolveCredential headers] := by
  rw [asked_credential_first]
  cases hresolve : answer (.resolveCredential headers) with
  | error err => rfl
  | ok credential =>
    cases hbody : body with
    | error err => rfl
    | ok request =>
      rcases h with h | h
      · exact absurd hresolve (h credential)
      · exact absurd hbody (h request)

theorem passive_body_first {α β : Type} (body : Except GatewayError α)
    (act : MailboxCredential → α → RestProg β)
    (h : (∀ credential, answer (.resolveCredential headers) ≠ .ok credential) ∨
      ∀ request, body ≠ .ok request) :
    ∀ q ∈ Prog.asked answer (ExceptT.run (do
      let request ← (liftM body : RestProg α)
      let credential ← resolveCredential headers
      act credential request)), q = .resolveCredential headers := by
  rw [asked_body_first]
  cases hbody : body with
  | error err => simp
  | ok request =>
    cases hresolve : answer (.resolveCredential headers) with
    | error err => simp
    | ok credential =>
      rcases h with h | h
      · exact absurd hresolve (h credential)
      · exact absurd hbody (h request)

/-- The request type of a tool cannot be read from what the tool cannot read. -/
theorem unread_body {α : Type} (fromValue : Value → Except Serde.Error α) (wrap : α → Action)
    (h : ∀ action, (fromValue args).map wrap ≠ .ok action) :
    ∀ request, ((fromValue args).mapError reject).mapError jsonRejection ≠ .ok request := by
  intro request hok
  cases hread : fromValue args with
  | error err =>
    rw [hread] at hok
    cases hok
  | ok request' => exact h (wrap request') (by rw [hread]; rfl)

/-- A request that does not come to its action opens no connection to the mailbox. -/
theorem handler_passive (tool : Tool)
    (h : (∀ credential, answer (.resolveCredential headers) ≠ .ok credential) ∨
      ∀ action, tool.read args ≠ .ok action) :
    ∀ q ∈ (handler maxAttachmentBytes reject headers args tool).asked answer,
      q.isAction = false := by
  have hresolve (q : McpOp) (hq : q = .resolveCredential headers) : q.isAction = false := by
    rw [hq]
    rfl
  intro q hq
  apply hresolve
  cases tool with
  | search =>
    unfold handler search at hq
    rw [asked_respond, passive_credential_first headers answer _ _
      (h.imp_right (unread_body reject args SearchRequest.fromValue .search))] at hq
    exact List.mem_singleton.mp hq
  | get =>
    unfold handler get at hq
    rw [asked_respond, passive_credential_first headers answer _ _
      (h.imp_right (unread_body reject args GetRequest.fromValue .get))] at hq
    exact List.mem_singleton.mp hq
  | send =>
    unfold handler send at hq
    rw [asked_respond] at hq
    exact passive_body_first headers answer _ _
      (h.imp_right (unread_body reject args SendRequest.fromValue .send)) q hq

end Handlers

end Routes

end Overfwd
