import Overfwd.RequestErrors

namespace Overfwd

open Text Outcome Dialogue Serde

/-- The error responses that the handler of an action is annotated with: each status, and the
codes that are named for it. -/
def Routes.responses : Tool → List (ℕ × List String)
  | .search => [(400, ["bad_request"]), (401, ["unauthorized"]), (404, ["not_found"]),
      (502, ["auth_failure", "host_unreachable", "tls_failure"])]
  | .get => [(400, ["bad_request"]), (401, ["unauthorized"]), (404, ["not_found"]),
      (502, ["auth_failure", "host_unreachable", "tls_failure"])]
  | .send => [(400, ["bad_request"]), (401, ["unauthorized"]), (413, ["payload_too_large"]),
      (502, ["auth_failure", "host_unreachable", "tls_failure"])]

def GatewayError.Documented (e : GatewayError) (tool : Tool) : Prop :=
  ∃ codes, (e.status, codes) ∈ Routes.responses tool ∧ e.code ∈ codes

/-- The action of a REST route. -/
def GatedRequest.tool? : GatedRequest → Option Tool
  | .search _ => some .search
  | .get _ => some .get
  | .send _ => some .send
  | .mcp _ => none

/-- What the extractor of a REST route has rejected. -/
def GatedRequest.rejection? : GatedRequest → Option JsonRejection
  | .search (.error err) => some err
  | .get (.error err) => some err
  | .send (.error err) => some err
  | _ => none

/-- The errors that are not announced: of a read, that its body is too large; and of any action,
that autoconfiguration failed for the targets that the headers left to it. -/
def Unannounced (state : AppState) (incoming : Incoming) (tool : Tool) (e : GatewayError) : Prop :=
  (tool ≠ .send ∧ e.code = "payload_too_large" ∧
      ∃ err, incoming.request.rejection? = some err ∧ err.status = 413) ∨
    e.code = "autoconfig_failed" ∧ state.autoconfig.enabled = true ∧ incoming.headers.LeavesTarget

section Codes

/-- The status of an error goes by its code. -/
theorem documented_iff (e : GatewayError) (tool : Tool) :
    e.Documented tool ↔ e.OneOf ((Routes.responses tool).flatMap Prod.snd) := by
  unfold GatewayError.Documented GatewayError.OneOf
  cases tool with
  | _ =>
    cases e with
    | _ => simp [Routes.responses, GatewayError.status, GatewayError.code]

theorem documented_of_codes {codes : List String} (tool : Tool) (e : GatewayError)
    (he : e.OneOf codes) (hsub : codes ⊆ (Routes.responses tool).flatMap Prod.snd) :
    e.Documented tool := (documented_iff e tool).mpr (hsub he)

theorem undocumented_of_unannounced (state : AppState) (incoming : Incoming) (tool : Tool)
    (e : GatewayError) (he : Unannounced state incoming tool e) : ¬e.Documented tool := by
  rw [documented_iff]
  unfold GatewayError.OneOf
  rcases he with ⟨hread, hcode, -⟩ | ⟨hcode, -⟩
  · rw [hcode]
    cases tool with
    | send => exact absurd rfl hread
    | search => decide
    | get => decide
  · rw [hcode]
    cases tool with
    | _ => decide

end Codes

section Replies

variable {Address : Type} (crates : Crates Address) (env : Env) (state : AppState)

/-- An error that is announced where it should be. -/
def Accounted (incoming : Incoming) (tool : Tool) (e : GatewayError) : Prop :=
  e.Documented tool ∨ Unannounced state incoming tool e

theorem credential_accounted (incoming : Incoming) (tool : Tool) (H : NetHistory Address)
    (e : GatewayError)
    (hplays : Plays (netCredential crates state incoming.headers) H (.error e)) :
    Accounted state incoming tool e := by
  rcases netCredential_fails crates state incoming.headers H e hplays with he | he
  · left
    apply documented_of_codes tool e he
    cases tool with
    | _ => decide
  · exact .inr (.inr he)

theorem rejection_accounted (incoming : Incoming) (tool : Tool) (err : JsonRejection)
    (hrejected : incoming.request.rejection? = some err) :
    Accounted state incoming tool (jsonRejection err) := by
  have hbad (m : String) : (GatewayError.badRequest m).OneOf ["bad_request"] :=
    List.mem_singleton.mpr rfl
  have hlarge (m : String) : (GatewayError.payloadTooLarge m).OneOf ["payload_too_large"] :=
    List.mem_singleton.mpr rfl
  unfold jsonRejection
  split_ifs with hstatus
  · cases tool with
    | send => exact .inl (documented_of_codes .send _ (hlarge _) (by decide))
    | search => exact .inr (.inl ⟨by decide, rfl, err, hrejected, hstatus⟩)
    | get => exact .inr (.inl ⟨by decide, rfl, err, hrejected, hstatus⟩)
  · left
    apply documented_of_codes tool _ (hbad _)
    cases tool with
    | _ => decide

/-- What an action may fail with its route announces. -/
theorem answerMcp_documented (maxAttachmentBytes : ℕ) (cred : MailboxCredential) (action : Action)
    (H : NetHistory Address) (x : (action.op maxAttachmentBytes cred).Answer)
    (hplays : Plays (answerMcp crates env state (action.op maxAttachmentBytes cred)) H x)
    (e : GatewayError) (he : action.outcome maxAttachmentBytes cred x = .error e) :
    e.Documented action.tool := by
  cases action with
  | search request =>
    cases x with
    | ok response => cases he
    | error err =>
      cases he
      exact documented_of_codes .search e
        (raises_handle _ (raises_doSearch crates.mail crates.escapes (imapSettings env) cred request)
          H _ hplays e rfl) (by decide)
  | get request =>
    cases x with
    | ok response => cases he
    | error err =>
      cases he
      have hget : Plays (netGet crates env cred request) H (.error e) := hplays
      exact documented_of_codes .get e
        (raises_handle _ (raises_doGet crates.mail (imapSettings env) cred request) H _ hget e rfl)
        (by decide)
  | send request =>
    cases x with
    | ok response => cases he
    | error err =>
      cases he
      obtain ⟨_, stamp, H₂, -, hsend, -⟩ := (plays_bind _ _ _).mp hplays
      exact documented_of_codes .send e
        (raises_handle _ (raises_doSend crates.lettre crates.builder (env ENV_TLS_INSECURE) stamp cred
          request _) H₂ _ hsend e rfl) (by decide)

variable (incoming : Incoming) (h : McpHistory) (H : NetHistory Address)
  (hlayered : Layered (answerMcp crates env state) h H) (e : GatewayError)

include hlayered

theorem resolved_accounted (tool : Tool)
    (hh : h = [⟨.resolveCredential incoming.headers, .error e⟩]) :
    Accounted state incoming tool e := by
  subst hh
  exact credential_accounted crates state incoming tool H e
    ((layered_one (McpOp.resolveCredential incoming.headers) _ _).mp hlayered)

theorem invoked_accounted (cred : MailboxCredential) (action : Action) (h' : McpHistory)
    (x : (action.op state.config.maxAttachmentBytes cred).Answer)
    (hh : h = ⟨.resolveCredential incoming.headers, .ok cred⟩ :: h')
    (hplays : Plays (invoke (action.op state.config.maxAttachmentBytes cred)) h' x)
    (he : action.outcome state.config.maxAttachmentBytes cred x = .error e) :
    Accounted state incoming action.tool e := by
  subst hh
  obtain rfl := (plays_call _ _).mp hplays
  obtain ⟨_, H₂, -, hacted, -⟩ := (layered_cons _ _ _ _).mp hlayered
  exact .inl (answerMcp_documented crates env state _ cred action H₂ x
    ((layered_one _ _ _).mp hacted) e he)

/-- A handler that resolves the credential first. -/
theorem read_accounted {α β : Type} (tool : Tool) (act : MailboxCredential → α → RestProg β)
    (hacted : ∀ cred request h', h = ⟨.resolveCredential incoming.headers, .ok cred⟩ :: h' →
      Plays (act cred request).run h' (.error e) → Accounted state incoming tool e)
    (body : Except JsonRejection α)
    (hrejected : ∀ err, body = .error err → incoming.request.rejection? = some err)
    (hplays : Plays (ExceptT.run (do
      let credential ← Routes.resolveCredential incoming.headers
      let request ← (liftM (body.mapError jsonRejection) : RestProg α)
      act credential request)) h (.error e)) :
    Accounted state incoming tool e := by
  rcases plays_credential_first incoming.headers _ _ hplays with ⟨e', hh, he⟩ |
    ⟨cred, e', hbody, -, he⟩ | ⟨cred, request, h', -, hh, hact⟩
  · cases he
    exact resolved_accounted crates env state incoming h H hlayered e tool hh
  · cases he
    obtain ⟨err, rfl, rfl⟩ := (mapError_eq_error_iff _ _ _).mp hbody
    exact rejection_accounted state incoming tool err (hrejected err rfl)
  · exact hacted cred request h' hh hact

theorem search_accounted (body : Except JsonRejection SearchRequest)
    (hrequest : incoming.request = .search body)
    (hplays : Plays (Routes.search incoming.headers body).run h (.error e)) :
    Accounted state incoming .search e := by
  refine read_accounted crates env state incoming h H hlayered e .search Routes.doSearch ?_ body ?_
    hplays
  · intro cred request h' hh hact
    exact invoked_accounted crates env state incoming h H hlayered e cred (.search request) h' _ hh
      hact rfl
  · rintro err rfl
    rw [hrequest]
    rfl

theorem get_accounted (body : Except JsonRejection GetRequest)
    (hrequest : incoming.request = .get body)
    (hplays : Plays (Routes.get incoming.headers body).run h (.error e)) :
    Accounted state incoming .get e := by
  refine read_accounted crates env state incoming h H hlayered e .get Routes.doGet ?_ body ?_ hplays
  · intro cred request h' hh hact
    exact invoked_accounted crates env state incoming h H hlayered e cred (.get request) h' _ hh
      hact rfl
  · rintro err rfl
    rw [hrequest]
    rfl

theorem send_accounted (body : Except JsonRejection SendRequest)
    (hrequest : incoming.request = .send body)
    (hplays : Plays (Routes.send state.config.maxAttachmentBytes incoming.headers body).run h
      (.error e)) : Accounted state incoming .send e := by
  rcases plays_body_first incoming.headers _ _ hplays with ⟨e', hbody, -, he⟩ | ⟨e', hh, he⟩ |
    ⟨cred, request, h', -, hh, hact⟩
  · cases he
    obtain ⟨err, rfl, rfl⟩ := (mapError_eq_error_iff _ _ _).mp hbody
    exact rejection_accounted state incoming .send err (by rw [hrequest]; rfl)
  · cases he
    exact resolved_accounted crates env state incoming h H hlayered e .send hh
  · exact invoked_accounted crates env state incoming h H hlayered e cred (.send request) h' _ hh
      hact rfl

end Replies

section Runs

variable {Address : Type} (crates : Crates Address) (env : Env) (state : AppState)

/-- The reply of a result that is accounted for. -/
def RestReply.AccountedFor (incoming : Incoming) (tool : Tool) (reply : RestReply) : Prop :=
  reply.status = 200 ∨ ∃ e : GatewayError, reply = e.intoResponse ∧
    (Unannounced state incoming tool e ↔ ¬e.Documented tool)

theorem accountedFor_of_error (incoming : Incoming) (tool : Tool) (e : GatewayError)
    (he : Accounted state incoming tool e) :
    e.intoResponse.AccountedFor state incoming tool := by
  refine .inr ⟨e, rfl, undocumented_of_unannounced state incoming tool e, fun hundocumented => ?_⟩
  rcases he with hdocumented | hunannounced
  · exact absurd hdocumented hundocumented
  · exact hunannounced

theorem respond_accountedFor {α : Type} (toValue : α → Value) (incoming : Incoming) (tool : Tool)
    (r : Except GatewayError α) (hr : ∀ e, r = .error e → Accounted state incoming tool e) :
    (Routes.respond toValue r).AccountedFor state incoming tool := by
  cases r with
  | ok value => exact .inl rfl
  | error e => exact accountedFor_of_error state incoming tool e (hr e rfl)

/-- In every run of a REST request: an error is one of the documented responses of its route,
unless a read's body was too large or autoconfiguration failed, and those two never are. -/
theorem replies_documented (incoming : Incoming) (tool : Tool)
    (htool : incoming.request.tool? = some tool) (H : NetHistory Address) (reply : GatewayReply)
    (hplays : Plays (serve crates env state incoming) H (some reply)) :
    ∃ r : RestReply, reply = .rest r ∧ r.AccountedFor state incoming tool := by
  rcases plays_serve crates env state incoming hplays with ⟨-, -, hreply⟩ | ⟨-, -, message, hreply⟩ |
    ⟨-, -, reply', hreply, hhandler⟩
  · cases hreply
  · cases hreply
    refine ⟨_, rfl, accountedFor_of_error state incoming tool _ (.inl ?_)⟩
    apply (documented_iff _ tool).mpr
    cases tool with
    | _ => simp [GatewayError.OneOf, GatewayError.code, Routes.responses]
  · cases hreply
    obtain ⟨h, hhandler, hlayered⟩ := (plays_handle _ _ _).mp hhandler
    cases hrequest : incoming.request with
    | search body =>
      rw [hrequest] at hhandler htool
      cases htool
      obtain ⟨r, hrun, rfl⟩ := (plays_map _ _ _).mp hhandler
      refine ⟨_, rfl, respond_accountedFor state _ incoming _ r fun e he => ?_⟩
      exact search_accounted crates env state incoming h H hlayered e body hrequest (he ▸ hrun)
    | get body =>
      rw [hrequest] at hhandler htool
      cases htool
      obtain ⟨r, hrun, rfl⟩ := (plays_map _ _ _).mp hhandler
      refine ⟨_, rfl, respond_accountedFor state _ incoming _ r fun e he => ?_⟩
      exact get_accounted crates env state incoming h H hlayered e body hrequest (he ▸ hrun)
    | send body =>
      rw [hrequest] at hhandler htool
      cases htool
      obtain ⟨r, hrun, rfl⟩ := (plays_map _ _ _).mp hhandler
      refine ⟨_, rfl, respond_accountedFor state _ incoming _ r fun e he => ?_⟩
      exact send_accounted crates env state incoming h H hlayered e body hrequest (he ▸ hrun)
    | mcp body =>
      rw [hrequest] at htool
      cases htool

end Runs

/-- A search whose body is over the limit of its route. -/
def oversizedIncoming : Incoming where
  headers := aliceHeaders
  request := .search (.error ⟨413, "length limit exceeded", "Failed to buffer the request body"⟩)

theorem oversized_search_unannounced : ∃ r : RestReply,
    (serve plainCrates (fun _ => none) plainApp oversizedIncoming).run plainAnswer =
      some (.rest r) ∧ r.status = 413 ∧ r.AccountedFor plainApp oversizedIncoming .search := by
  have hplays := plays_run plainAnswer (serve plainCrates (fun _ => none) plainApp oversizedIncoming)
  obtain ⟨r, hrun, hstatus⟩ : ∃ r : RestReply,
      (serve plainCrates (fun _ => none) plainApp oversizedIncoming).run plainAnswer =
        some (.rest r) ∧ r.status = 413 := ⟨_, rfl, rfl⟩
  rw [hrun] at hplays
  obtain ⟨_, ⟨⟩, haccounted⟩ := replies_documented plainCrates _ plainApp oversizedIncoming .search rfl
    _ _ hplays
  exact ⟨r, hrun, hstatus, haccounted⟩

end Overfwd
