import Overfwd.Actions
import Overfwd.McpSizeGate

namespace Overfwd

open Text Outcome Dialogue Serde

/-- The response says one thing: a result or an error. -/
def RpcResponse.IsExclusive (r : RpcResponse) : Prop := r.result.isSome = !r.error.isSome

theorem okResponse_exclusive (id result : Value) : (okResponse id result).IsExclusive := rfl

theorem errorResponse_exclusive (id : Value) (code : ℤ) (message : String) (data : Option Value) :
    (errorResponse id code message data).IsExclusive := rfl

/-- A message that can be answered and calls a known tool with arguments that fit it. -/
def CallsAction (item id : Value) (action : Action) : Prop :=
  ∃ tool arguments, ToolsCall item id tool arguments ∧ tool.read arguments = .ok action

abbrev McpHistory := List (Exchange McpOp McpOp.Answer)

section Reports

variable (json : SerdeJson) (schemas : ToolSchemas) (maxAttachmentBytes : ℕ) (headers : HeaderMap)

/-- A tool call once its credential is resolved, or is not. -/
def answerCall (id : Value) (action : Action) :
    Except GatewayError MailboxCredential → McpProg RpcResponse
  | .error err => pure (gatewayProtocolError id err)
  | .ok credential => do
    let outcome ← action.perform maxAttachmentBytes credential
    pure (okResponse id (toolReport json outcome))

/-- What became of one message: `h` is what it exchanged with its surroundings and
`response` what it got. -/
structure MessageReport (item : Value) (h : McpHistory) (response : Option RpcResponse) :
    Prop where
  called : ∀ id action, CallsAction item id action →
    (∃ err, h = [⟨.resolveCredential headers, .error err⟩] ∧
        response = some (gatewayProtocolError id err)) ∨
      ∃ credential x,
        h = [⟨.resolveCredential headers, .ok credential⟩,
          ⟨action.op maxAttachmentBytes credential, x⟩] ∧
        response = some (okResponse id
          (toolReport json (action.outcome maxAttachmentBytes credential x)))
  passive : (∀ id action, ¬CallsAction item id action) → ∀ e ∈ h, e.1.isAction = false
  carries : ∀ r, response = some r → item.get? "id" = some r.id
  exclusive : ∀ r, response = some r → r.IsExclusive

/-- What a message does that runs no action: it is answered at once or asks for the
credential and is then refused. -/
def IsPassive (p : McpProg (Option RpcResponse)) : Prop :=
  (∃ response, (∀ r, response = some r → r.IsExclusive) ∧ p = pure response) ∨
    ∃ respond : Except GatewayError MailboxCredential → RpcResponse,
      (∀ resolved, (respond resolved).IsExclusive) ∧
      p = invoke (.resolveCredential headers) >>= fun resolved => pure (some (respond resolved))

section Messages

variable (members : List (String × Value))

/-- A well-formed call resolves the credential and then runs its action. -/
theorem handleOne_called (id : Value) (action : Action)
    (h : CallsAction (.object members) id action) :
    handleOne json schemas maxAttachmentBytes headers (.object members) =
      invoke (.resolveCredential headers) >>= fun resolved =>
        answerCall json maxAttachmentBytes id action resolved >>= fun r => pure (some r) := by
  obtain ⟨tool, arguments, hcall, hargs⟩ := h
  rw [handleOne_toolsCall json maxAttachmentBytes schemas headers members id tool arguments hcall]
  congr 1
  funext resolved
  cases resolved with
  | error err => rfl
  | ok credential =>
    dsimp only [answerResolved]
    unfold answerTool answerCall
    rw [hargs]

/-- A call whose arguments cannot be used is refused, whoever the credential belongs to. -/
theorem answerTool_refused (credential : MailboxCredential) (id : Value) (tool : Tool)
    (arguments : Value) (h : ∀ action, tool.read arguments ≠ .ok action) :
    ∃ message, answerTool json maxAttachmentBytes credential id tool arguments =
      pure (errorResponse id INVALID_PARAMS message none) := by
  unfold answerTool
  cases hread : tool.read arguments with
  | error err => exact ⟨_, rfl⟩
  | ok action => exact absurd hread (h action)

theorem callWithCredential_refused (credential : MailboxCredential) (params : Option Value)
    (id : Value)
    (h : ∀ tool arguments action, NamesTool params tool arguments →
      tool.read arguments ≠ .ok action) :
    ∃ message, callWithCredential json maxAttachmentBytes credential params id =
      pure (errorResponse id INVALID_PARAMS message none) := by
  by_cases hnames : ∃ tool arguments, NamesTool params tool arguments
  · obtain ⟨tool, arguments, hnames⟩ := hnames
    rw [callWithCredential_named json maxAttachmentBytes credential id params tool arguments hnames]
    exact answerTool_refused json maxAttachmentBytes credential id tool arguments
      fun action => h tool arguments action hnames
  · refine callWithCredential_unnamed json maxAttachmentBytes credential id params ?_
    intro tool arguments hnamed
    exact hnames ⟨tool, arguments, hnamed⟩

/-- Such a call asks for the credential and nothing else. -/
theorem toolsCall_refused (params : Option Value) (id : Value)
    (h : ∀ tool arguments action, NamesTool params tool arguments →
      tool.read arguments ≠ .ok action) :
    ∃ respond : Except GatewayError MailboxCredential → RpcResponse,
      (∀ resolved, (respond resolved).IsExclusive) ∧
      toolsCall json maxAttachmentBytes headers params id =
        invoke (.resolveCredential headers) >>= fun resolved => pure (respond resolved) := by
  have hrefused (credential : MailboxCredential) :=
    callWithCredential_refused json maxAttachmentBytes credential params id h
  choose message hmessage using hrefused
  let respond : Except GatewayError MailboxCredential → RpcResponse := fun resolved =>
    match resolved with
    | .error err => gatewayProtocolError id err
    | .ok credential => errorResponse id INVALID_PARAMS (message credential) none
  refine ⟨respond, ?_, ?_⟩
  · intro resolved
    cases resolved with
    | error err => exact errorResponse_exclusive _ _ _ _
    | ok credential => exact errorResponse_exclusive _ _ _ _
  · unfold toolsCall
    congr 1
    funext resolved
    cases resolved with
    | error err => rfl
    | ok credential => exact hmessage credential

/-- A response that is made of the id alone asks for nothing. -/
theorem answered_by_id (id : Option Value) (respond : Value → RpcResponse)
    (h : ∀ id, (respond id).IsExclusive) : ∀ r, id.map respond = some r → r.IsExclusive := by
  intro r hr
  obtain ⟨id, -, rfl⟩ := Option.map_eq_some_iff.mp hr
  exact h id

theorem runMethod_passive (request : RpcRequest)
    (h : request.method = "tools/call" → ∀ id, request.id = some id →
      ∀ tool arguments action, NamesTool request.params tool arguments →
        tool.read arguments ≠ .ok action) :
    IsPassive headers (runMethod json schemas maxAttachmentBytes headers request) := by
  unfold runMethod
  split_ifs with hinit hping hlist hcall hnotify
  · exact .inl ⟨_, answered_by_id _ _ fun id => okResponse_exclusive id _, rfl⟩
  · exact .inl ⟨_, answered_by_id _ _ fun id => okResponse_exclusive id _, rfl⟩
  · exact .inl ⟨_, answered_by_id _ _ fun id => okResponse_exclusive id _, rfl⟩
  · cases hid : request.id with
    | none => exact .inl ⟨none, (fun r hr => nomatch hr), rfl⟩
    | some id =>
      obtain ⟨respond, hrespond, heq⟩ := toolsCall_refused json maxAttachmentBytes headers
        request.params id (h hcall id hid)
      refine .inr ⟨respond, hrespond, ?_⟩
      dsimp only
      rw [heq, bind_assoc]
      rfl
  · exact .inl ⟨none, (fun r hr => nomatch hr), rfl⟩
  · exact .inl ⟨_, answered_by_id _ _ fun id => errorResponse_exclusive id _ _ _, rfl⟩

/-- A message that is no well-formed call runs no action. -/
theorem handleOne_passive (h : ∀ id action, ¬CallsAction (.object members) id action) :
    IsPassive headers (handleOne json schemas maxAttachmentBytes headers (.object members)) := by
  unfold handleOne
  cases hread : RpcRequest.fromValue (.object members) with
  | error err => exact .inl ⟨_, answered_by_id _ _ fun id => errorResponse_exclusive id _ _ _, rfl⟩
  | ok request =>
    dsimp only
    unfold handleRequest
    split_ifs with hversion
    · exact .inl ⟨_, answered_by_id _ _ fun id => errorResponse_exclusive id _ _ _, rfl⟩
    · apply runMethod_passive json schemas maxAttachmentBytes headers request
      intro hmethod id hid tool arguments action hnames hargs
      obtain ⟨hmember, hnonnull⟩ := (get_id_of_request members request id hread).mp hid
      have hcall : ToolsCall (.object members) id tool arguments :=
        ⟨hmember, hnonnull, request, hread, not_not.mp hversion, hmethod, hnames⟩
      exact h id action ⟨tool, arguments, hcall, hargs⟩

/-- The id of a response is the message's own. -/
theorem handleOne_id (h : McpHistory) (response : Option RpcResponse)
    (hplays : Plays (handleOne json schemas maxAttachmentBytes headers (.object members)) h
      response) :
    ∀ r, response = some r → (Value.object members).get? "id" = some r.id :=
  (handleOne_outcome json schemas maxAttachmentBytes headers _ _ _ (runs_of_plays hplays)).carries rfl

theorem answerCall_cases (id : Value) (action : Action) (h : McpHistory) (r : RpcResponse)
    (hplays : Plays (invoke (.resolveCredential headers) >>=
      answerCall json maxAttachmentBytes id action) h r) :
    (∃ err, h = [⟨.resolveCredential headers, .error err⟩] ∧ r = gatewayProtocolError id err) ∨
      ∃ credential x,
        h = [⟨.resolveCredential headers, .ok credential⟩,
          ⟨action.op maxAttachmentBytes credential, x⟩] ∧
        r = okResponse id (toolReport json (action.outcome maxAttachmentBytes credential x)) := by
  obtain ⟨h₁, resolved, h₂, hresolve, hanswer, rfl⟩ := (plays_bind _ _ _).mp hplays
  obtain rfl := (plays_call _ _).mp hresolve
  cases resolved with
  | error err =>
    obtain ⟨rfl, rfl⟩ := (plays_pure _ _).mp hanswer
    exact .inl ⟨err, rfl, rfl⟩
  | ok credential =>
    obtain ⟨h₃, outcome, h₄, hperform, hpure, rfl⟩ := (plays_bind _ _ _).mp hanswer
    obtain ⟨rfl, rfl⟩ := (plays_pure _ _).mp hpure
    obtain ⟨h₅, x, h₆, hcall, hpure, rfl⟩ := (plays_bind _ _ _).mp hperform
    obtain ⟨rfl, rfl⟩ := (plays_pure _ _).mp hpure
    obtain rfl := (plays_call _ _).mp hcall
    exact .inr ⟨credential, x, rfl, rfl⟩

theorem called_report (id : Value) (action : Action) (h : McpHistory)
    (response : Option RpcResponse) (hcalls : CallsAction (.object members) id action)
    (hplays : Plays (handleOne json schemas maxAttachmentBytes headers (.object members)) h
      response) :
    ∃ r, response = some r ∧
      ((∃ err, h = [⟨.resolveCredential headers, .error err⟩] ∧ r = gatewayProtocolError id err) ∨
        ∃ credential x,
          h = [⟨.resolveCredential headers, .ok credential⟩,
            ⟨action.op maxAttachmentBytes credential, x⟩] ∧
          r = okResponse id
            (toolReport json (action.outcome maxAttachmentBytes credential x))) := by
  rw [handleOne_called json schemas maxAttachmentBytes headers members id action hcalls,
    ← bind_assoc] at hplays
  obtain ⟨h₁, r, h₂, hcall, hpure, rfl⟩ := (plays_bind _ _ _).mp hplays
  obtain ⟨rfl, rfl⟩ := (plays_pure _ _).mp hpure
  rw [List.append_nil]
  exact ⟨r, rfl, answerCall_cases json maxAttachmentBytes headers id action h₁ r hcall⟩

theorem passive_report (p : McpProg (Option RpcResponse)) (h : McpHistory)
    (response : Option RpcResponse) (hpassive : IsPassive headers p) (hplays : Plays p h response) :
    (∀ e ∈ h, e.1.isAction = false) ∧ ∀ r, response = some r → r.IsExclusive := by
  rcases hpassive with ⟨_, hexclusive, rfl⟩ | ⟨respond, hexclusive, rfl⟩
  · obtain ⟨rfl, rfl⟩ := (plays_pure _ _).mp hplays
    exact ⟨by simp, hexclusive⟩
  · obtain ⟨h₁, resolved, h₂, hresolve, hpure, rfl⟩ := (plays_bind _ _ _).mp hplays
    obtain rfl := (plays_call _ _).mp hresolve
    obtain ⟨rfl, rfl⟩ := (plays_pure _ _).mp hpure
    refine ⟨?_, ?_⟩
    · intro e he
      rw [List.append_nil] at he
      obtain rfl := List.mem_singleton.mp he
      rfl
    · intro r hr
      cases hr
      exact hexclusive resolved

/-- One message, whatever it is. -/
theorem handleOne_report (h : McpHistory) (response : Option RpcResponse)
    (hplays : Plays (handleOne json schemas maxAttachmentBytes headers (.object members)) h
      response) :
    MessageReport json maxAttachmentBytes headers (.object members) h response := by
  have hcarries := handleOne_id json schemas maxAttachmentBytes headers members h response hplays
  have hcalled (id : Value) (action : Action) (hcalls : CallsAction (.object members) id action) :=
    called_report json schemas maxAttachmentBytes headers members id action h response hcalls hplays
  have hpassive (hnone : ∀ id action, ¬CallsAction (.object members) id action) :=
    passive_report headers _ h response
      (handleOne_passive json schemas maxAttachmentBytes headers members hnone) hplays
  refine ⟨?_, fun hnone => (hpassive hnone).1, hcarries, ?_⟩
  · intro id action hcalls
    obtain ⟨r, rfl, hcases⟩ := hcalled id action hcalls
    simpa only [Option.some_inj] using hcases
  · by_cases hcalls : ∃ id action, CallsAction (.object members) id action
    · obtain ⟨id, action, hcalls⟩ := hcalls
      intro r hr
      obtain ⟨r', hr', hcases⟩ := hcalled id action hcalls
      cases hr.symm.trans hr'
      rcases hcases with ⟨err, -, rfl⟩ | ⟨credential, x, -, rfl⟩
      · exact errorResponse_exclusive _ _ _ _
      · exact okResponse_exclusive _ _
    · refine (hpassive ?_).2
      intro id action hcall
      exact hcalls ⟨id, action, hcall⟩

end Messages

/-- The messages of a batch, one after the other. -/
theorem handleBatch_reports (items : List Value) (h : McpHistory) (responses : List RpcResponse)
    (hobjects : ∀ item ∈ items, ∃ members, item = .object members)
    (hplays : Plays (handleBatch json schemas maxAttachmentBytes headers items) h responses) :
    ∃ reports : List (McpHistory × Option RpcResponse),
      List.Forall₂
        (fun item o => MessageReport json maxAttachmentBytes headers item o.1 o.2) items reports ∧
      h = reports.flatMap Prod.fst ∧ responses = reports.filterMap Prod.snd := by
  induction items generalizing h responses with
  | nil =>
    obtain ⟨rfl, rfl⟩ := (plays_pure _ _).mp hplays
    exact ⟨[], .nil, rfl, rfl⟩
  | cons item items ih =>
    obtain ⟨members, rfl⟩ := hobjects item (by simp)
    obtain ⟨h₁, response, h₂, hone, htail, rfl⟩ := (plays_bind _ _ _).mp hplays
    obtain ⟨h₃, rest, h₄, hrest, hpure, rfl⟩ := (plays_bind _ _ _).mp htail
    obtain ⟨rfl, rfl⟩ := (plays_pure _ _).mp hpure
    have hobjects' : ∀ item ∈ items, ∃ members, item = .object members :=
      fun item hitem => hobjects item (List.mem_cons_of_mem _ hitem)
    obtain ⟨reports, hreports, rfl, rfl⟩ := ih h₃ rest hobjects' hrest
    have hreport := handleOne_report json schemas maxAttachmentBytes headers members h₁ response hone
    refine ⟨(h₁, response) :: reports, .cons hreport hreports, ?_, ?_⟩
    · simp only [List.flatMap_cons, List.append_nil]
    · cases response with
      | none => rfl
      | some r => rfl

end Reports

def McpReply.responses : McpReply → List RpcResponse
  | .single _ response => [response]
  | .batch responses => responses
  | .accepted => []

theorem batchReply_responses (responses : List RpcResponse) :
    (batchReply responses).responses = responses ∧
      (batchReply responses = .accepted ↔ responses = []) := by
  cases responses with
  | nil => exact ⟨rfl, fun _ => rfl, fun _ => rfl⟩
  | cons r rs => exact ⟨rfl, (fun h => nomatch h), (fun h => nomatch h)⟩

theorem singleReply_responses (response : Option RpcResponse) :
    (singleReply response).responses = response.toList ∧
      (singleReply response = .accepted ↔ response.toList = []) := by
  cases response with
  | none => exact ⟨rfl, fun _ => rfl, fun _ => rfl⟩
  | some r => exact ⟨rfl, (fun h => nomatch h), (fun h => nomatch h)⟩

section Samples

def uidSeven : GetRequest where
  folder := none
  uid := 7

/-- A call of `email_get`. -/
def getCall : Value := .object [("id", sampleId), ("jsonrpc", .string "2.0"),
  ("method", .string "tools/call"),
  ("params", .object [("arguments", .object [("uid", natValue 7)]), ("name", .string "email_get")])]

def getCallText : List UInt8 := asciiBytes
  ("[\x7b\"id\":1,\"jsonrpc\":\"2.0\",\"method\":\"tools/call\",\"params\":" ++
    "\x7b\"arguments\":\x7b\"uid\":7\x7d,\"name\":\"email_get\"\x7d\x7d," ++
    "\x7b\"jsonrpc\":\"2.0\",\"method\":\"notifications/initialized\"\x7d]")

def sampleCredential : MailboxCredential where
  username := "user"
  password := "pass"
  imap := { host := "imap.example.com", port := 993 }
  smtp := { host := "smtp.example.com", port := 465 }

def noSuchUid : GatewayError := .notFound "no message with uid 7"

def getCallHistory : McpHistory :=
  [⟨.resolveCredential jsonHeaders, .ok sampleCredential⟩,
    ⟨.get sampleCredential uidSeven, .error noSuchUid⟩]

def getCallPayload : Value := .array [getCall, initialized]

end Samples

end Overfwd
