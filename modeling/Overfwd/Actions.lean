import Overfwd.McpReplies

namespace Overfwd

open Text Outcome Dialogue Serde

inductive Tool
  | search
  | get
  | send
  deriving DecidableEq

def Tool.name : Tool → String
  | .search => "email_search"
  | .get => "email_get"
  | .send => "email_send"

/-- A tool with the arguments it was given. -/
inductive Action
  | search (request : SearchRequest)
  | get (request : GetRequest)
  | send (request : SendRequest)

def Tool.read : Tool → Value → Except Serde.Error Action
  | .search, arguments => (SearchRequest.fromValue arguments).map .search
  | .get, arguments => (GetRequest.fromValue arguments).map .get
  | .send, arguments => (SendRequest.fromValue arguments).map .send

/-- What a surface asks of the mailbox for the action. -/
def Action.op (maxAttachmentBytes : ℕ) (credential : MailboxCredential) : Action → McpOp
  | .search request => .search credential request
  | .get request => .get credential request
  | .send request => .send credential request (.withMaxTotalBytes maxAttachmentBytes)

/-- The answer with its value as JSON. -/
def Action.outcome (maxAttachmentBytes : ℕ) (credential : MailboxCredential) :
    (action : Action) → (action.op maxAttachmentBytes credential).Answer → Except GatewayError Value
  | .search _, x => Except.map SearchResponse.toValue x
  | .get _, x => Except.map FullMessage.toValue x
  | .send _, x => Except.map SendResponse.toValue x

/-- A question that opens a connection to the mailbox's servers. -/
def McpOp.isAction : McpOp → Bool
  | .resolveCredential _ => false
  | _ => true

/-- Runs an action and hands its outcome over. -/
def Action.perform (maxAttachmentBytes : ℕ) (credential : MailboxCredential) (action : Action) :
    McpProg (Except GatewayError Value) := do
  let x ← invoke (action.op maxAttachmentBytes credential)
  pure (action.outcome maxAttachmentBytes credential x)

/-- No two tools share a name. -/
theorem Tool.name_injective (tool tool' : Tool) (h : tool.name = tool'.name) : tool = tool' := by
  revert h
  cases tool <;> cases tool' <;> decide

section Calls

variable (json : SerdeJson) (maxAttachmentBytes : ℕ)

/-- The `CallToolResult` of an outcome. -/
def toolReport : Except GatewayError Value → Value
  | .ok payload => toolSuccess json payload
  | .error err => toolError json err

theorem toolResponse_eq {α : Type} (id : Value) (toValue : α → Value)
    (outcome : Except GatewayError α) :
    toolResponse json id toValue outcome = okResponse id (toolReport json (outcome.map toValue)) := by
  cases outcome with
  | ok value => rfl
  | error err => rfl

/-- The params of a call that names the tool and hands it the arguments. -/
def NamesTool (params : Option Value) (tool : Tool) (arguments : Value) : Prop :=
  ∃ p call, params = some p ∧ ToolCallParams.fromValue p = .ok call ∧ call.name = tool.name ∧
    call.arguments = arguments

section Dispatch

variable (credential : MailboxCredential) (id : Value)

/-- What a known tool does with its arguments: they are refused, or its action is run and
the outcome reported. -/
def answerTool (tool : Tool) (arguments : Value) : McpProg RpcResponse :=
  match tool.read arguments with
  | .ok action => do
    let outcome ← action.perform maxAttachmentBytes credential
    pure (okResponse id (toolReport json outcome))
  | .error err => pure (errorResponse id INVALID_PARAMS
      ("invalid arguments for " ++ tool.name ++ ": " ++ json.errorText err) none)

theorem runTool_eq {α : Type} (tool : Tool) (fromValue : Value → Except Serde.Error α)
    (wrap : α → Action) (call : ToolCallParams)
    {β : Type} (action : α → McpProg (Except GatewayError β)) (toValue : β → Value)
    (hname : call.name = tool.name)
    (hread : tool.read call.arguments = (fromValue call.arguments).map wrap)
    (hperform : ∀ request, (wrap request).perform maxAttachmentBytes credential =
      action request >>= fun x => pure (x.map toValue)) :
    runTool json fromValue action toValue call id =
      answerTool json maxAttachmentBytes credential id tool call.arguments := by
  unfold runTool answerTool parseArguments
  rw [hread, hname]
  cases fromValue call.arguments with
  | error err => rfl
  | ok request =>
    change (action request >>= fun outcome => pure (toolResponse json id toValue outcome)) =
      (wrap request).perform maxAttachmentBytes credential >>= _
    rw [hperform, bind_assoc]
    simp only [pure_bind, toolResponse_eq]

theorem dispatchTool_eq (tool : Tool) (call : ToolCallParams) (hname : call.name = tool.name) :
    dispatchTool json maxAttachmentBytes credential call id =
      answerTool json maxAttachmentBytes credential id tool call.arguments := by
  unfold dispatchTool
  cases tool with
  | search =>
    have hsearch : call.name = "email_search" := hname
    rw [if_pos hsearch]
    exact runTool_eq json maxAttachmentBytes credential id .search _ .search call _ _ hname rfl
      fun _ => rfl
  | get =>
    have hget : call.name = "email_get" := hname
    rw [if_neg (by rw [hget]; decide), if_pos hget]
    exact runTool_eq json maxAttachmentBytes credential id .get _ .get call _ _ hname rfl
      fun _ => rfl
  | send =>
    have hsend : call.name = "email_send" := hname
    rw [if_neg (by rw [hsend]; decide), if_neg (by rw [hsend]; decide), if_pos hsend]
    exact runTool_eq json maxAttachmentBytes credential id .send _ .send call _ _ hname rfl
      fun _ => rfl

theorem dispatchTool_unknown (call : ToolCallParams) (hname : ∀ tool : Tool, call.name ≠ tool.name) :
    dispatchTool json maxAttachmentBytes credential call id =
      pure (errorResponse id INVALID_PARAMS ("unknown tool: " ++ call.name) none) := by
  have hsearch : call.name ≠ "email_search" := hname .search
  have hget : call.name ≠ "email_get" := hname .get
  have hsend : call.name ≠ "email_send" := hname .send
  unfold dispatchTool
  rw [if_neg hsearch, if_neg hget, if_neg hsend]

theorem callWithCredential_named (params : Option Value) (tool : Tool) (arguments : Value)
    (h : NamesTool params tool arguments) :
    callWithCredential json maxAttachmentBytes credential params id =
      answerTool json maxAttachmentBytes credential id tool arguments := by
  obtain ⟨p, call, rfl, hcall, hname, rfl⟩ := h
  unfold callWithCredential
  dsimp only
  rw [hcall]
  exact dispatchTool_eq json maxAttachmentBytes credential id tool call hname

/-- Params that name no tool are refused, and nothing is run. -/
theorem callWithCredential_unnamed (params : Option Value)
    (h : ∀ tool arguments, ¬NamesTool params tool arguments) :
    ∃ message, callWithCredential json maxAttachmentBytes credential params id =
      pure (errorResponse id INVALID_PARAMS message none) := by
  unfold callWithCredential
  cases params with
  | none => exact ⟨_, rfl⟩
  | some p =>
    dsimp only
    cases hcall : ToolCallParams.fromValue p with
    | error err => exact ⟨_, rfl⟩
    | ok call =>
      refine ⟨_, dispatchTool_unknown json maxAttachmentBytes credential id call ?_⟩
      intro tool hname
      exact h tool call.arguments ⟨p, call, rfl, hcall, hname, rfl⟩

/-- A tool call once its credential is resolved, or is not. -/
def answerResolved (tool : Tool) (arguments : Value) :
    Except GatewayError MailboxCredential → McpProg RpcResponse
  | .error err => pure (gatewayProtocolError id err)
  | .ok credential => answerTool json maxAttachmentBytes credential id tool arguments

end Dispatch

/-- A message that calls a tool with its arguments and can be answered. -/
structure ToolsCall (item id : Value) (tool : Tool) (arguments : Value) : Prop where
  id_member : item.get? "id" = some id
  id_nonnull : id.isNull = false
  reads : ∃ request, RpcRequest.fromValue item = .ok request ∧ request.jsonrpc = "2.0" ∧
    request.method = "tools/call" ∧ NamesTool request.params tool arguments

/-- Such a message resolves the credential of its headers, and the tool is asked with it. -/
theorem handleOne_toolsCall (schemas : ToolSchemas) (headers : HeaderMap)
    (members : List (String × Value)) (id : Value) (tool : Tool) (arguments : Value)
    (h : ToolsCall (.object members) id tool arguments) :
    handleOne json schemas maxAttachmentBytes headers (.object members) =
      invoke (.resolveCredential headers) >>= fun resolved =>
        answerResolved json maxAttachmentBytes id tool arguments resolved >>= fun r =>
          pure (some r) := by
  obtain ⟨hmember, hnonnull, request, hread, hversion, hmethod, hnames⟩ := h
  have hid : request.id = some id :=
    (get_id_of_request members request id hread).mpr ⟨hmember, hnonnull⟩
  unfold handleOne
  rw [hread]
  dsimp only
  unfold handleRequest runMethod
  rw [if_neg (not_not.mpr hversion), hmethod, if_neg (by decide), if_neg (by decide),
    if_neg (by decide), if_pos rfl, hid]
  dsimp only
  unfold toolsCall
  rw [bind_assoc]
  congr 1
  funext resolved
  cases resolved with
  | error err => rfl
  | ok credential =>
    have hnamed := callWithCredential_named json maxAttachmentBytes credential id request.params
      tool arguments hnames
    dsimp only [answerResolved]
    rw [hnamed]

end Calls

end Overfwd
