import Overfwd.McpToolCalls
import Overfwd.Routes

namespace Overfwd

open Text Outcome Dialogue Serde

/-- Both surfaces tell the outcome: a success is the REST body and the text of the tool's
result, a failure is the REST error body and the text of a result that is an error. -/
def ReportsAlike (json : SerdeJson) (id : Value) (rest : RestReply) (mcp : McpReply) :
    Except GatewayError Value → Prop
  | .ok payload =>
    rest.status = 200 ∧ rest.body = payload ∧
      mcp = .single 200 (okResponse id (callToolResult (json.toText rest.body) false))
  | .error err =>
    rest.status = err.status ∧
      rest.body = .object [("code", .string err.code), ("message", .string err.message)] ∧
      mcp = .single 200 (okResponse id (callToolResult (json.toText rest.body) true))

section Endpoint

variable (json : SerdeJson) (schemas : ToolSchemas) (maxAttachmentBytes : ℕ)
  (headers : HeaderMap) (bytes : List UInt8) (members : List (String × Value)) (id : Value)
  (tool : Tool) (arguments : Value)

/-- A payload that is one tool call. -/
theorem mcpEndpoint_toolsCall (hheaders : isJsonContentType headers = true)
    (hparse : json.fromSlice bytes = .ok (.object members))
    (hsize : overLimit bytes (.object members) = false)
    (hcall : ToolsCall (.object members) id tool arguments) :
    mcpEndpoint json schemas maxAttachmentBytes headers (.ok bytes) =
      invoke (.resolveCredential headers) >>= fun resolved =>
        answerResolved json maxAttachmentBytes id tool arguments resolved >>= fun r =>
          pure (.single 200 r) := by
  rw [mcpEndpoint_parsed json schemas maxAttachmentBytes headers bytes _ hheaders hparse,
    if_neg (by simp [hsize])]
  unfold handlePayload
  dsimp only
  rw [handleOne_toolsCall json maxAttachmentBytes schemas headers members id tool arguments hcall]
  simp only [bind_assoc, pure_bind]
  rfl

variable (answer : ∀ q : McpOp, q.Answer)

theorem answerTool_runs (credential : MailboxCredential) (action : Action)
    (hread : tool.read arguments = .ok action) :
    (answerTool json maxAttachmentBytes credential id tool arguments).asked answer =
        [action.op maxAttachmentBytes credential] ∧
      (answerTool json maxAttachmentBytes credential id tool arguments).run answer =
        okResponse id (toolReport json (action.outcome maxAttachmentBytes credential
          (answer (action.op maxAttachmentBytes credential)))) := by
  unfold answerTool
  rw [hread]
  exact ⟨rfl, rfl⟩

/-- Without a credential, or without arguments that fit, no question is asked. -/
theorem answerResolved_passive
    (h : (∀ credential, answer (.resolveCredential headers) ≠ .ok credential) ∨
      ∀ action, tool.read arguments ≠ .ok action) :
    (answerResolved json maxAttachmentBytes id tool arguments
      (answer (.resolveCredential headers))).asked answer = [] := by
  cases hresolve : answer (.resolveCredential headers) with
  | error err => rfl
  | ok credential =>
    rcases h with h | h
    · exact absurd hresolve (h credential)
    · obtain ⟨message, heq⟩ :=
        answerTool_refused json maxAttachmentBytes credential id tool arguments h
      dsimp only [answerResolved]
      rw [heq]
      rfl

end Endpoint

section Samples

def uidSevenArguments : Value := .object [("uid", natValue 7)]

def getCallMembers : List (String × Value) :=
  [("id", sampleId), ("jsonrpc", .string "2.0"), ("method", .string "tools/call"),
    ("params", .object [("arguments", uidSevenArguments), ("name", .string "email_get")])]

def oneCallText : List UInt8 := asciiBytes
  ("\x7b\"id\":1,\"jsonrpc\":\"2.0\",\"method\":\"tools/call\",\"params\":" ++
    "\x7b\"arguments\":\x7b\"uid\":7\x7d,\"name\":\"email_get\"\x7d\x7d")

def misfit (_ : Serde.Error) : JsonRejection where
  status := 422
  bodyText := "Failed to deserialize the JSON body into the target type"
  display := "Failed to deserialize the JSON body into the target type"

/-- One credential and an empty mailbox. -/
def emptyMailbox : (q : McpOp) → q.Answer
  | .resolveCredential _ => .ok sampleCredential
  | .search _ _ => .ok { results := [], total := 0, truncated := false }
  | .get _ _ => .error noSuchUid
  | .send _ _ _ => .error (.hostUnreachable "connection refused")

theorem getCall_toolsCall :
    ToolsCall (.object getCallMembers) sampleId .get uidSevenArguments where
  id_member := rfl
  id_nonnull := rfl
  reads := ⟨_, rfl, rfl, rfl, _, _, rfl, rfl, rfl, rfl⟩

end Samples

end Overfwd
