import Overfwd.Auth
import Overfwd.Wire

namespace Overfwd

open Text Outcome Dialogue Serde

def MCP_PROTOCOL_VERSION : String := "2025-06-18"

def SUPPORTED_VERSIONS : List String := ["2025-06-18", "2025-03-26", "2024-11-05"]

def CARGO_PKG_VERSION : String := "0.5.0"

def PARSE_ERROR : ℤ := -32700

def INVALID_REQUEST : ℤ := -32600

def METHOD_NOT_FOUND : ℤ := -32601

def INVALID_PARAMS : ℤ := -32602

def DEFAULT_BODY_LIMIT : ℕ := 2 * 1024 * 1024

/-- What is used of `serde_json`, and the text of its errors. -/
structure SerdeJson where
  fromSlice : List UInt8 → Except String Value
  toText : Value → String
  errorText : Serde.Error → String

/-- The request schemas that the OpenAPI derive generates. -/
structure ToolSchemas where
  search : Value
  get : Value
  send : Value

/-- Why the body could not be read. -/
structure BytesRejection where
  status : ℕ
  bodyText : String
  display : String

structure RpcRequest where
  jsonrpc : String
  id : Option Value
  method : String
  params : Option Value

structure RpcError where
  code : ℤ
  message : String
  data : Option Value

structure RpcResponse where
  jsonrpc : String
  id : Value
  result : Option Value
  error : Option RpcError

structure ToolCallParams where
  name : String
  arguments : Value

def emptyObject : Value := .object []

def RpcRequest.jsonrpcField : StructField String := requiredField "jsonrpc" readString

def RpcRequest.idField : StructField (Option Value) := optionField "id" [] readValue

def RpcRequest.methodField : StructField String := requiredField "method" readString

def RpcRequest.paramsField : StructField (Option Value) := optionField "params" [] readValue

def RpcRequest.fromValue (v : Value) : Except Serde.Error RpcRequest := do
  let source ← readStruct "RpcRequest"
    [jsonrpcField.spec, idField.spec, methodField.spec, paramsField.spec] v
  .ok
    { jsonrpc := ← source.get jsonrpcField
      id := ← source.get idField
      method := ← source.get methodField
      params := ← source.get paramsField }

theorem RpcRequest.fromValue_shape (v : Value) (request : RpcRequest)
    (h : RpcRequest.fromValue v = .ok request) :
    (∃ members, v = .object members) ∨ ∃ items, v = .array items := by
  obtain ⟨source, hsource, -⟩ := (bind_eq_ok_iff _ _ _).mp h
  exact readStruct_shape _ _ v source hsource

/-- The members of a message that is an object. -/
theorem RpcRequest.fromValue_object (members : List (String × Value)) (request : RpcRequest)
    (h : RpcRequest.fromValue (.object members) = .ok request) :
    request.id = (members.lookup "id").bind Value.nonNull ∧
      members.lookup "method" = some (.string request.method) ∧
      request.params = (members.lookup "params").bind Value.nonNull := by
  obtain ⟨source, hsource, h⟩ := (bind_eq_ok_iff _ _ _).mp h
  obtain rfl := readStruct_object _ _ members source hsource
  obtain ⟨jsonrpc, -, h⟩ := (bind_eq_ok_iff _ _ _).mp h
  obtain ⟨id, hid, h⟩ := (bind_eq_ok_iff _ _ _).mp h
  obtain ⟨method, hmethod, h⟩ := (bind_eq_ok_iff _ _ _).mp h
  obtain ⟨params, hparams, h⟩ := (bind_eq_ok_iff _ _ _).mp h
  cases h
  exact ⟨get_optionField_value members "id" id hid,
    get_requiredField_string members "method" method hmethod,
    get_optionField_value members "params" params hparams⟩

def ToolCallParams.nameField : StructField String := requiredField "name" readString

def ToolCallParams.argumentsField : StructField Value := defaultField "arguments" emptyObject readValue

def ToolCallParams.fromValue (v : Value) : Except Serde.Error ToolCallParams := do
  let source ← readStruct "ToolCallParams" [nameField.spec, argumentsField.spec] v
  .ok { name := ← source.get nameField, arguments := ← source.get argumentsField }

theorem ToolCallParams.fromValue_shape (v : Value) (call : ToolCallParams)
    (h : ToolCallParams.fromValue v = .ok call) :
    (∃ members, v = .object members) ∨ ∃ items, v = .array items := by
  obtain ⟨source, hsource, -⟩ := (bind_eq_ok_iff _ _ _).mp h
  exact readStruct_shape _ _ v source hsource

theorem ToolCallParams.fromValue_object (members : List (String × Value)) (call : ToolCallParams)
    (h : ToolCallParams.fromValue (.object members) = .ok call) :
    members.lookup "name" = some (.string call.name) := by
  obtain ⟨source, hsource, h⟩ := (bind_eq_ok_iff _ _ _).mp h
  obtain rfl := readStruct_object _ _ members source hsource
  obtain ⟨name, hname, h⟩ := (bind_eq_ok_iff _ _ _).mp h
  obtain ⟨arguments, -, h⟩ := (bind_eq_ok_iff _ _ _).mp h
  cases h
  exact get_requiredField_string members "name" name hname

/-- `ok_response`. -/
def okResponse (id result : Value) : RpcResponse :=
  { jsonrpc := "2.0", id := id, result := some result, error := none }

/-- `error_response`. -/
def errorResponse (id : Value) (code : ℤ) (message : String) (data : Option Value) : RpcResponse :=
  { jsonrpc := "2.0", id := id, result := none,
    error := some { code := code, message := message, data := data } }

/-- What a message may set off: the credential is resolved from the headers, and the
business core of a tool is run. -/
inductive McpOp
  | resolveCredential (headers : HeaderMap)
  | search (credential : MailboxCredential) (request : SearchRequest)
  | get (credential : MailboxCredential) (request : GetRequest)
  | send (credential : MailboxCredential) (request : SendRequest) (limits : AttachmentLimits)

@[reducible] def McpOp.Answer : McpOp → Type
  | .resolveCredential _ => Except GatewayError MailboxCredential
  | .search _ _ => Except GatewayError SearchResponse
  | .get _ _ => Except GatewayError FullMessage
  | .send _ _ _ => Except GatewayError SendResponse

abbrev McpProg := Prog McpOp McpOp.Answer

abbrev invoke (op : McpOp) : McpProg op.Answer := call op

/-- `is_json_content_type`. -/
def isJsonContentType (headers : HeaderMap) : Bool :=
  match (headers.entries.lookup "content-type").bind headerToStr with
  | none => false
  | some value =>
    let essence := toAsciiLowercase (trim ((split ';' value).headD ""))
    essence == "application/json" ||
      (startsWith "application/" essence && endsWith "+json" essence)

def isSendCall (item : Value) : Bool :=
  (item.get? "method").bind Value.asStr == some "tools/call" &&
    (item.pointer ["params", "name"]).bind Value.asStr == some "email_send"

/-- `is_send_only`. -/
def isSendOnly : Value → Bool
  | .array items => !items.isEmpty && items.all isSendCall
  | item => isSendCall item

/-- `initialize_result`. -/
def initializeResult (params : Option Value) : Value :=
  let requested := (params.bind (Value.get? "protocolVersion")).bind Value.asStr
  let protocol := match requested with
    | some v => if SUPPORTED_VERSIONS.contains v then v else MCP_PROTOCOL_VERSION
    | none => MCP_PROTOCOL_VERSION
  .object [("capabilities", .object [("tools", .object [("listChanged", .bool false)])]),
    ("protocolVersion", .string protocol),
    ("serverInfo", .object [("name", .string "overfwd"), ("version", .string CARGO_PKG_VERSION)])]

def EMAIL_SEARCH_DESCRIPTION : String :=
  "Search a mailbox folder via IMAP. Filter with the structured params — `from`, " ++
    "`subject`, `text` (headers and body), `since` (\"2025-07-01\") — which are ANDed " ++
    "together and quoted for you: \x7b\"from\": \"John Smith\"\x7d works as written. For " ++
    "anything they don't cover, `query` takes a raw IMAP SEARCH key instead (e.g. " ++
    "\"UNSEEN\", \"OR SEEN FLAGGED\"); it cannot be combined with them. With no filter, " ++
    "searches everything. Returns \x7b\"results\": [...newest-first summaries...], " ++
    "\"total\": <matches before the limit>, \"truncated\": <bool>\x7d. `limit` defaults to " ++
    "10 and is capped at 50, so a large mailbox is always cut: when `truncated` is true, " ++
    "`results` is only the newest slice of `total` matches — narrow the search or page by " ++
    "UID rather than assuming you have seen everything."

def EMAIL_GET_DESCRIPTION : String :=
  "Fetch one message by its mailbox-unique `uid` (from a prior email_search): headers " ++
    "plus decoded text/html body."

def EMAIL_SEND_DESCRIPTION : String :=
  "Build a message and submit it over the caller's SMTP mailbox. Files go in " ++
    "`attachments` as [\x7b\"filename\", \"content_type\", \"content_base64\"\x7d] — at " ++
    "most 20, 10 MiB decoded in total by default. Returns the To/From/Subject, a clamped " ++
    "body preview, and each attachment's filename and size."

def toolEntry (name description : String) (inputSchema : Value) (readOnly : Bool) : Value :=
  .object [("annotations", .object [("readOnlyHint", .bool readOnly)]),
    ("description", .string description), ("inputSchema", inputSchema), ("name", .string name)]

/-- `tools_list`. -/
def toolsList (schemas : ToolSchemas) : Value :=
  .object [("tools", .array
    [toolEntry "email_search" EMAIL_SEARCH_DESCRIPTION schemas.search true,
      toolEntry "email_get" EMAIL_GET_DESCRIPTION schemas.get true,
      toolEntry "email_send" EMAIL_SEND_DESCRIPTION schemas.send false])]

/-- `gateway_protocol_error`. -/
def gatewayProtocolError (id : Value) (err : GatewayError) : RpcResponse :=
  errorResponse id INVALID_PARAMS err.message (some (.object [("code", .string err.code)]))

/-- A `CallToolResult` with one text. -/
def callToolResult (text : String) (isError : Bool) : Value :=
  .object [("content", .array [.object [("text", .string text), ("type", .string "text")]]),
    ("isError", .bool isError)]

section Endpoint

variable (json : SerdeJson) (schemas : ToolSchemas) (maxAttachmentBytes : ℕ)

def toolSuccess (payload : Value) : Value := callToolResult (json.toText payload) false

def toolError (err : GatewayError) : Value :=
  callToolResult
    (json.toText (.object [("code", .string err.code), ("message", .string err.message)])) true

/-- `tool_response`. -/
def toolResponse {α : Type} (id : Value) (toValue : α → Value) :
    Except GatewayError α → RpcResponse
  | .ok value => okResponse id (toolSuccess json (toValue value))
  | .error err => okResponse id (toolError json err)

/-- `parse_arguments`. -/
def parseArguments {α : Type} (tool : String) (fromValue : Value → Except Serde.Error α)
    (arguments : Value) : Except String α :=
  (fromValue arguments).mapError fun err =>
    "invalid arguments for " ++ tool ++ ": " ++ json.errorText err

/-- One tool: its arguments are read, its action is run and the outcome wrapped. -/
def runTool {α β : Type} (fromValue : Value → Except Serde.Error α)
    (action : α → McpProg (Except GatewayError β)) (toValue : β → Value)
    (call : ToolCallParams) (id : Value) : McpProg RpcResponse :=
  match parseArguments json call.name fromValue call.arguments with
  | .ok request => do
    let outcome ← action request
    pure (toolResponse json id toValue outcome)
  | .error resp => pure (errorResponse id INVALID_PARAMS resp none)

/-- The dispatch of `tools_call` by the tool's name. -/
def dispatchTool (credential : MailboxCredential) (call : ToolCallParams) (id : Value) :
    McpProg RpcResponse :=
  if call.name = "email_search" then
    runTool json SearchRequest.fromValue (fun request => invoke (.search credential request))
      SearchResponse.toValue call id
  else if call.name = "email_get" then
    runTool json GetRequest.fromValue (fun request => invoke (.get credential request))
      FullMessage.toValue call id
  else if call.name = "email_send" then
    runTool json SendRequest.fromValue
      (fun request => invoke (.send credential request (.withMaxTotalBytes maxAttachmentBytes)))
      SendResponse.toValue call id
  else pure (errorResponse id INVALID_PARAMS ("unknown tool: " ++ call.name) none)

/-- The part of `tools_call` past the credential. -/
def callWithCredential (credential : MailboxCredential) (params : Option Value) (id : Value) :
    McpProg RpcResponse :=
  match params with
  | none => pure (errorResponse id INVALID_PARAMS "missing params for tools/call" none)
  | some params =>
    match ToolCallParams.fromValue params with
    | .error err =>
      pure (errorResponse id INVALID_PARAMS ("invalid params: " ++ json.errorText err) none)
    | .ok call => dispatchTool json maxAttachmentBytes credential call id

/-- `tools_call`. -/
def toolsCall (headers : HeaderMap) (params : Option Value) (id : Value) : McpProg RpcResponse := do
  -- The mailbox headers are read before the params.
  match ← invoke (.resolveCredential headers) with
  | .error err => pure (gatewayProtocolError id err)
  | .ok credential => callWithCredential json maxAttachmentBytes credential params id

/-- The methods of `handle_one`. -/
def runMethod (headers : HeaderMap) (request : RpcRequest) : McpProg (Option RpcResponse) :=
  if request.method = "initialize" then
    pure (request.id.map fun id => okResponse id (initializeResult request.params))
  else if request.method = "ping" then pure (request.id.map fun id => okResponse id emptyObject)
  else if request.method = "tools/list" then
    pure (request.id.map fun id => okResponse id (toolsList schemas))
  else if request.method = "tools/call" then
    match request.id with
    -- A call must be answerable; without an id its tool is not run.
    | some id => do
      let response ← toolsCall json maxAttachmentBytes headers request.params id
      pure (some response)
    | none => pure none
  -- Even with an id.
  else if startsWith "notifications/" request.method then pure none
  else pure (request.id.map fun id =>
    errorResponse id METHOD_NOT_FOUND ("method not found: " ++ request.method) none)

/-- `handle_one` for a message that can be read. -/
def handleRequest (headers : HeaderMap) (request : RpcRequest) : McpProg (Option RpcResponse) :=
  if request.jsonrpc ≠ "2.0" then
    pure (request.id.map fun id => errorResponse id INVALID_REQUEST "jsonrpc must be \"2.0\"" none)
  else runMethod json schemas maxAttachmentBytes headers request

/-- `handle_one`. -/
def handleOne (headers : HeaderMap) (value : Value) : McpProg (Option RpcResponse) :=
  match RpcRequest.fromValue value with
  | .error err =>
    -- The id of a message that cannot be read is looked up by name.
    pure ((value.get? "id").map fun id =>
      errorResponse id INVALID_REQUEST ("invalid request: " ++ json.errorText err) none)
  | .ok request => handleRequest json schemas maxAttachmentBytes headers request

/-- The HTTP response: one JSON-RPC response under a status, several, or `202` without a body. -/
inductive McpReply
  | single (status : ℕ) (response : RpcResponse)
  | batch (responses : List RpcResponse)
  | accepted

def McpReply.status : McpReply → ℕ
  | .single status _ => status
  | .batch _ => 200
  | .accepted => 202

/-- `parse_error`. -/
def parseError (message : String) : McpReply :=
  .single 200 (errorResponse .null PARSE_ERROR message none)

/-- `too_large`. -/
def tooLarge (message : String) : McpReply :=
  .single 413 (errorResponse .null INVALID_REQUEST message none)

/-- The loop over a batch: one message after the other. -/
def handleBatch (headers : HeaderMap) : List Value → McpProg (List RpcResponse)
  | [] => pure []
  | item :: items => do
    let response ← handleOne json schemas maxAttachmentBytes headers item
    let responses ← handleBatch headers items
    pure (response.toList ++ responses)

def batchReply (responses : List RpcResponse) : McpReply :=
  if responses.isEmpty then .accepted else .batch responses

def singleReply : Option RpcResponse → McpReply
  | some response => .single 200 response
  | none => .accepted

/-- `mcp_endpoint` once the payload is admitted. -/
def handlePayload (headers : HeaderMap) : Value → McpProg McpReply
  | .array items =>
    if items.isEmpty then
      pure (.single 200 (errorResponse .null INVALID_REQUEST "invalid request: empty batch" none))
    else do
      let responses ← handleBatch json schemas maxAttachmentBytes headers items
      pure (batchReply responses)
  | .object members => do
    let response ← handleOne json schemas maxAttachmentBytes headers (.object members)
    pure (singleReply response)
  | _ => pure (.single 200 (errorResponse .null INVALID_REQUEST
      "invalid request: expected a JSON-RPC object or batch array" none))

/-- Over the ordinary limit, and not nothing but sends. -/
def overLimit (bytes : List UInt8) (value : Value) : Bool :=
  DEFAULT_BODY_LIMIT < bytes.length && !isSendOnly value

def overLimitMessage : String :=
  "request body too large: only `email_send` calls may exceed " ++ toString DEFAULT_BODY_LIMIT ++
    " bytes"

/-- `mcp_endpoint`. -/
def mcpEndpoint (headers : HeaderMap) (body : Except BytesRejection (List UInt8)) :
    McpProg McpReply :=
  match body with
  | .error err =>
    if err.status = 413 then pure (tooLarge ("request body too large: " ++ err.bodyText))
    else pure (parseError ("parse error: " ++ err.display))
  | .ok bytes =>
    if !isJsonContentType headers then pure (parseError
      "parse error: expected a request with `Content-Type: application/json`")
    else
      match json.fromSlice bytes with
      | .error err => pure (parseError ("parse error: " ++ err))
      | .ok value =>
        -- Only now is it known which tools the body calls.
        if overLimit bytes value then pure (tooLarge overLimitMessage)
        else handlePayload json schemas maxAttachmentBytes headers value

/-- A JSON body that can be read is refused for its size or handled. -/
theorem mcpEndpoint_parsed (headers : HeaderMap) (bytes : List UInt8) (value : Value)
    (hheaders : isJsonContentType headers = true) (hparse : json.fromSlice bytes = .ok value) :
    mcpEndpoint json schemas maxAttachmentBytes headers (.ok bytes) =
      if overLimit bytes value then pure (tooLarge overLimitMessage)
      else handlePayload json schemas maxAttachmentBytes headers value := by
  unfold mcpEndpoint
  dsimp only
  rw [hheaders, hparse, if_neg (by decide)]

theorem handlePayload_array (headers : HeaderMap) (items : List Value) (h : items ≠ []) :
    handlePayload json schemas maxAttachmentBytes headers (.array items) =
      handleBatch json schemas maxAttachmentBytes headers items >>= fun responses =>
        pure (batchReply responses) := by
  unfold handlePayload
  dsimp only
  rw [if_neg (by simpa using h)]

end Endpoint

end Overfwd
