import Overfwd.App
import Overfwd.Lib.Pieces
import Overfwd.McpToolCalls

namespace Overfwd

open Text Outcome Dialogue Serde

abbrev NetHistory (Address : Type) := List (Exchange (NetOp Address) NetOp.Answer)

/-- The tool that an action is of. -/
def Action.tool : Action → Tool
  | .search _ => .search
  | .get _ => .get
  | .send _ => .send

theorem tool_of_read (tool : Tool) (arguments : Value) (action : Action)
    (h : tool.read arguments = .ok action) : action.tool = tool := by
  cases tool with
  | _ =>
    obtain ⟨request, -, rfl⟩ := (map_eq_ok_iff _ _ _).mp h
    rfl

section Visit

variable (maxAttachmentBytes : ℕ) (headers : HeaderMap) (asks : Action → Prop)

/-- The credential of the headers is asked for, and an action may follow with it. -/
inductive Visit : McpHistory → Prop
  | failed (e : GatewayError) : Visit [⟨.resolveCredential headers, .error e⟩]
  | idle (cred : MailboxCredential) : Visit [⟨.resolveCredential headers, .ok cred⟩]
  | acted (cred : MailboxCredential) (action : Action) (hasks : asks action)
      (x : (action.op maxAttachmentBytes cred).Answer) :
      Visit [⟨.resolveCredential headers, .ok cred⟩, ⟨action.op maxAttachmentBytes cred, x⟩]

variable {maxAttachmentBytes headers asks}

theorem visit_mono {asks' : Action → Prop} (h : McpHistory)
    (hvisit : Visit maxAttachmentBytes headers asks h)
    (himp : ∀ action, asks action → asks' action) : Visit maxAttachmentBytes headers asks' h := by
  cases hvisit with
  | failed e => exact .failed e
  | idle cred => exact .idle cred
  | acted cred action hasks x => exact .acted cred action (himp action hasks) x

end Visit

section Rest

variable (headers : HeaderMap) {α β : Type} (body : Except GatewayError α)
  (act : MailboxCredential → α → RestProg β) {h : McpHistory} {r : Except GatewayError β}

theorem plays_resolveCredential (x : Except GatewayError MailboxCredential) :
    Plays (ExceptT.run (Routes.resolveCredential headers)) h x ↔
      h = [⟨.resolveCredential headers, x⟩] := plays_call _ _

/-- The credential fails, the body fails after it, or the action runs. -/
theorem plays_credential_first
    (hplays : Plays (ExceptT.run (do
      let credential ← Routes.resolveCredential headers
      let request ← (liftM body : RestProg α)
      act credential request)) h r) :
    (∃ e, h = [⟨.resolveCredential headers, .error e⟩] ∧ r = .error e) ∨
    (∃ cred e, body = .error e ∧ h = [⟨.resolveCredential headers, .ok cred⟩] ∧ r = .error e) ∨
    ∃ cred request h', body = .ok request ∧
      h = ⟨.resolveCredential headers, .ok cred⟩ :: h' ∧ Plays (act cred request).run h' r := by
  rcases (plays_fallible_bind _ _ _).mp hplays with ⟨e, he, hr⟩ | ⟨h₁, cred, h₂, hcred, hrest, rfl⟩
  · exact .inl ⟨e, (plays_resolveCredential headers _).mp he, hr⟩
  · obtain rfl := (plays_resolveCredential headers _).mp hcred
    right
    rcases (plays_except_bind _ _ _).mp hrest with ⟨e, hbody, rfl, hr⟩ | ⟨request, hbody, hact⟩
    · exact .inl ⟨cred, e, hbody, rfl, hr⟩
    · exact .inr ⟨cred, request, h₂, hbody, rfl, hact⟩

/-- The body fails before anything is asked, the credential fails, or the action runs. -/
theorem plays_body_first
    (hplays : Plays (ExceptT.run (do
      let request ← (liftM body : RestProg α)
      let credential ← Routes.resolveCredential headers
      act credential request)) h r) :
    (∃ e, body = .error e ∧ h = [] ∧ r = .error e) ∨
    (∃ e, h = [⟨.resolveCredential headers, .error e⟩] ∧ r = .error e) ∨
    ∃ cred request h', body = .ok request ∧
      h = ⟨.resolveCredential headers, .ok cred⟩ :: h' ∧ Plays (act cred request).run h' r := by
  rcases (plays_except_bind _ _ _).mp hplays with ⟨e, hbody, rfl, hr⟩ | ⟨request, hbody, hrest⟩
  · exact .inl ⟨e, hbody, rfl, hr⟩
  · right
    rcases (plays_fallible_bind _ _ _).mp hrest with ⟨e, he, hr⟩ | ⟨h₁, cred, h₂, hcred, hact, rfl⟩
    · exact .inl ⟨e, (plays_resolveCredential headers _).mp he, hr⟩
    · obtain rfl := (plays_resolveCredential headers _).mp hcred
      exact .inr ⟨cred, request, h₂, hbody, rfl, hact⟩

variable (maxAttachmentBytes : ℕ)

/-- An action after its credential is a visit. -/
theorem visit_of_invoke (cred : MailboxCredential) (action : Action)
    (x : (action.op maxAttachmentBytes cred).Answer)
    (hplays : Plays (invoke (action.op maxAttachmentBytes cred)) h x) :
    Visit maxAttachmentBytes headers (· = action)
      (⟨.resolveCredential headers, .ok cred⟩ :: h) := by
  rw [(plays_call _ _).mp hplays]
  refine .acted cred action ?_ x
  rfl

/-- A REST request is one visit, or none. -/
theorem rest_visits {α : Type} (toValue : α → Value) (p : RestProg α) (reply : GatewayReply)
    (asks : Action → Prop)
    (hp : ∀ r, Plays p.run h r → h = [] ∨ Visit maxAttachmentBytes headers asks h)
    (hplays : Plays ((fun result => GatewayReply.rest (Routes.respond toValue result)) <$> p.run) h
      reply) : Pieces (Visit maxAttachmentBytes headers asks) 1 h := by
  obtain ⟨r, hrun, -⟩ := (plays_map _ _ _).mp hplays
  rcases hp r hrun with rfl | hvisit
  · exact pieces_nil 1
  · exact pieces_one hvisit

end Rest

section Messages

variable (json : SerdeJson) (schemas : ToolSchemas) (maxAttachmentBytes : ℕ) (headers : HeaderMap)
  {h : McpHistory}

/-- A message that calls the tool and can be answered. -/
def CallsTool (item : Value) (tool : Tool) : Prop :=
  ∃ request id arguments, RpcRequest.fromValue item = .ok request ∧ request.jsonrpc = "2.0" ∧
    request.method = "tools/call" ∧ request.id = some id ∧ NamesTool request.params tool arguments

/-- A call that can be answered, with its id and its parameters. -/
def IsCall (item id : Value) (params : Option Value) : Prop :=
  ∃ request, RpcRequest.fromValue item = .ok request ∧ request.jsonrpc = "2.0" ∧
    request.method = "tools/call" ∧ request.id = some id ∧ request.params = params

/-- A call that can be answered, of the action that its parameters name and spell out. -/
def CallsFor (item id : Value) (action : Action) : Prop :=
  ∃ params arguments, IsCall item id params ∧ NamesTool params action.tool arguments ∧
    action.tool.read arguments = .ok action

/-- With a credential, a call is refused for its parameters or reports on one action with it. -/
theorem callWithCredential_plays (cred : MailboxCredential) (params : Option Value) (id : Value)
    (response : RpcResponse)
    (hplays : Plays (callWithCredential json maxAttachmentBytes cred params id) h response) :
    (∃ message, h = [] ∧ response = errorResponse id INVALID_PARAMS message none) ∨
      ∃ action arguments x, NamesTool params action.tool arguments ∧
        action.tool.read arguments = .ok action ∧
        h = [⟨Action.op maxAttachmentBytes cred action, x⟩] ∧
        response = okResponse id (toolReport json (action.outcome maxAttachmentBytes cred x)) := by
  by_cases hnamed : ∃ tool arguments, NamesTool params tool arguments
  · obtain ⟨tool, arguments, hnames⟩ := hnamed
    rw [callWithCredential_named json maxAttachmentBytes cred id params tool arguments hnames,
      answerTool] at hplays
    cases hread : tool.read arguments with
    | error err =>
      rw [hread] at hplays
      exact .inl ⟨_, (plays_pure _ _).mp hplays⟩
    | ok action =>
      rw [hread] at hplays
      obtain ⟨h₁, outcome, h₂, hperform, hend, rfl⟩ := (plays_bind _ _ _).mp hplays
      obtain ⟨h₃, x, h₄, hcall, hpure, rfl⟩ := (plays_bind _ _ _).mp hperform
      obtain rfl := (plays_call _ _).mp hcall
      obtain ⟨rfl, rfl⟩ := (plays_pure _ _).mp hpure
      obtain ⟨rfl, rfl⟩ := (plays_pure _ _).mp hend
      obtain rfl := tool_of_read tool arguments action hread
      exact .inr ⟨action, arguments, x, hnames, hread, by simp, rfl⟩
  · push Not at hnamed
    obtain ⟨message, hcall⟩ :=
      callWithCredential_unnamed json maxAttachmentBytes cred id params hnamed
    rw [hcall] at hplays
    exact .inl ⟨message, (plays_pure _ _).mp hplays⟩

/-- A call fails for its credential, is refused with it, or reports on one action with it. -/
theorem toolsCall_plays (params : Option Value) (id : Value) (response : RpcResponse)
    (hplays : Plays (toolsCall json maxAttachmentBytes headers params id) h response) :
    (∃ e, h = [⟨.resolveCredential headers, .error e⟩] ∧ response = gatewayProtocolError id e) ∨
    (∃ cred message, h = [⟨.resolveCredential headers, .ok cred⟩] ∧
      response = errorResponse id INVALID_PARAMS message none) ∨
    ∃ cred action arguments x, NamesTool params action.tool arguments ∧
      action.tool.read arguments = .ok action ∧
      h = [⟨.resolveCredential headers, .ok cred⟩,
        ⟨Action.op maxAttachmentBytes cred action, x⟩] ∧
      response = okResponse id (toolReport json (action.outcome maxAttachmentBytes cred x)) := by
  unfold toolsCall at hplays
  obtain ⟨h₁, resolved, h₂, hresolve, hrest, rfl⟩ := (plays_bind _ _ _).mp hplays
  obtain rfl := (plays_call _ _).mp hresolve
  cases resolved with
  | error e =>
    obtain ⟨rfl, rfl⟩ := (plays_pure _ _).mp hrest
    exact .inl ⟨e, rfl, rfl⟩
  | ok cred =>
    right
    rcases callWithCredential_plays json maxAttachmentBytes cred params id response hrest with
      ⟨message, rfl, rfl⟩ | ⟨action, arguments, x, hnames, hread, rfl, rfl⟩
    · exact .inl ⟨cred, message, rfl, rfl⟩
    · exact .inr ⟨cred, action, arguments, x, hnames, hread, rfl, rfl⟩

theorem toolsCall_visit (params : Option Value) (id : Value) (response : RpcResponse)
    (hplays : Plays (toolsCall json maxAttachmentBytes headers params id) h response) :
    Visit maxAttachmentBytes headers (fun action => ∃ arguments,
      NamesTool params action.tool arguments ∧ action.tool.read arguments = .ok action) h := by
  rcases toolsCall_plays json maxAttachmentBytes headers params id response hplays with
    ⟨e, rfl, -⟩ | ⟨cred, message, rfl, -⟩ | ⟨cred, action, arguments, x, hnames, hread, rfl, -⟩
  · exact .failed e
  · exact .idle cred
  · exact .acted cred action ⟨arguments, hnames, hread⟩ x

/-- Of the methods only a call with an id asks for anything. -/
theorem runMethod_plays (request : RpcRequest) (response : Option RpcResponse)
    (hplays : Plays (runMethod json schemas maxAttachmentBytes headers request) h response) :
    h = [] ∨ ∃ id r, request.method = "tools/call" ∧ request.id = some id ∧ response = some r ∧
      Plays (toolsCall json maxAttachmentBytes headers request.params id) h r := by
  unfold runMethod at hplays
  split_ifs at hplays with _ _ _ hmethod
  · exact .inl ((plays_pure _ _).mp hplays).1
  · exact .inl ((plays_pure _ _).mp hplays).1
  · exact .inl ((plays_pure _ _).mp hplays).1
  · cases hid : request.id with
    | none =>
      rw [hid] at hplays
      exact .inl ((plays_pure _ _).mp hplays).1
    | some id =>
      rw [hid] at hplays
      obtain ⟨h₁, r, h₂, hcall, hend, rfl⟩ := (plays_bind _ _ _).mp hplays
      obtain ⟨rfl, rfl⟩ := (plays_pure _ _).mp hend
      rw [List.append_nil]
      exact .inr ⟨id, r, hmethod, rfl, rfl, hcall⟩
  · exact .inl ((plays_pure _ _).mp hplays).1
  · exact .inl ((plays_pure _ _).mp hplays).1

/-- A message that asks for anything is a call, and is answered as one. -/
theorem handleOne_plays (value : Value) (response : Option RpcResponse)
    (hplays : Plays (handleOne json schemas maxAttachmentBytes headers value) h response) :
    h = [] ∨ ∃ id params r, IsCall value id params ∧ response = some r ∧
      Plays (toolsCall json maxAttachmentBytes headers params id) h r := by
  unfold handleOne at hplays
  cases hread : RpcRequest.fromValue value with
  | error err =>
    rw [hread] at hplays
    exact .inl ((plays_pure _ _).mp hplays).1
  | ok request =>
    rw [hread] at hplays
    dsimp only at hplays
    unfold handleRequest at hplays
    split_ifs at hplays with hversion
    · exact .inl ((plays_pure _ _).mp hplays).1
    · refine (runMethod_plays json schemas maxAttachmentBytes headers request response
        hplays).imp_right ?_
      rintro ⟨id, r, hmethod, hid, hresponse, hcall⟩
      exact ⟨id, request.params, r, ⟨request, hread, not_not.mp hversion, hmethod, hid, rfl⟩,
        hresponse, hcall⟩

theorem handleOne_of_isCall (item id : Value) (params : Option Value)
    (hcall : IsCall item id params) :
    handleOne json schemas maxAttachmentBytes headers item =
      toolsCall json maxAttachmentBytes headers params id >>= fun r => pure (some r) := by
  obtain ⟨request, hread, hversion, hmethod, hid, rfl⟩ := hcall
  unfold handleOne
  rw [hread]
  dsimp only
  unfold handleRequest
  rw [if_neg (not_not.mpr hversion)]
  unfold runMethod
  rw [if_neg (by rw [hmethod]; decide), if_neg (by rw [hmethod]; decide),
    if_neg (by rw [hmethod]; decide), if_pos hmethod, hid]

/-- A call of an action fails for its credential or reports on the action. -/
theorem callsFor_plays (item id : Value) (action : Action) (hcalls : CallsFor item id action)
    (response : Option RpcResponse)
    (hplays : Plays (handleOne json schemas maxAttachmentBytes headers item) h response) :
    (∃ e, h = [⟨.resolveCredential headers, .error e⟩] ∧
        response = some (gatewayProtocolError id e)) ∨
      ∃ cred x, h = [⟨.resolveCredential headers, .ok cred⟩,
          ⟨Action.op maxAttachmentBytes cred action, x⟩] ∧
        response = some (okResponse id
          (toolReport json (action.outcome maxAttachmentBytes cred x))) := by
  obtain ⟨params, arguments, hcall, hnames, hread⟩ := hcalls
  have hcalled : toolsCall json maxAttachmentBytes headers params id =
      invoke (.resolveCredential headers) >>= answerCall json maxAttachmentBytes id action := by
    unfold toolsCall
    congr 1
    funext resolved
    cases resolved with
    | error e => rfl
    | ok cred =>
      dsimp only
      rw [callWithCredential_named json maxAttachmentBytes cred id params _ arguments hnames]
      unfold answerTool answerCall
      rw [hread]
  rw [handleOne_of_isCall json schemas maxAttachmentBytes headers item id params hcall, hcalled]
    at hplays
  obtain ⟨h₁, r, h₂, hanswer, hpure, rfl⟩ := (plays_bind _ _ _).mp hplays
  obtain ⟨rfl, rfl⟩ := (plays_pure _ _).mp hpure
  rw [List.append_nil]
  rcases answerCall_cases json maxAttachmentBytes headers id action h₁ r hanswer with
    ⟨e, rfl, rfl⟩ | ⟨cred, x, rfl, rfl⟩
  · exact .inl ⟨e, rfl, rfl⟩
  · exact .inr ⟨cred, x, rfl, rfl⟩

/-- A message that calls no action runs none. -/
theorem passive_plays (item : Value) (hnone : ∀ id action, ¬CallsFor item id action)
    (response : Option RpcResponse)
    (hplays : Plays (handleOne json schemas maxAttachmentBytes headers item) h response) :
    ∀ e ∈ h, e.1.isAction = false := by
  intro e he
  rcases handleOne_plays json schemas maxAttachmentBytes headers item response hplays with
    rfl | ⟨id, params, r, hcall, -, hcalled⟩
  · cases he
  · rcases toolsCall_plays json maxAttachmentBytes headers params id r hcalled with
      ⟨_, rfl, -⟩ | ⟨cred, message, rfl, -⟩ | ⟨cred, action, arguments, x, hnames, hread, -, -⟩
    · obtain rfl := List.mem_singleton.mp he
      rfl
    · obtain rfl := List.mem_singleton.mp he
      rfl
    · exact absurd ⟨params, arguments, hcall, hnames, hread⟩ (hnone id action)

/-- A message is one visit, or none. -/
theorem handleOne_visit (value : Value) (response : Option RpcResponse)
    (hplays : Plays (handleOne json schemas maxAttachmentBytes headers value) h response) :
    Pieces (Visit maxAttachmentBytes headers fun action => ∃ id, CallsFor value id action) 1 h := by
  rcases handleOne_plays json schemas maxAttachmentBytes headers value response hplays with
    rfl | ⟨id, params, r, hcalls, -, hcall⟩
  · exact pieces_nil 1
  · apply pieces_one
    apply visit_mono _ (toolsCall_visit json maxAttachmentBytes headers _ id r hcall)
    rintro action ⟨arguments, hnames, hread⟩
    exact ⟨id, params, arguments, hcalls, hnames, hread⟩

theorem handleBatch_visits (items : List Value) (responses : List RpcResponse)
    (hplays : Plays (handleBatch json schemas maxAttachmentBytes headers items) h responses) :
    Pieces (Visit maxAttachmentBytes headers fun action => ∃ item ∈ items, ∃ id,
      CallsFor item id action) items.length h := by
  induction items generalizing h responses with
  | nil =>
    obtain ⟨rfl, -⟩ := (plays_pure _ _).mp hplays
    exact pieces_nil 0
  | cons item items ih =>
    obtain ⟨h₁, response, h', hone, hrest, rfl⟩ := (plays_bind _ _ _).mp hplays
    obtain ⟨h₂, rest, h₃, hbatch, hend, rfl⟩ := (plays_bind _ _ _).mp hrest
    obtain ⟨rfl, -⟩ := (plays_pure _ _).mp hend
    rw [List.append_nil, List.length_cons, Nat.add_comm]
    apply pieces_append
    · refine pieces_mono (handleOne_visit json schemas maxAttachmentBytes headers item response hone)
        (fun p hp => visit_mono p hp ?_) le_rfl
      exact fun action hcalls => ⟨item, by simp, hcalls⟩
    · refine pieces_mono (ih rest hbatch) (fun p hp => visit_mono p hp ?_) le_rfl
      rintro action ⟨item', hmem, hcalls⟩
      exact ⟨item', by simp [hmem], hcalls⟩

/-- The messages of a body: none in one that cannot be read. -/
def bodyMessages : Except BytesRejection (List UInt8) → List Value
  | .ok bytes => ((json.fromSlice bytes).toOption.map payloadMessages).getD []
  | .error _ => []

/-- How many messages a request brings. -/
def GatedRequest.messages : GatedRequest → ℕ
  | .mcp body => (bodyMessages json body).length
  | _ => 1

/-- The request asks for the tool. -/
def GatedRequest.Uses : GatedRequest → Tool → Prop
  | .search _, tool => tool = .search
  | .get _, tool => tool = .get
  | .send _, tool => tool = .send
  | .mcp body, tool => ∃ item ∈ bodyMessages json body, CallsTool item tool

/-- The request asks for the action. -/
def GatedRequest.Asks : GatedRequest → Action → Prop
  | .search body, action => ∃ request, body = .ok request ∧ action = .search request
  | .get body, action => ∃ request, body = .ok request ∧ action = .get request
  | .send body, action => ∃ request, body = .ok request ∧ action = .send request
  | .mcp body, action => ∃ item ∈ bodyMessages json body, ∃ id, CallsFor item id action

theorem uses_of_asks (request : GatedRequest) (action : Action) (h : request.Asks json action) :
    request.Uses json action.tool := by
  cases request with
  | mcp body =>
    obtain ⟨item, hitem, id, params, arguments, ⟨request, hread, hversion, hmethod, hid, rfl⟩,
      hnames, -⟩ := h
    exact ⟨item, hitem, request, id, arguments, hread, hversion, hmethod, hid, hnames⟩
  | _ body =>
    obtain ⟨request, -, rfl⟩ := h
    rfl

theorem handlePayload_visits (value : Value) (reply : McpReply)
    (hplays : Plays (handlePayload json schemas maxAttachmentBytes headers value) h reply) :
    Pieces (Visit maxAttachmentBytes headers fun action => ∃ item ∈ payloadMessages value, ∃ id,
      CallsFor item id action) (payloadMessages value).length h := by
  unfold handlePayload at hplays
  cases value with
  | array items =>
    dsimp only at hplays
    split_ifs at hplays
    · obtain ⟨rfl, -⟩ := (plays_pure _ _).mp hplays
      exact pieces_nil _
    · obtain ⟨h₁, responses, h₂, hbatch, hend, rfl⟩ := (plays_bind _ _ _).mp hplays
      obtain ⟨rfl, -⟩ := (plays_pure _ _).mp hend
      rw [List.append_nil]
      exact handleBatch_visits json schemas maxAttachmentBytes headers items responses hbatch
  | object members =>
    obtain ⟨h₁, response, h₂, hone, hend, rfl⟩ := (plays_bind _ _ _).mp hplays
    obtain ⟨rfl, -⟩ := (plays_pure _ _).mp hend
    rw [List.append_nil]
    refine pieces_mono (handleOne_visit json schemas maxAttachmentBytes headers _ response hone)
      (fun p hp => visit_mono p hp ?_) le_rfl
    exact fun action hcalls => ⟨_, List.mem_singleton.mpr rfl, hcalls⟩
  | _ =>
    obtain ⟨rfl, -⟩ := (plays_pure _ _).mp hplays
    exact pieces_nil _

theorem mcpEndpoint_visits (body : Except BytesRejection (List UInt8)) (reply : McpReply)
    (hplays : Plays (mcpEndpoint json schemas maxAttachmentBytes headers body) h reply) :
    Pieces (Visit maxAttachmentBytes headers fun action => ∃ item ∈ bodyMessages json body, ∃ id,
      CallsFor item id action) (bodyMessages json body).length h := by
  unfold mcpEndpoint at hplays
  cases body with
  | error err =>
    dsimp only at hplays
    split_ifs at hplays
    · obtain ⟨rfl, -⟩ := (plays_pure _ _).mp hplays
      exact pieces_nil _
    · obtain ⟨rfl, -⟩ := (plays_pure _ _).mp hplays
      exact pieces_nil _
  | ok bytes =>
    dsimp only at hplays
    split_ifs at hplays
    · obtain ⟨rfl, -⟩ := (plays_pure _ _).mp hplays
      exact pieces_nil _
    · cases hparse : json.fromSlice bytes with
      | error err =>
        rw [hparse] at hplays
        obtain ⟨rfl, -⟩ := (plays_pure _ _).mp hplays
        exact pieces_nil _
      | ok value =>
        rw [hparse] at hplays
        dsimp only at hplays
        have hmessages : bodyMessages json (.ok bytes) = payloadMessages value := by
          unfold bodyMessages
          dsimp only
          rw [hparse]
          rfl
        rw [hmessages]
        split_ifs at hplays
        · obtain ⟨rfl, -⟩ := (plays_pure _ _).mp hplays
          exact pieces_nil _
        · exact handlePayload_visits json schemas maxAttachmentBytes headers value reply hplays

/-- A request is at most one visit for each message that it brings. -/
theorem handler_visits (config : GatewayConfig) (request : GatedRequest) (reply : GatewayReply)
    (hplays : Plays (request.handler json schemas config headers) h reply) :
    Pieces (Visit config.maxAttachmentBytes headers (request.Asks json)) (request.messages json)
      h := by
  cases request with
  | search body =>
    apply rest_visits headers config.maxAttachmentBytes _ _ reply _ _ hplays
    intro r hrun
    rcases plays_credential_first headers _ _ hrun with ⟨e, rfl, -⟩ | ⟨cred, e, -, rfl, -⟩ |
      ⟨cred, request, h', hbody, rfl, hact⟩
    · exact .inr (.failed e)
    · exact .inr (.idle cred)
    · refine .inr (visit_mono _ (visit_of_invoke headers _ cred (.search request) r hact) ?_)
      rintro action rfl
      exact ⟨request, (mapError_eq_ok_iff _ _ _).mp hbody, rfl⟩
  | get body =>
    apply rest_visits headers config.maxAttachmentBytes _ _ reply _ _ hplays
    intro r hrun
    rcases plays_credential_first headers _ _ hrun with ⟨e, rfl, -⟩ | ⟨cred, e, -, rfl, -⟩ |
      ⟨cred, request, h', hbody, rfl, hact⟩
    · exact .inr (.failed e)
    · exact .inr (.idle cred)
    · refine .inr (visit_mono _ (visit_of_invoke headers _ cred (.get request) r hact) ?_)
      rintro action rfl
      exact ⟨request, (mapError_eq_ok_iff _ _ _).mp hbody, rfl⟩
  | send body =>
    apply rest_visits headers config.maxAttachmentBytes _ _ reply _ _ hplays
    intro r hrun
    rcases plays_body_first headers _ _ hrun with ⟨e, -, rfl, -⟩ | ⟨e, rfl, -⟩ |
      ⟨cred, request, h', hbody, rfl, hact⟩
    · exact .inl rfl
    · exact .inr (.failed e)
    · refine .inr (visit_mono _ (visit_of_invoke headers _ cred (.send request) r hact) ?_)
      rintro action rfl
      exact ⟨request, (mapError_eq_ok_iff _ _ _).mp hbody, rfl⟩
  | mcp body =>
    obtain ⟨mcpReply, hmcp, -⟩ := (plays_map _ _ _).mp hplays
    exact mcpEndpoint_visits json schemas config.maxAttachmentBytes headers body mcpReply hmcp

end Messages

section Network

variable {Address : Type} (crates : Crates Address) (env : Env) (state : AppState)

/-- A visit with everything that is exchanged on it. -/
inductive NetVisit (headers : HeaderMap) (asks : Action → Prop) : NetHistory Address → Prop
  | credential (H : NetHistory Address) (r : Except GatewayError MailboxCredential)
      (hresolved : Plays (netCredential crates state headers) H r) : NetVisit headers asks H
  | acted (H₁ H₂ : NetHistory Address) (cred : MailboxCredential) (action : Action)
      (hasks : asks action) (x : (action.op state.config.maxAttachmentBytes cred).Answer)
      (hresolved : Plays (netCredential crates state headers) H₁ (.ok cred))
      (hacted : Plays (answerMcp crates env state (action.op state.config.maxAttachmentBytes cred))
        H₂ x) : NetVisit headers asks (H₁ ++ H₂)

/-- What a visit exchanges. -/
theorem netVisit_of_visit (headers : HeaderMap) (asks : Action → Prop) (h : McpHistory)
    (H : NetHistory Address) (hvisit : Visit state.config.maxAttachmentBytes headers asks h)
    (hlayered : Layered (answerMcp crates env state) h H) :
    NetVisit crates env state headers asks H := by
  cases hvisit with
  | failed e =>
    obtain ⟨H₁, H₂, hresolved, hrest, rfl⟩ := (layered_cons _ _ _ _).mp hlayered
    rw [(layered_nil _).mp hrest, List.append_nil]
    exact .credential H₁ _ hresolved
  | idle cred =>
    obtain ⟨H₁, H₂, hresolved, hrest, rfl⟩ := (layered_cons _ _ _ _).mp hlayered
    rw [(layered_nil _).mp hrest, List.append_nil]
    exact .credential H₁ _ hresolved
  | acted cred action hasks x =>
    obtain ⟨H₁, H₂, hresolved, hrest, rfl⟩ := (layered_cons _ _ _ _).mp hlayered
    obtain ⟨H₃, H₄, hacted, hnil, rfl⟩ := (layered_cons _ _ _ _).mp hrest
    rw [(layered_nil _).mp hnil, List.append_nil]
    exact .acted H₁ H₃ cred action hasks x hresolved hacted

/-- Whatever its servers answer, a request is a sequence of visits, at most one for each
message it brings. -/
theorem netHandler_visits (incoming : Incoming) (H : NetHistory Address) (reply : GatewayReply)
    (hplays : Plays (netHandler crates env state incoming) H reply) :
    Pieces (NetVisit crates env state incoming.headers (incoming.request.Asks crates.json))
      (incoming.request.messages crates.json) H := by
  obtain ⟨h, hhandler, hlayered⟩ := (plays_handle _ _ _).mp hplays
  refine pieces_mono (pieces_layered (handler_visits crates.json crates.schemas incoming.headers
    state.config incoming.request reply hhandler) hlayered) ?_ le_rfl
  rintro H' ⟨p, hvisit, hlayer⟩
  exact netVisit_of_visit crates env state incoming.headers _ p H' hvisit hlayer

theorem serve_visits (incoming : Incoming) (H : NetHistory Address) (reply : Option GatewayReply)
    (hplays : Plays (serve crates env state incoming) H reply) :
    Pieces (NetVisit crates env state incoming.headers (incoming.request.Asks crates.json))
      (incoming.request.messages crates.json) H := by
  rcases plays_serve crates env state incoming hplays with ⟨-, rfl, -⟩ | ⟨-, rfl, -⟩ |
    ⟨-, -, reply', -, hhandler⟩
  · exact pieces_nil _
  · exact pieces_nil _
  · exact netHandler_visits crates env state incoming H reply' hhandler

/-- Resolving a credential asks for nothing but what the credential takes. -/
theorem netCredential_asks (headers : HeaderMap) :
    AsksOnly (fun q : NetOp Address => ∃ q', q = .credential q')
      (netCredential crates state headers) :=
  asksOnly_handle _ (asksOnly_true _) fun q _ => asksOnly_call ⟨q, rfl⟩

/-- An action asks for no credential. -/
theorem action_asks (cred : MailboxCredential) (action : Action) :
    AsksOnly (fun q : NetOp Address => ∀ q', q ≠ .credential q')
      (answerMcp crates env state (action.op state.config.maxAttachmentBytes cred)) := by
  cases action with
  | search request =>
    exact asksOnly_handle _ (asksOnly_true _) fun q _ => asksOnly_call fun _ h => nomatch h
  | get request =>
    exact asksOnly_handle _ (asksOnly_true _) fun q _ => asksOnly_call fun _ h => nomatch h
  | send request =>
    refine asksOnly_bind (asksOnly_call fun _ h => nomatch h) fun stamp => ?_
    exact asksOnly_handle _ (asksOnly_true _) fun q _ => asksOnly_call fun _ h => nomatch h

/-- Wherever a run has got to: what is asked for a credential is asked while one is made of the
headers. -/
theorem begins_resolving (incoming : Incoming) (H : NetHistory Address)
    (hbegins : Begins (serve crates env state incoming) H) (before later : NetHistory Address)
    (e : Exchange (NetOp Address) NetOp.Answer) (hsplit : H = before ++ e :: later) (q : RequestOp)
    (hq : e.1 = .credential q) :
    ∃ (r : Except GatewayError MailboxCredential) (earlier front back : NetHistory Address),
      before = earlier ++ front ∧
      Plays (netCredential crates state incoming.headers) (front ++ e :: back) r := by
  obtain ⟨rest, reply, hplays⟩ := hbegins
  rw [hsplit, List.append_assoc, List.cons_append] at hplays
  obtain ⟨earlier, front, back, _, hvisit, rfl, -⟩ :=
    pieces_split e before (later ++ rest) (serve_visits crates env state incoming _ reply hplays)
  generalize hV : front ++ e :: back = V at hvisit
  cases hvisit with
  | credential _ r hresolved => exact ⟨r, earlier, front, back, rfl, hV ▸ hresolved⟩
  | acted H₁ H₂ cred action hasks x hresolved hacted =>
    have hnone (he : e ∈ H₂) : False :=
      asksOnly_plays (action_asks crates env state cred action) hacted e he q hq
    -- The exchange is not of the action, so it is one of those that made the credential.
    rcases List.append_eq_append_iff.mp hV with ⟨a, rfl, hrest⟩ | ⟨since, rfl, hrest⟩
    · cases a with
      | nil => exact (hnone (by rw [← List.nil_append H₂, ← hrest]; simp)).elim
      | cons d a =>
        obtain ⟨rfl, -⟩ := List.cons.inj hrest
        exact ⟨_, earlier, front, a, rfl, hresolved⟩
    · exact (hnone (by rw [hrest]; simp)).elim

/-- Wherever a run has got to: what is not asked for a credential is asked for an action, under a
credential that was made of the headers just before. -/
theorem begins_acting (incoming : Incoming) (H : NetHistory Address)
    (hbegins : Begins (serve crates env state incoming) H) (before later : NetHistory Address)
    (e : Exchange (NetOp Address) NetOp.Answer) (hsplit : H = before ++ e :: later)
    (hacting : ∀ q, e.1 ≠ .credential q) :
    ∃ (cred : MailboxCredential) (action : Action)
      (x : (action.op state.config.maxAttachmentBytes cred).Answer)
      (earlier resolved since back : NetHistory Address),
      before = earlier ++ (resolved ++ since) ∧
      Plays (netCredential crates state incoming.headers) resolved (.ok cred) ∧
      Plays (answerMcp crates env state (action.op state.config.maxAttachmentBytes cred))
        (since ++ e :: back) x := by
  obtain ⟨rest, reply, hplays⟩ := hbegins
  rw [hsplit, List.append_assoc, List.cons_append] at hplays
  obtain ⟨earlier, front, back, _, hvisit, rfl, -⟩ :=
    pieces_split e before (later ++ rest) (serve_visits crates env state incoming _ reply hplays)
  have hnone {H₁ : NetHistory Address} {r : Except GatewayError MailboxCredential}
      (hresolved : Plays (netCredential crates state incoming.headers) H₁ r) (he : e ∈ H₁) :
      False := by
    obtain ⟨q, hq⟩ := asksOnly_plays (netCredential_asks crates state incoming.headers) hresolved e he
    exact hacting q hq
  generalize hV : front ++ e :: back = V at hvisit
  cases hvisit with
  | credential _ r hresolved => exact (hnone hresolved (by rw [← hV]; simp)).elim
  | acted H₁ H₂ cred action hasks x hresolved hacted =>
    rcases List.append_eq_append_iff.mp hV with ⟨a, rfl, hrest⟩ | ⟨since, rfl, hrest⟩
    · cases a with
      | nil =>
        rw [List.append_nil] at hresolved
        rw [← List.nil_append H₂, ← hrest] at hacted
        exact ⟨cred, action, x, earlier, front, [], back, by rw [List.append_nil], hresolved, hacted⟩
      | cons d a =>
        obtain ⟨rfl, -⟩ := List.cons.inj hrest
        exact (hnone hresolved (by simp)).elim
    · rw [hrest] at hacted
      exact ⟨cred, action, x, earlier, H₁, since, back, rfl, hresolved, hacted⟩

end Network

section Parts

variable {Address : Type} (crates : Crates Address) (env : Env) (state : AppState)
  (headers : HeaderMap)

/-- What the application does for one message of a payload. -/
def netMessage (item : Value) : NetProg Address (Option RpcResponse) :=
  (handleOne crates.json crates.schemas state.config.maxAttachmentBytes headers item).handle
    (answerMcp crates env state)

/-- A run of a batch is a run of each of its messages, one after the other. -/
theorem plays_batch (items : List Value) (H : NetHistory Address) (responses : List RpcResponse) :
    Plays ((handleBatch crates.json crates.schemas state.config.maxAttachmentBytes headers
        items).handle (answerMcp crates env state)) H responses ↔
      ∃ parts : List (NetHistory Address × Option RpcResponse),
        List.Forall₂ (fun item o => Plays (netMessage crates env state headers item) o.1 o.2) items
          parts ∧
        H = parts.flatMap Prod.fst ∧ responses = parts.filterMap Prod.snd := by
  have hresponses (response : Option RpcResponse) (H : NetHistory Address)
      (parts : List (NetHistory Address × Option RpcResponse)) :
      response.toList ++ parts.filterMap Prod.snd = ((H, response) :: parts).filterMap Prod.snd := by
    cases response with
    | none => rfl
    | some r => rfl
  induction items generalizing H responses with
  | nil =>
    constructor
    · intro hplays
      obtain ⟨rfl, rfl⟩ := (plays_pure _ _).mp hplays
      exact ⟨[], .nil, rfl, rfl⟩
    · rintro ⟨_, ⟨⟩, rfl, rfl⟩
      exact (plays_pure _ _).mpr ⟨rfl, rfl⟩
  | cons item items ih =>
    unfold handleBatch
    rw [handle_bind]
    constructor
    · intro hplays
      obtain ⟨H₁, response, H', hone, hrest, rfl⟩ := (plays_bind _ _ _).mp hplays
      rw [handle_bind] at hrest
      obtain ⟨H₂, rest, H₃, hbatch, hend, rfl⟩ := (plays_bind _ _ _).mp hrest
      obtain ⟨rfl, rfl⟩ := (plays_pure _ _).mp hend
      obtain ⟨parts, hparts, rfl, rfl⟩ := (ih H₂ rest).mp hbatch
      refine ⟨(H₁, response) :: parts, .cons hone hparts, ?_, hresponses response H₁ parts⟩
      rw [List.flatMap_cons, List.append_nil]
    · rintro ⟨_, hparts, rfl, rfl⟩
      obtain ⟨⟨H₁, response⟩, parts, hone, hrest, rfl⟩ := List.forall₂_cons_left_iff.mp hparts
      refine (plays_bind _ _ _).mpr ⟨H₁, response, parts.flatMap Prod.fst, hone, ?_, rfl⟩
      rw [handle_bind]
      refine (plays_bind _ _ _).mpr ⟨_, parts.filterMap Prod.snd, [], (ih _ _).mpr
        ⟨parts, hrest, rfl, rfl⟩, ?_, (List.append_nil _).symm⟩
      exact (plays_pure _ _).mpr ⟨rfl, (hresponses response H₁ parts).symm⟩

theorem plays_payload_array (items : List Value) (hnonempty : items ≠ []) (H : NetHistory Address)
    (reply : McpReply) :
    Plays ((handlePayload crates.json crates.schemas state.config.maxAttachmentBytes headers
        (.array items)).handle (answerMcp crates env state)) H reply ↔
      ∃ parts : List (NetHistory Address × Option RpcResponse),
        List.Forall₂ (fun item o => Plays (netMessage crates env state headers item) o.1 o.2) items
          parts ∧
        H = parts.flatMap Prod.fst ∧ reply = batchReply (parts.filterMap Prod.snd) := by
  rw [handlePayload_array crates.json crates.schemas _ headers items hnonempty, handle_bind]
  constructor
  · intro hplays
    obtain ⟨H₁, responses, H₂, hbatch, hend, rfl⟩ := (plays_bind _ _ _).mp hplays
    obtain ⟨rfl, rfl⟩ := (plays_pure _ _).mp hend
    obtain ⟨parts, hparts, rfl, rfl⟩ := (plays_batch crates env state headers items _ _).mp hbatch
    exact ⟨parts, hparts, List.append_nil _, rfl⟩
  · rintro ⟨parts, hparts, rfl, rfl⟩
    refine (plays_bind _ _ _).mpr ⟨_, _, [], (plays_batch crates env state headers items _ _).mpr
      ⟨parts, hparts, rfl, rfl⟩, ?_, (List.append_nil _).symm⟩
    exact (plays_pure _ _).mpr ⟨rfl, rfl⟩

theorem plays_payload_object (members : List (String × Value)) (H : NetHistory Address)
    (reply : McpReply) :
    Plays ((handlePayload crates.json crates.schemas state.config.maxAttachmentBytes headers
        (.object members)).handle (answerMcp crates env state)) H reply ↔
      ∃ response, Plays (netMessage crates env state headers (.object members)) H response ∧
        reply = singleReply response := by
  unfold handlePayload
  rw [handle_bind]
  constructor
  · intro hplays
    obtain ⟨H₁, response, H₂, hone, hend, rfl⟩ := (plays_bind _ _ _).mp hplays
    obtain ⟨rfl, rfl⟩ := (plays_pure _ _).mp hend
    rw [List.append_nil]
    exact ⟨response, hone, rfl⟩
  · rintro ⟨response, hone, rfl⟩
    refine (plays_bind _ _ _).mpr ⟨H, response, [], hone, ?_, (List.append_nil H).symm⟩
    exact (plays_pure _ _).mpr ⟨rfl, rfl⟩

/-- What is exchanged for a payload falls into parts, one for each message and in their order. -/
theorem payload_parts (value : Value) (hnonempty : payloadMessages value ≠ [])
    (H : NetHistory Address) (reply : McpReply)
    (hplays : Plays ((handlePayload crates.json crates.schemas state.config.maxAttachmentBytes headers
      value).handle (answerMcp crates env state)) H reply) :
    ∃ parts : List (NetHistory Address × Option RpcResponse),
      List.Forall₂ (fun item o => Plays (netMessage crates env state headers item) o.1 o.2)
        (payloadMessages value) parts ∧
      H = parts.flatMap Prod.fst ∧ reply.responses = parts.filterMap Prod.snd := by
  cases value with
  | array items =>
    obtain ⟨parts, hparts, hH, rfl⟩ :=
      (plays_payload_array crates env state headers items hnonempty H reply).mp hplays
    exact ⟨parts, hparts, hH, (batchReply_responses _).1⟩
  | object members =>
    obtain ⟨response, hone, rfl⟩ :=
      (plays_payload_object crates env state headers members H reply).mp hplays
    refine ⟨[(H, response)], .cons hone .nil, (List.append_nil H).symm, ?_⟩
    rw [(singleReply_responses response).1]
    cases response with
    | none => rfl
    | some r => rfl
  | _ => exact absurd rfl hnonempty

/-- A readable payload of allowed size is handled where its route is served and the gate lets the
request through. -/
theorem plays_mcp (bytes : List UInt8) (value : Value)
    (hheaders : isJsonContentType headers = true) (hparse : crates.json.fromSlice bytes = .ok value)
    (hsize : overLimit bytes value = false) (H : NetHistory Address) (reply : McpReply) :
    Plays (serve crates env state ⟨headers, .mcp (.ok bytes)⟩) H (some (.mcp reply)) ↔
      (state.config.enableMcp = true ∧ Admitted state.config headers) ∧
        Plays ((handlePayload crates.json crates.schemas state.config.maxAttachmentBytes headers
          value).handle (answerMcp crates env state)) H reply := by
  have hendpoint : mcpEndpoint crates.json crates.schemas state.config.maxAttachmentBytes headers
      (.ok bytes) = handlePayload crates.json crates.schemas state.config.maxAttachmentBytes headers
        value := by
    rw [mcpEndpoint_parsed crates.json crates.schemas _ headers bytes value hheaders hparse,
      if_neg (by rw [hsize]; decide)]
  have hhandler : netHandler crates env state ⟨headers, .mcp (.ok bytes)⟩ =
      GatewayReply.mcp <$> (handlePayload crates.json crates.schemas
        state.config.maxAttachmentBytes headers value).handle (answerMcp crates env state) := by
    rw [← hendpoint, ← handle_map]
    rfl
  constructor
  · intro hplays
    rcases plays_serve crates env state _ hplays with ⟨-, -, hreply⟩ | ⟨-, -, message, hreply⟩ |
      ⟨hserved, hadmitted, reply', hreply, hrun⟩
    · cases hreply
    · cases hreply
    · cases hreply
      rw [hhandler] at hrun
      obtain ⟨_, hpayload, hreply⟩ := (plays_map _ _ _).mp hrun
      cases hreply
      exact ⟨⟨hserved, hadmitted⟩, hpayload⟩
  · rintro ⟨⟨hserved, hadmitted⟩, hpayload⟩
    rw [serve_admitted crates env state ⟨headers, .mcp (.ok bytes)⟩ hserved hadmitted, hhandler]
    exact (plays_map _ _ _).mpr ⟨_, (plays_map _ _ _).mpr ⟨reply, hpayload, rfl⟩, rfl⟩

/-- A request with a readable payload is served message by message. -/
theorem served_parts (bytes : List UInt8) (value : Value)
    (hheaders : isJsonContentType headers = true) (hparse : crates.json.fromSlice bytes = .ok value)
    (hsize : overLimit bytes value = false) (hnonempty : payloadMessages value ≠ [])
    (H : NetHistory Address) (reply : McpReply)
    (hplays : Plays (serve crates env state ⟨headers, .mcp (.ok bytes)⟩) H (some (.mcp reply))) :
    ∃ parts : List (NetHistory Address × Option RpcResponse),
      List.Forall₂ (fun item o => Plays (netMessage crates env state headers item) o.1 o.2)
        (payloadMessages value) parts ∧
      H = parts.flatMap Prod.fst ∧ reply.responses = parts.filterMap Prod.snd :=
  payload_parts crates env state headers value hnonempty H reply
    ((plays_mcp crates env state headers bytes value hheaders hparse hsize H reply).mp hplays).2

end Parts

end Overfwd
