import Overfwd.Mcp

namespace Overfwd

open Text Outcome Dialogue Serde

/-- A well-formed message of the family that never gets a response. -/
def IsNotification (item : Value) : Prop :=
  ∃ request, RpcRequest.fromValue item = .ok request ∧ request.jsonrpc = "2.0" ∧
    startsWith "notifications/" request.method = true

/-- What becomes of one message: `trace` is what it sets off and `response` what it gets. -/
structure MessageOutcome (item : Value) (trace : List McpOp) (response : Option RpcResponse) :
    Prop where
  carries : item.isArray = false → ∀ r, response = some r → item.get? "id" = some r.id
  answered : ∀ id, item.get? "id" = some id → id.isNull = false → ¬IsNotification item →
    ∃ r, response = some r
  notified : IsNotification item → trace = [] ∧ response = none
  passedOver : item.get? "id" = none → item.isArray = false → trace = [] ∧ response = none

section Messages

variable (json : SerdeJson) (schemas : ToolSchemas) (maxAttachmentBytes : ℕ)

theorem toolResponse_id {α : Type} (id : Value) (toValue : α → Value)
    (outcome : Except GatewayError α) : (toolResponse json id toValue outcome).id = id := by
  cases outcome with
  | ok value => rfl
  | error err => rfl

section Calls

variable (id : Value) {trace : List McpOp} {r : RpcResponse}

theorem runTool_id {α β : Type} (fromValue : Value → Except Serde.Error α)
    (action : α → McpProg (Except GatewayError β)) (toValue : β → Value) (call : ToolCallParams)
    (h : Runs (runTool json fromValue action toValue call id) trace r) : r.id = id := by
  unfold runTool at h
  cases hread : parseArguments json call.name fromValue call.arguments with
  | error resp =>
    rw [hread] at h
    obtain ⟨-, rfl⟩ := (runs_pure _ _).mp h
    rfl
  | ok request =>
    rw [hread] at h
    obtain ⟨_, outcome, _, -, h, -⟩ := (runs_bind _ _ _).mp h
    obtain ⟨-, rfl⟩ := (runs_pure _ _).mp h
    exact toolResponse_id json id toValue outcome

theorem dispatchTool_id (credential : MailboxCredential) (call : ToolCallParams)
    (h : Runs (dispatchTool json maxAttachmentBytes credential call id) trace r) : r.id = id := by
  unfold dispatchTool at h
  split_ifs at h
  · exact runTool_id json id _ _ _ call h
  · exact runTool_id json id _ _ _ call h
  · exact runTool_id json id _ _ _ call h
  · obtain ⟨-, rfl⟩ := (runs_pure _ _).mp h
    rfl

/-- Every path of a tool call ends in a response to that call. -/
theorem toolsCall_id (headers : HeaderMap) (params : Option Value)
    (h : Runs (toolsCall json maxAttachmentBytes headers params id) trace r) : r.id = id := by
  obtain ⟨_, resolved, _, -, h, -⟩ := (runs_bind _ _ _).mp h
  cases resolved with
  | error err =>
    obtain ⟨-, rfl⟩ := (runs_pure _ _).mp h
    rfl
  | ok credential =>
    cases params with
    | none =>
      obtain ⟨-, rfl⟩ := (runs_pure _ _).mp h
      rfl
    | some params =>
      dsimp only [callWithCredential] at h
      cases hcall : ToolCallParams.fromValue params with
      | error err =>
        rw [hcall] at h
        obtain ⟨-, rfl⟩ := (runs_pure _ _).mp h
        rfl
      | ok call =>
        rw [hcall] at h
        exact dispatchTool_id json maxAttachmentBytes id credential call h

end Calls

section Requests

variable (headers : HeaderMap) (request : RpcRequest) {trace : List McpOp}
  {response : Option RpcResponse}

/-- A request without an id sets nothing off, whatever its method. -/
theorem handleRequest_silent (hid : request.id = none)
    (h : Runs (handleRequest json schemas maxAttachmentBytes headers request) trace response) :
    trace = [] ∧ response = none := by
  unfold handleRequest runMethod at h
  rw [hid] at h
  dsimp only [Option.map_none] at h
  split_ifs at h
  all_goals exact (runs_pure _ _).mp h

/-- One with an id is answered, unless its method is a notification's. -/
theorem handleRequest_answered (id : Value) (hid : request.id = some id)
    (hmethod : ¬(request.jsonrpc = "2.0" ∧ startsWith "notifications/" request.method = true))
    (h : Runs (handleRequest json schemas maxAttachmentBytes headers request) trace response) :
    ∃ r, response = some r ∧ r.id = id := by
  unfold handleRequest runMethod at h
  rw [hid] at h
  dsimp only [Option.map_some] at h
  split_ifs at h with hversion hinit hping hlist hcall hnotify
  · exact ⟨_, ((runs_pure _ _).mp h).2, rfl⟩
  · exact ⟨_, ((runs_pure _ _).mp h).2, rfl⟩
  · exact ⟨_, ((runs_pure _ _).mp h).2, rfl⟩
  · exact ⟨_, ((runs_pure _ _).mp h).2, rfl⟩
  · obtain ⟨_, r, _, hr, h, -⟩ := (runs_bind _ _ _).mp h
    exact ⟨r, ((runs_pure _ _).mp h).2, toolsCall_id json maxAttachmentBytes id headers _ hr⟩
  · exact absurd ⟨not_not.mp hversion, hnotify⟩ hmethod
  · exact ⟨_, ((runs_pure _ _).mp h).2, rfl⟩

theorem handleRequest_notified (hversion : request.jsonrpc = "2.0")
    (hmethod : startsWith "notifications/" request.method = true)
    (h : Runs (handleRequest json schemas maxAttachmentBytes headers request) trace response) :
    trace = [] ∧ response = none := by
  have hother : ∀ method, startsWith "notifications/" method = false → request.method ≠ method := by
    intro method hfalse heq
    rw [heq, hfalse] at hmethod
    cases hmethod
  unfold handleRequest runMethod at h
  rw [if_neg (not_not.mpr hversion), if_neg (hother _ (by decide)), if_neg (hother _ (by decide)),
    if_neg (hother _ (by decide)), if_neg (hother _ (by decide)), if_pos hmethod] at h
  exact (runs_pure _ _).mp h

theorem handleRequest_carries (id : Value) (r : RpcResponse) (hid : request.id = some id)
    (h : Runs (handleRequest json schemas maxAttachmentBytes headers request) trace response)
    (hr : response = some r) : r.id = id := by
  by_cases hmethod : request.jsonrpc = "2.0" ∧ startsWith "notifications/" request.method = true
  · have hnone := (handleRequest_notified json schemas maxAttachmentBytes headers request
      hmethod.1 hmethod.2 h).2
    rw [hr] at hnone
    cases hnone
  · obtain ⟨r', hr', hid'⟩ := handleRequest_answered json schemas maxAttachmentBytes headers
      request id hid hmethod h
    cases hr.symm.trans hr'
    exact hid'

end Requests

section Items

variable (headers : HeaderMap)

/-- The id of a request is that of its message, unless that is `null`. -/
theorem get_id_of_request (members : List (String × Value)) (request : RpcRequest) (id : Value)
    (hread : RpcRequest.fromValue (.object members) = .ok request) :
    request.id = some id ↔ members.lookup "id" = some id ∧ id.isNull = false := by
  rw [(RpcRequest.fromValue_object members request hread).1, Option.bind_eq_some_iff]
  constructor
  · intro h
    obtain ⟨v, hv, h⟩ := h
    obtain ⟨rfl, hnull⟩ := (Value.nonNull_eq_some_iff v id).mp h
    exact ⟨hv, hnull⟩
  · intro h
    exact ⟨id, h.1, (Value.nonNull_eq_some_iff id id).mpr ⟨rfl, h.2⟩⟩

theorem isNotification_iff (item : Value) (request : RpcRequest)
    (hread : RpcRequest.fromValue item = .ok request) :
    IsNotification item ↔
      request.jsonrpc = "2.0" ∧ startsWith "notifications/" request.method = true := by
  constructor
  · intro h
    obtain ⟨request', hread', h⟩ := h
    cases hread.symm.trans hread'
    exact h
  · intro h
    exact ⟨request, hread, h⟩

theorem unread_outcome (item : Value) (err : Serde.Error) (trace : List McpOp)
    (response : Option RpcResponse) (hread : RpcRequest.fromValue item = .error err)
    (h : Runs (handleOne json schemas maxAttachmentBytes headers item) trace response) :
    MessageOutcome item trace response := by
  unfold handleOne at h
  rw [hread] at h
  obtain ⟨rfl, rfl⟩ := (runs_pure _ _).mp h
  refine ⟨?_, ?_, ?_, ?_⟩
  · intro _ r hr
    obtain ⟨id, hid, rfl⟩ := Option.map_eq_some_iff.mp hr
    exact hid
  · intro id hid _ _
    rw [hid]
    exact ⟨_, rfl⟩
  · intro hnotify
    obtain ⟨request, hok, -⟩ := hnotify
    rw [hread] at hok
    cases hok
  · intro hid _
    rw [hid]
    exact ⟨rfl, rfl⟩

theorem read_outcome (item : Value) (request : RpcRequest) (trace : List McpOp)
    (response : Option RpcResponse) (hread : RpcRequest.fromValue item = .ok request)
    (h : Runs (handleRequest json schemas maxAttachmentBytes headers request) trace response) :
    MessageOutcome item trace response := by
  have hnotify := isNotification_iff item request hread
  have hid : item.isArray = false → ∀ id,
      request.id = some id ↔ item.get? "id" = some id ∧ id.isNull = false := by
    intro harray id
    obtain ⟨members, rfl⟩ | ⟨items, rfl⟩ := RpcRequest.fromValue_shape item request hread
    · exact get_id_of_request members request id hread
    · cases harray
  refine ⟨?_, ?_, ?_, ?_⟩
  · intro harray r hr
    cases hrequest : request.id with
    | none =>
      have hnone := (handleRequest_silent json schemas maxAttachmentBytes headers request hrequest h).2
      rw [hr] at hnone
      cases hnone
    | some id =>
      have hsome := handleRequest_carries json schemas maxAttachmentBytes headers request id r hrequest h hr
      subst hsome
      exact ((hid harray _).mp hrequest).1
  · intro id hget hnull hnot
    have harray : item.isArray = false := by
      cases item with
      | array items => cases hget
      | _ => rfl
    obtain ⟨r, hr, -⟩ := handleRequest_answered json schemas maxAttachmentBytes headers request id
      ((hid harray id).mpr ⟨hget, hnull⟩) (fun hmethod => hnot (hnotify.mpr hmethod)) h
    exact ⟨r, hr⟩
  · intro hitem
    obtain ⟨hversion, hmethod⟩ := hnotify.mp hitem
    exact handleRequest_notified json schemas maxAttachmentBytes headers request hversion hmethod h
  · intro hget harray
    apply handleRequest_silent json schemas maxAttachmentBytes headers request _ h
    apply Option.eq_none_iff_forall_ne_some.mpr
    intro id hrequest
    have hsome := ((hid harray id).mp hrequest).1
    rw [hget] at hsome
    cases hsome

theorem handleOne_outcome (item : Value) (trace : List McpOp) (response : Option RpcResponse)
    (h : Runs (handleOne json schemas maxAttachmentBytes headers item) trace response) :
    MessageOutcome item trace response := by
  cases hread : RpcRequest.fromValue item with
  | error err => exact unread_outcome json schemas maxAttachmentBytes headers item err trace response hread h
  | ok request =>
    unfold handleOne at h
    rw [hread] at h
    exact read_outcome json schemas maxAttachmentBytes headers item request trace response hread h

/-- A batch handles each of its messages once, in their order. -/
theorem handleBatch_outcomes (items : List Value) (trace : List McpOp)
    (responses : List RpcResponse)
    (h : Runs (handleBatch json schemas maxAttachmentBytes headers items) trace responses) :
    ∃ outcomes : List (List McpOp × Option RpcResponse),
      List.Forall₂ (fun item o => MessageOutcome item o.1 o.2) items outcomes ∧
        trace = outcomes.flatMap Prod.fst ∧ responses = outcomes.filterMap Prod.snd := by
  induction items generalizing trace responses with
  | nil =>
    obtain ⟨rfl, rfl⟩ := (runs_pure _ _).mp h
    exact ⟨[], .nil, rfl, rfl⟩
  | cons item items ih =>
    obtain ⟨t, response, t', hone, htail, rfl⟩ := (runs_bind _ _ _).mp h
    obtain ⟨t₁, rest, t₂, hrest, hpure, rfl⟩ := (runs_bind _ _ _).mp htail
    obtain ⟨rfl, rfl⟩ := (runs_pure _ _).mp hpure
    obtain ⟨outcomes, houtcomes, rfl, rfl⟩ := ih t₁ rest hrest
    have hitem := handleOne_outcome json schemas maxAttachmentBytes headers item t response hone
    refine ⟨(t, response) :: outcomes, .cons hitem houtcomes, ?_, ?_⟩
    · simp only [List.flatMap_cons, List.append_nil]
    · cases response with
      | none => rfl
      | some r => rfl

end Items

end Messages

/-- A batch is answered by the responses of its messages in their order, a single message
by its own; a refused payload sets nothing off. -/
theorem messages_answered_in_order (json : SerdeJson) (schemas : ToolSchemas)
    (maxAttachmentBytes : ℕ) (headers : HeaderMap) (bytes : List UInt8) (value : Value)
    (trace : List McpOp) (reply : McpReply) (hheaders : isJsonContentType headers = true)
    (hparse : json.fromSlice bytes = .ok value)
    (hrun : Runs (mcpEndpoint json schemas maxAttachmentBytes headers (.ok bytes)) trace reply) :
    (overLimit bytes value = true → trace = [] ∧ reply = tooLarge overLimitMessage) ∧
      (overLimit bytes value = false →
        (∀ items, value = .array items → items ≠ [] →
          ∃ outcomes : List (List McpOp × Option RpcResponse),
            List.Forall₂ (fun item o => MessageOutcome item o.1 o.2) items outcomes ∧
              trace = outcomes.flatMap Prod.fst ∧
              reply = batchReply (outcomes.filterMap Prod.snd)) ∧
        ∀ members, value = .object members → ∃ response, MessageOutcome value trace response ∧
          reply = singleReply response) := by
  rw [mcpEndpoint_parsed json schemas maxAttachmentBytes headers bytes value hheaders hparse] at hrun
  constructor
  · intro hover
    rw [if_pos hover] at hrun
    exact (runs_pure _ _).mp hrun
  · intro hunder
    rw [if_neg (by simp [hunder])] at hrun
    constructor
    · intro items hvalue hitems
      subst hvalue
      rw [handlePayload_array json schemas maxAttachmentBytes headers items hitems] at hrun
      obtain ⟨t, responses, t', hbatch, hpure, rfl⟩ := (runs_bind _ _ _).mp hrun
      obtain ⟨rfl, rfl⟩ := (runs_pure _ _).mp hpure
      obtain ⟨outcomes, houtcomes, htrace, rfl⟩ :=
        handleBatch_outcomes json schemas maxAttachmentBytes headers items t responses hbatch
      exact ⟨outcomes, houtcomes, by rw [List.append_nil, htrace], rfl⟩
    · intro members hvalue
      subst hvalue
      -- A single message is handled as one of a batch is, but its reply is no list.
      obtain ⟨t, response, t', hone, hpure, rfl⟩ := (runs_bind _ _ _).mp hrun
      obtain ⟨rfl, rfl⟩ := (runs_pure _ _).mp hpure
      rw [List.append_nil]
      exact ⟨response, handleOne_outcome json schemas maxAttachmentBytes headers _ t response hone,
        rfl⟩

section Samples

/-- A parser that knows one text. -/
def oneText (text : List UInt8) (value : Value) : SerdeJson where
  fromSlice bytes := if bytes = text then .ok value else .error "expected value at line 1 column 1"
  toText _ := "\x7b\x7d"
  errorText _ := "missing field"

def asciiBytes (text : String) : List UInt8 := text.toList.map fun c => UInt8.ofNat c.toNat

def jsonHeaders : HeaderMap where
  entries := [("content-type", asciiBytes "application/json")]

def noSchemas : ToolSchemas where
  search := emptyObject
  get := emptyObject
  send := emptyObject

def sampleId : Value := .number (.posInt 1)

def numberedPing : Value :=
  .object [("id", sampleId), ("jsonrpc", .string "2.0"), ("method", .string "ping")]

def initialized : Value :=
  .object [("jsonrpc", .string "2.0"), ("method", .string "notifications/initialized")]

def numberedInitialized : Value := .object [("id", sampleId), ("jsonrpc", .string "2.0"),
  ("method", .string "notifications/initialized")]

def pingText : List UInt8 := asciiBytes
  ("[\x7b\"id\":1,\"jsonrpc\":\"2.0\",\"method\":\"ping\"\x7d," ++
    "\x7b\"jsonrpc\":\"2.0\",\"method\":\"notifications/initialized\"\x7d]")

def initializedText : List UInt8 := asciiBytes
  "[\x7b\"id\":1,\"jsonrpc\":\"2.0\",\"method\":\"notifications/initialized\"\x7d]"

theorem fromSlice_oneText (text : List UInt8) (value : Value) :
    (oneText text value).fromSlice text = .ok value := if_pos rfl

/-- A ping is answered and the notification behind it is not. -/
theorem ping_answered_in_order :
    ∃ outcomes : List (List McpOp × Option RpcResponse),
      List.Forall₂ (fun item o => MessageOutcome item o.1 o.2) [numberedPing, initialized]
        outcomes ∧
      [] = outcomes.flatMap Prod.fst ∧
      McpReply.batch [okResponse sampleId emptyObject] =
        batchReply (outcomes.filterMap Prod.snd) := by
  have hparse := fromSlice_oneText pingText (.array [numberedPing, initialized])
  have hrun : Runs (mcpEndpoint (oneText pingText (.array [numberedPing, initialized])) noSchemas 0
      jsonHeaders (.ok pingText)) [] (.batch [okResponse sampleId emptyObject]) := by
    rw [mcpEndpoint_parsed _ _ _ _ _ _ (by decide) hparse]
    exact .ret _
  exact ((messages_answered_in_order _ noSchemas 0 jsonHeaders pingText _ [] _ (by decide) hparse
    hrun).2 (by decide)).1 _ rfl (by simp)

/-- Each item's response has the item's `id`; there is none just for the items without one. -/
def AnswersEveryId (items : List Value) (reply : McpReply) : Prop :=
  ∃ responses : List (Option RpcResponse),
    List.Forall₂ (fun item response => response.map RpcResponse.id = item.get? "id") items
      responses ∧
    reply = batchReply (responses.filterMap id)

/-- A notification that carries an `id` gets no response. -/
theorem numbered_notification_unanswered :
    ¬∀ trace reply, Runs (mcpEndpoint (oneText initializedText (.array [numberedInitialized]))
      noSchemas 0 jsonHeaders (.ok initializedText)) trace reply →
      AnswersEveryId [numberedInitialized] reply := by
  intro hanswers
  have hrun : Runs (mcpEndpoint (oneText initializedText (.array [numberedInitialized])) noSchemas 0
      jsonHeaders (.ok initializedText)) [] .accepted := by
    rw [mcpEndpoint_parsed _ _ _ _ _ _ (by decide) (fromSlice_oneText _ _)]
    exact .ret _
  obtain ⟨responses, hresponses, hreply⟩ := hanswers [] .accepted hrun
  obtain ⟨response, rest, hid, hrest, rfl⟩ := List.forall₂_cons_left_iff.mp hresponses
  obtain rfl := List.forall₂_nil_left_iff.mp hrest
  cases response with
  | none => cases hid
  | some r => cases hreply

end Samples

end Overfwd
