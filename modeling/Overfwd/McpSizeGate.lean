import Overfwd.McpReplies

/-! The size gate reads a payload by name before anything is deserialised. When it agrees
with what the messages then turn out to be. -/
namespace Overfwd

open Text Outcome Dialogue Serde

/-- A message that is read as a call of `email_send`. -/
def IsSendMessage (item : Value) : Prop :=
  ∃ request params call, RpcRequest.fromValue item = .ok request ∧
    request.method = "tools/call" ∧ request.params = some params ∧
    ToolCallParams.fromValue params = .ok call ∧ call.name = "email_send"

def payloadMessages : Value → List Value
  | .array items => items
  | .object members => [.object members]
  | _ => []

/-- The payload is one or more messages that are all calls of `email_send`. -/
def SendsOnly (value : Value) : Prop :=
  payloadMessages value ≠ [] ∧ ∀ item ∈ payloadMessages value, IsSendMessage item

/-- A struct that a message holds is given as an array of its fields in order. -/
def IsPositional (item : Value) : Prop :=
  item.isArray = true ∨ ∃ params, item.get? "params" = some params ∧ params.isArray = true

/-- The actions that only read a mailbox. -/
def McpOp.reads : McpOp → Bool
  | .resolveCredential _ => false
  | .search _ _ => true
  | .get _ _ => true
  | .send _ _ _ => false

section Classification

/-- The gate looks for a call of `email_send` among the members by name only. -/
theorem isSendCall_iff (item : Value) :
    isSendCall item = true ↔ ∃ members params, item = .object members ∧
      members.lookup "method" = some (.string "tools/call") ∧
      members.lookup "params" = some (.object params) ∧
      params.lookup "name" = some (.string "email_send") := by
  unfold isSendCall
  rw [Bool.and_eq_true, beq_iff_eq, beq_iff_eq, Value.bind_asStr_eq_some_iff,
    Value.bind_asStr_eq_some_iff]
  constructor
  · intro h
    obtain ⟨hmethod, hname⟩ := h
    cases item with
    | object members =>
      obtain ⟨params, hparams, hname⟩ := Option.bind_eq_some_iff.mp hname
      cases params with
      | object params =>
        obtain ⟨v, hv, hend⟩ := Option.bind_eq_some_iff.mp hname
        cases hend
        exact ⟨members, params, rfl, hmethod, hparams, hv⟩
      | array items =>
        cases hname
      | _ => cases hname
    | _ => cases hmethod
  · intro h
    obtain ⟨members, params, rfl, hmethod, hparams, hname⟩ := h
    refine ⟨hmethod, ?_⟩
    change (members.lookup "params").bind (Value.pointer ["name"]) = _
    rw [hparams]
    change (params.lookup "name").bind (Value.pointer []) = _
    rw [hname]
    rfl

theorem not_isSendCall_of_positional (item : Value) (h : IsPositional item) :
    isSendCall item = false := by
  rw [← Bool.not_eq_true, isSendCall_iff]
  intro hcall
  obtain ⟨members, params, rfl, -, hparams, -⟩ := hcall
  rcases h with harray | ⟨params', hget, harray⟩
  · cases harray
  · change members.lookup "params" = some params' at hget
    rw [hparams] at hget
    cases hget
    cases harray

theorem isSendCall_of_message (item : Value) (h : IsSendMessage item)
    (hnamed : ¬IsPositional item) : isSendCall item = true := by
  obtain ⟨request, params, call, hread, hmethod, hparams, hcall, hname⟩ := h
  obtain ⟨members, rfl⟩ | ⟨items, rfl⟩ := RpcRequest.fromValue_shape item request hread
  · obtain ⟨-, hmethodField, hparamsField⟩ := RpcRequest.fromValue_object members request hread
    rw [hparams] at hparamsField
    obtain ⟨v, hlookup, hv⟩ := Option.bind_eq_some_iff.mp hparamsField.symm
    obtain ⟨rfl, -⟩ := (Value.nonNull_eq_some_iff v params).mp hv
    obtain ⟨fields, rfl⟩ | ⟨fields, rfl⟩ := ToolCallParams.fromValue_shape v call hcall
    · have hnameField := ToolCallParams.fromValue_object fields call hcall
      rw [hname] at hnameField
      rw [hmethod] at hmethodField
      exact (isSendCall_iff _).mpr ⟨members, fields, rfl, hmethodField, hlookup, hnameField⟩
    · exact absurd (.inr ⟨_, hlookup, rfl⟩) hnamed
  · exact absurd (.inl rfl) hnamed

/-- On a payload of sends the gate fails just where a struct is given by position. -/
theorem isSendOnly_eq_false_iff (value : Value) (h : SendsOnly value) :
    isSendOnly value = false ↔ ∃ item ∈ payloadMessages value, IsPositional item := by
  -- Every item is a message that sends, so only its form can make it fail.
  have hitem : ∀ item ∈ payloadMessages value, isSendCall item = false ↔ IsPositional item := by
    intro item hmem
    constructor
    · intro hfalse
      by_contra hnamed
      rw [isSendCall_of_message item (h.2 item hmem) hnamed] at hfalse
      cases hfalse
    · exact not_isSendCall_of_positional item
  cases value with
  | array items =>
    have hitems : items ≠ [] := h.1
    have hnonempty : items.isEmpty = false := by simpa using hitems
    constructor
    · intro hfalse
      change (!items.isEmpty && items.all isSendCall) = false at hfalse
      rw [hnonempty] at hfalse
      obtain ⟨item, hmem, hcall⟩ := List.all_eq_false.mp hfalse
      exact ⟨item, hmem, (hitem item hmem).mp (Bool.not_eq_true _ ▸ hcall)⟩
    · intro hpositional
      obtain ⟨item, hmem, hcall⟩ := hpositional
      change (!items.isEmpty && items.all isSendCall) = false
      rw [hnonempty]
      apply List.all_eq_false.mpr
      exact ⟨item, hmem, by rw [(hitem item hmem).mpr hcall]; decide⟩
  | object members =>
    have hmem : Value.object members ∈ payloadMessages (.object members) := List.mem_singleton_self _
    constructor
    · intro hfalse
      exact ⟨_, hmem, (hitem _ hmem).mp hfalse⟩
    · intro hpositional
      obtain ⟨item, hitemMem, hcall⟩ := hpositional
      obtain rfl := List.mem_singleton.mp hitemMem
      exact (hitem _ hmem).mpr hcall
  | _ => exact absurd rfl h.1

end Classification

section Dispatch

variable (json : SerdeJson) (schemas : ToolSchemas) (maxAttachmentBytes : ℕ)

/-- Nothing that a program sets off reads a mailbox. -/
def ReadsNothing {α : Type} (p : McpProg α) : Prop := AsksOnly (fun op => op.reads = false) p

theorem runTool_readsNothing {α β : Type} (fromValue : Value → Except Serde.Error α)
    (action : α → McpProg (Except GatewayError β)) (toValue : β → Value) (call : ToolCallParams)
    (id : Value) (haction : ∀ request, ReadsNothing (action request)) :
    ReadsNothing (runTool json fromValue action toValue call id) := by
  unfold runTool
  cases parseArguments json call.name fromValue call.arguments with
  | error resp => exact asksOnly_pure _
  | ok request => exact asksOnly_bind (haction request) fun _ => asksOnly_pure _

theorem dispatchTool_readsNothing (credential : MailboxCredential) (call : ToolCallParams)
    (id : Value) (hname : call.name = "email_send") :
    ReadsNothing (dispatchTool json maxAttachmentBytes credential call id) := by
  unfold dispatchTool
  rw [if_neg (by simp [hname]), if_neg (by simp [hname]), if_pos hname]
  apply runTool_readsNothing
  intro request
  exact asksOnly_call rfl

theorem toolsCall_readsNothing (headers : HeaderMap) (params id : Value)
    (hname : ∀ call, ToolCallParams.fromValue params = .ok call → call.name = "email_send") :
    ReadsNothing (toolsCall json maxAttachmentBytes headers (some params) id) := by
  have hresolve : ReadsNothing (invoke (.resolveCredential headers)) := asksOnly_call rfl
  apply asksOnly_bind hresolve
  intro resolved
  cases resolved with
  | error err => exact asksOnly_pure _
  | ok credential =>
    dsimp only [callWithCredential]
    cases hcall : ToolCallParams.fromValue params with
    | error err => exact asksOnly_pure _
    | ok call =>
      exact dispatchTool_readsNothing json maxAttachmentBytes credential call id (hname call hcall)

/-- A message that the gate takes for a send is dispatched to no other tool. -/
theorem handleOne_readsNothing (headers : HeaderMap) (item : Value) (h : isSendCall item = true) :
    ReadsNothing (handleOne json schemas maxAttachmentBytes headers item) := by
  obtain ⟨members, fields, rfl, hmethod, hparams, hname⟩ := (isSendCall_iff item).mp h
  unfold handleOne
  cases hread : RpcRequest.fromValue (.object members) with
  | error err => exact asksOnly_pure _
  | ok request =>
    obtain ⟨-, hmethod', hparams'⟩ := RpcRequest.fromValue_object members request hread
    -- What the gate looked up by name is what was deserialised.
    have hcall : request.method = "tools/call" := by
      rw [hmethod] at hmethod'
      simpa using hmethod'.symm
    have hfields : request.params = some (.object fields) := by
      rw [hparams', hparams]
      rfl
    dsimp only [handleRequest]
    split_ifs with hversion
    · exact asksOnly_pure _
    · unfold runMethod
      rw [if_neg (by simp [hcall]), if_neg (by simp [hcall]), if_neg (by simp [hcall]),
        if_pos hcall, hfields]
      cases request.id with
      | none => exact asksOnly_pure _
      | some id =>
        apply asksOnly_bind _ fun _ => asksOnly_pure _
        apply toolsCall_readsNothing
        intro call hread'
        have hlookup := ToolCallParams.fromValue_object fields call hread'
        rw [hname] at hlookup
        simpa using hlookup.symm

theorem handleBatch_readsNothing (headers : HeaderMap) (items : List Value)
    (h : ∀ item ∈ items, isSendCall item = true) :
    ReadsNothing (handleBatch json schemas maxAttachmentBytes headers items) := by
  induction items with
  | nil => exact asksOnly_pure _
  | cons item items ih =>
    apply asksOnly_bind (handleOne_readsNothing json schemas maxAttachmentBytes headers item
      (h item (by simp)))
    intro response
    apply asksOnly_bind (ih fun item' hmem => h item' (by simp [hmem]))
    intro responses
    exact asksOnly_pure _

theorem handlePayload_readsNothing (headers : HeaderMap) (value : Value)
    (h : isSendOnly value = true) :
    ReadsNothing (handlePayload json schemas maxAttachmentBytes headers value) := by
  cases value with
  | array items =>
    obtain ⟨hnonempty, hall⟩ := Bool.and_eq_true_iff.mp h
    have hitems : items ≠ [] := by simpa using hnonempty
    rw [handlePayload_array json schemas maxAttachmentBytes headers items hitems]
    exact asksOnly_bind (handleBatch_readsNothing json schemas maxAttachmentBytes headers items
      (List.all_eq_true.mp hall)) fun _ => asksOnly_pure _
  | object members =>
    exact asksOnly_bind (handleOne_readsNothing json schemas maxAttachmentBytes headers _ h)
      fun _ => asksOnly_pure _
  | _ => exact asksOnly_pure _

/-- Only the gate refuses a body for its size once it has been received. -/
theorem handlePayload_status (headers : HeaderMap) (value : Value) (trace : List McpOp)
    (reply : McpReply)
    (h : Runs (handlePayload json schemas maxAttachmentBytes headers value) trace reply) :
    reply.status ≠ 413 := by
  cases value with
  | array items =>
    by_cases hitems : items = []
    · subst hitems
      obtain ⟨-, rfl⟩ := (runs_pure _ _).mp h
      decide
    · rw [handlePayload_array json schemas maxAttachmentBytes headers items hitems] at h
      obtain ⟨_, responses, _, -, hpure, -⟩ := (runs_bind _ _ _).mp h
      obtain ⟨-, rfl⟩ := (runs_pure _ _).mp hpure
      unfold batchReply
      split_ifs with hnone
      · decide
      · change 200 ≠ 413
        decide
  | object members =>
    obtain ⟨_, response, _, -, hpure, -⟩ := (runs_bind _ _ _).mp h
    obtain ⟨-, rfl⟩ := (runs_pure _ _).mp hpure
    cases response with
    | none => decide
    | some r =>
      change 200 ≠ 413
      decide
  | _ =>
    obtain ⟨-, rfl⟩ := (runs_pure _ _).mp h
    decide

end Dispatch

section Gate

variable (json : SerdeJson) (schemas : ToolSchemas) (maxAttachmentBytes : ℕ)
  (headers : HeaderMap) (bytes : List UInt8)

/-- What the gate is for: past the ordinary limit nothing but sends is run, no payload of
sends is refused for its size, and no body within the limit is. -/
structure SizeGateAgrees : Prop where
  reads : DEFAULT_BODY_LIMIT < bytes.length → ∀ trace reply,
    Runs (mcpEndpoint json schemas maxAttachmentBytes headers (.ok bytes)) trace reply →
    ∀ op ∈ trace, op.reads = false
  sends : ∀ value, json.fromSlice bytes = .ok value → SendsOnly value → ∀ trace reply,
    Runs (mcpEndpoint json schemas maxAttachmentBytes headers (.ok bytes)) trace reply →
    reply.status ≠ 413
  within : bytes.length ≤ DEFAULT_BODY_LIMIT → ∀ trace reply,
    Runs (mcpEndpoint json schemas maxAttachmentBytes headers (.ok bytes)) trace reply →
    reply.status ≠ 413

/-- A received body is reported as a parse error, refused by the gate or handled. -/
theorem mcpEndpoint_cases :
    (∃ message, mcpEndpoint json schemas maxAttachmentBytes headers (.ok bytes) =
      pure (parseError message)) ∨
    ∃ value, isJsonContentType headers = true ∧ json.fromSlice bytes = .ok value ∧
      mcpEndpoint json schemas maxAttachmentBytes headers (.ok bytes) =
        if overLimit bytes value then pure (tooLarge overLimitMessage)
        else handlePayload json schemas maxAttachmentBytes headers value := by
  cases hheaders : isJsonContentType headers with
  | false =>
    left
    unfold mcpEndpoint
    dsimp only
    rw [hheaders, if_pos (by decide)]
    exact ⟨_, rfl⟩
  | true =>
    cases hparse : json.fromSlice bytes with
    | error err =>
      left
      unfold mcpEndpoint
      dsimp only
      rw [hheaders, hparse, if_neg (by decide)]
      exact ⟨_, rfl⟩
    | ok value =>
      right
      exact ⟨value, rfl, rfl,
        mcpEndpoint_parsed json schemas maxAttachmentBytes headers bytes value hheaders hparse⟩

theorem overLimit_iff (value : Value) :
    overLimit bytes value = true ↔
      DEFAULT_BODY_LIMIT < bytes.length ∧ isSendOnly value = false := by
  unfold overLimit
  rw [Bool.and_eq_true, decide_eq_true_eq, Bool.not_eq_true']

/-- No read gets past the gate in an oversized body. -/
theorem oversized_reads_nothing (hover : DEFAULT_BODY_LIMIT < bytes.length) :
    ReadsNothing (mcpEndpoint json schemas maxAttachmentBytes headers (.ok bytes)) := by
  obtain ⟨message, heq⟩ | ⟨value, -, -, heq⟩ :=
    mcpEndpoint_cases json schemas maxAttachmentBytes headers bytes
  · rw [heq]
    exact asksOnly_pure _
  · rw [heq]
    by_cases hrefused : overLimit bytes value = true
    · rw [if_pos hrefused]
      exact asksOnly_pure _
    · rw [if_neg hrefused]
      apply handlePayload_readsNothing
      rw [overLimit_iff] at hrefused
      by_contra hsend
      exact hrefused ⟨hover, Bool.not_eq_true _ ▸ hsend⟩

theorem status_of_admitted (trace : List McpOp) (reply : McpReply)
    (hadmitted : ∀ value, isJsonContentType headers = true → json.fromSlice bytes = .ok value →
      overLimit bytes value = false)
    (hrun : Runs (mcpEndpoint json schemas maxAttachmentBytes headers (.ok bytes)) trace reply) :
    reply.status ≠ 413 := by
  obtain ⟨message, heq⟩ | ⟨value, hheaders, hparse, heq⟩ :=
    mcpEndpoint_cases json schemas maxAttachmentBytes headers bytes
  · rw [heq] at hrun
    obtain ⟨-, rfl⟩ := (runs_pure _ _).mp hrun
    change 200 ≠ 413
    decide
  · rw [heq, hadmitted value hheaders hparse] at hrun
    exact handlePayload_status json schemas maxAttachmentBytes headers value trace reply hrun

/-- An oversized payload of sends is refused when a struct in it is given by position. -/
theorem positional_disagrees (value : Value) (hover : DEFAULT_BODY_LIMIT < bytes.length)
    (hheaders : isJsonContentType headers = true) (hparse : json.fromSlice bytes = .ok value)
    (hsends : SendsOnly value) (hitem : ∃ item ∈ payloadMessages value, IsPositional item) :
    ¬SizeGateAgrees json schemas maxAttachmentBytes headers bytes := by
  intro hagrees
  have hrefused : overLimit bytes value = true :=
    (overLimit_iff bytes value).mpr ⟨hover, (isSendOnly_eq_false_iff value hsends).mpr hitem⟩
  have hrun : Runs (mcpEndpoint json schemas maxAttachmentBytes headers (.ok bytes)) []
      (tooLarge overLimitMessage) := by
    rw [mcpEndpoint_parsed json schemas maxAttachmentBytes headers bytes value hheaders hparse,
      if_pos hrefused]
    exact (runs_pure _ _).mpr ⟨rfl, rfl⟩
  exact hagrees.sends value hparse hsends _ _ hrun rfl

/-- The gate and the dispatch disagree on nothing else. -/
theorem size_gate_agrees_iff :
    SizeGateAgrees json schemas maxAttachmentBytes headers bytes ↔
      ¬(DEFAULT_BODY_LIMIT < bytes.length ∧ isJsonContentType headers = true ∧
        ∃ value, json.fromSlice bytes = .ok value ∧ SendsOnly value ∧
          ∃ item ∈ payloadMessages value, IsPositional item) := by
  constructor
  · intro hagrees hpositional
    obtain ⟨hover, hheaders, value, hparse, hsends, hitem⟩ := hpositional
    exact positional_disagrees json schemas maxAttachmentBytes headers bytes value hover hheaders
      hparse hsends hitem hagrees
  · intro hnamed
    refine ⟨?_, ?_, ?_⟩
    · intro hover trace reply hrun
      exact asksOnly_runs
        (oversized_reads_nothing json schemas maxAttachmentBytes headers bytes hover) reply hrun
    · intro value hparse hsends trace reply hrun
      apply status_of_admitted json schemas maxAttachmentBytes headers bytes trace reply _ hrun
      intro value' hheaders hparse'
      obtain rfl : value = value' := Except.ok.inj (hparse.symm.trans hparse')
      rw [← Bool.not_eq_true, overLimit_iff]
      intro hrefused
      exact hnamed ⟨hrefused.1, hheaders, value, hparse, hsends,
        (isSendOnly_eq_false_iff value hsends).mp hrefused.2⟩
    · intro hwithin trace reply hrun
      apply status_of_admitted json schemas maxAttachmentBytes headers bytes trace reply _ hrun
      intro value _ _
      rw [← Bool.not_eq_true, overLimit_iff]
      intro hrefused
      omega

end Gate

section Samples

/-- A send whose params are the fields of the struct in order. -/
def positionalSend (text : String) : Value :=
  .object [("id", sampleId), ("jsonrpc", .string "2.0"), ("method", .string "tools/call"),
    ("params", .array [.string "email_send",
      .object [("from", .string "alice@example.com"), ("subject", .string "report"),
        ("text", .string text), ("to", .string "bob@example.com")]])]

def positionalSendText (text : List UInt8) : List UInt8 :=
  asciiBytes ("\x7b\"id\":1,\"jsonrpc\":\"2.0\",\"method\":\"tools/call\",\"params\":[" ++
    "\"email_send\",\x7b\"from\":\"alice@example.com\",\"subject\":\"report\",\"text\":\"") ++
    text ++ asciiBytes "\",\"to\":\"bob@example.com\"\x7d]\x7d"

theorem positionalSend_isSend (text : String) : IsSendMessage (positionalSend text) :=
  ⟨_, _, _, rfl, rfl, rfl, rfl, rfl⟩

theorem positionalSend_disagrees (text : String) (bytes : List UInt8)
    (h : DEFAULT_BODY_LIMIT < bytes.length) :
    ¬SizeGateAgrees (oneText (positionalSendText bytes) (positionalSend text)) noSchemas 0
      jsonHeaders (positionalSendText bytes) := by
  apply positional_disagrees _ _ _ _ _ (positionalSend text)
  · unfold positionalSendText
    rw [List.length_append, List.length_append]
    omega
  · decide
  · exact fromSlice_oneText _ _
  · refine ⟨List.cons_ne_nil _ _, ?_⟩
    intro item hitem
    obtain rfl := List.mem_singleton.mp hitem
    exact positionalSend_isSend text
  · exact ⟨_, List.mem_singleton_self _, .inr ⟨_, rfl, rfl⟩⟩

/-- A send with a text of just over two megabytes, refused because it is given by position. -/
theorem oversized_positional_send_refused :
    ¬SizeGateAgrees
      (oneText (positionalSendText (List.replicate (DEFAULT_BODY_LIMIT + 1) 97))
        (positionalSend (String.ofList (List.replicate (DEFAULT_BODY_LIMIT + 1) 'a'))))
      noSchemas 0 jsonHeaders
      (positionalSendText (List.replicate (DEFAULT_BODY_LIMIT + 1) 97)) := by
  apply positionalSend_disagrees
  rw [List.length_replicate]
  exact Nat.lt_succ_self _

end Samples

end Overfwd
