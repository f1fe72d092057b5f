import Overfwd.Faults
import Overfwd.McpTells

namespace Overfwd

open Text Outcome Dialogue Serde

section Messages

variable {Address : Type} (crates : Crates Address) (env : Env) (state : AppState)
  (headers : HeaderMap)

/-- What a response says of the faults of its own message. A call is told the one that has kept
it from a credential, or reports the one of its action, and after it nothing is risked; another
message may be told the one of its credential, and has no other. -/
structure MessageNames (item : Value) (H : NetHistory Address) (response : Option RpcResponse) :
    Prop where
  called : ∀ id action, CallsFor item id action →
    QuietAfter (NetOp.fault? action.tool.needsMessage) H ∧
      ((∃ e, response = some (gatewayProtocolError id e) ∧
          Blamed GatewayError.Tells (CredentialFault state headers)
            (.error e : Except GatewayError Value)
            (faults (NetOp.fault? action.tool.needsMessage) H)) ∨
        ∃ outcome, response = some (okResponse id (toolReport crates.json outcome)) ∧
          Blamed GatewayError.Tells (ActionFault crates env state headers action) outcome
            (faults (NetOp.fault? action.tool.needsMessage) H))
  passive : (∀ id action, ¬CallsFor item id action) → ∀ needed,
    faults (NetOp.fault? needed) H = [] ∨ ∃ id e fault,
      response = some (gatewayProtocolError id e) ∧ faults (NetOp.fault? needed) H = [fault] ∧
        e.Tells fault

/-- A call and the faults of any run of it. -/
theorem called_names (item id : Value) (action : Action) (hcalls : CallsFor item id action)
    (H : NetHistory Address) (response : Option RpcResponse)
    (hplays : Plays (netMessage crates env state headers item) H response) :
    (∃ e, response = some (gatewayProtocolError id e) ∧
        Blamed GatewayError.Tells (CredentialFault state headers)
          (.error e : Except GatewayError Value)
          (faults (NetOp.fault? action.tool.needsMessage) H)) ∨
      ∃ outcome, response = some (okResponse id (toolReport crates.json outcome)) ∧
        Blamed GatewayError.Tells (ActionFault crates env state headers action) outcome
          (faults (NetOp.fault? action.tool.needsMessage) H) := by
  obtain ⟨h, hmessage, hlayered⟩ := (plays_handle _ _ _).mp hplays
  rcases callsFor_plays crates.json crates.schemas _ headers item id action hcalls response
    hmessage with ⟨e, rfl, hresponse⟩ | ⟨cred, x, rfl, hresponse⟩
  · have hfailed := (layered_one (McpOp.resolveCredential headers) _ _).mp hlayered
    exact .inl ⟨e, hresponse, netCredential_blamed state headers crates _ H _ hfailed⟩
  · exact .inr ⟨_, hresponse, acted_blamed crates env state headers cred action x H hlayered⟩

theorem called_single (item id : Value) (action : Action) (hcalls : CallsFor item id action)
    (H : NetHistory Address) (response : Option RpcResponse)
    (hplays : Plays (netMessage crates env state headers item) H response) :
    (faults (NetOp.fault? action.tool.needsMessage) H).length ≤ 1 := by
  rcases called_names crates env state headers item id action hcalls H response hplays with
    ⟨e, -, hblamed⟩ | ⟨outcome, -, hblamed⟩
  · exact blamed_single hblamed
  · exact blamed_single hblamed

theorem message_names (item : Value) (H : NetHistory Address) (response : Option RpcResponse)
    (hplays : Plays (netMessage crates env state headers item) H response) :
    MessageNames crates env state headers item H response := by
  constructor
  · intro id action hcalls
    exact ⟨quiet_of_single plainAnswer
      (called_single crates env state headers item id action hcalls) hplays,
      called_names crates env state headers item id action hcalls H response hplays⟩
  · intro hnone needed
    obtain ⟨h, hmessage, hlayered⟩ := (plays_handle _ _ _).mp hplays
    rcases handleOne_plays crates.json crates.schemas _ headers item response hmessage with
      rfl | ⟨id, params, r, hcall, rfl, hcalled⟩
    · rw [(layered_nil H).mp hlayered]
      exact .inl rfl
    · rcases toolsCall_plays crates.json _ headers params id r hcalled with
        ⟨e, rfl, rfl⟩ | ⟨cred, message, rfl, rfl⟩ | ⟨cred, action, arguments, x, hnames, hread, -, -⟩
      · have hfailed := (layered_one (McpOp.resolveCredential headers) _ _).mp hlayered
        rcases netCredential_blamed state headers crates needed H _ hfailed with
          ⟨fault, hone, htells⟩ | ⟨hempty, -⟩
        · exact .inr ⟨id, e, fault, rfl, hone, htells⟩
        · exact .inl hempty
      · have hresolved := (layered_one (McpOp.resolveCredential headers) _ _).mp hlayered
        exact .inl (netCredential_blamed state headers crates needed H _ hresolved)
      · exact absurd ⟨params, arguments, hcall, hnames, hread⟩ (hnone id action)

end Messages

end Overfwd
