import Overfwd.Deliveries
import Overfwd.GatewayReads

namespace Overfwd

open Text Outcome Dialogue Serde

section Parts

/-- What is known to be selected is so whatever was selected before. -/
theorem selects_known (session : ImapSession) (q : ImapOp) (x : q.Answer) (known : Option String)
    (mailbox : String) (h : q.selects session none x = some mailbox) :
    q.selects session known x = some mailbox := by
  cases q with
  | select session' mailbox' =>
    cases x with
    | ok _ =>
      change (if session' = session then some mailbox' else none) = some mailbox at h
      change (if session' = session then some mailbox' else known) = some mailbox
      split_ifs at h ⊢
      exact h
    | error e =>
      change (if session' = session then none else none) = some mailbox at h
      rw [ite_self] at h
      cases h
  | uidSearch session' query =>
    change (if session' = session ∧ ¬OneCommand query then none else none) = some mailbox at h
    rw [ite_self] at h
    cases h
  | _ => cases h

theorem selectedIn_append (session : ImapSession) (earlier h : ImapHistory) (mailbox : String)
    (hselected : selectedIn session h = some mailbox) :
    selectedIn session (earlier ++ h) = some mailbox := by
  unfold selectedIn at hselected ⊢
  rw [after_append]
  -- Whatever was selected before: what settles it in `h` settles it for both.
  generalize after _ none earlier = known
  induction h generalizing known with
  | nil => cases hselected
  | cons e h ih =>
    change after _ (e.1.selects session none e.2) h = some mailbox at hselected
    change after _ (e.1.selects session known e.2) h = some mailbox
    cases hknown : e.1.selects session none e.2 with
    | none => exact ih (hknown ▸ hselected) _
    | some mailbox' =>
      rw [selects_known session e.1 e.2 known mailbox' hknown, ← hknown]
      exact hselected

/-- What was provided in a conversation was provided in each part of it. -/
theorem providedBy_append (complete : Set HostPort) (worlds : Set Mailboxes) (h₁ h₂ : ImapHistory)
    (hprovided : ProvidedBy complete worlds (h₁ ++ h₂)) :
    ProvidedBy complete worlds h₁ ∧ ProvidedBy complete worlds h₂ := by
  constructor
  · rintro before e later rfl
    exact hprovided before e (later ++ h₂) (by simp)
  · rintro before ⟨q, x⟩ later rfl
    have htold := hprovided (h₁ ++ before) ⟨q, x⟩ later (List.append_assoc _ _ _).symm
    cases q with
    | uidSearch session query =>
      intro found hfound hone mailbox hselected
      exact htold found hfound hone mailbox (selectedIn_append session h₁ before mailbox hselected)
    | uidFetch session set items =>
      intro reply hreply hitems mailbox hselected
      exact htold reply hreply hitems mailbox (selectedIn_append session h₁ before mailbox hselected)
    | _ => exact htold

end Parts

section Calls

variable {Address : Type} (crates : Crates Address) (env : Env) (state : AppState)
  (complete : Set HostPort) (worlds : Set Mailboxes) (headers : HeaderMap)

/-- What the outcome of an action tells is so: it is what a REST reply with it would tell. -/
def Action.Told (H : NetHistory Address) : Action → Except GatewayError Value → Prop
  | .search request, outcome =>
    (GatedRequest.search (.ok request)).Tells crates complete worlds headers
      (Routes.outcomeReply outcome)
  | .get request, outcome =>
    (GatedRequest.get (.ok request)).Tells crates complete worlds headers
      (Routes.outcomeReply outcome)
  | .send request, outcome =>
    (∃ payload, outcome = .ok payload) ∧ SentOnce crates env state headers (.ok request) (smtpPart H)
        (Routes.outcomeReply outcome) ∨
      ∃ e, outcome = .error e ∧
        (smtpPart H = [] ∨ Unacknowledged crates env state headers (.ok request) (smtpPart H) e)

theorem action_told (cred : MailboxCredential) (action : Action)
    (x : (action.op state.config.maxAttachmentBytes cred).Answer) (H : NetHistory Address)
    (hlayered : Layered (answerMcp crates env state) [⟨.resolveCredential headers, .ok cred⟩,
      ⟨action.op state.config.maxAttachmentBytes cred, x⟩] H)
    (hprovided : ProvidedBy complete worlds (imapPart H)) :
    action.Told crates env state complete worlds headers H
      (action.outcome state.config.maxAttachmentBytes cred x) := by
  cases action with
  | search request =>
    have hruns : Plays (Routes.search headers (.ok request)).run
        [⟨.resolveCredential headers, .ok cred⟩, ⟨.search cred request, x⟩] x :=
      .ask _ _ _ _ _ (.ask _ _ _ _ _ (.ret x))
    have htells := search_tells crates env state complete worlds headers _ _ H hlayered hprovided
      request ((plays_map _ _ _).mpr ⟨x, hruns, rfl⟩)
    rw [Routes.respond_eq SearchResponse.toValue x] at htells
    exact htells
  | get request =>
    have hruns : Plays (Routes.get headers (.ok request)).run
        [⟨.resolveCredential headers, .ok cred⟩, ⟨.get cred request, x⟩] x :=
      .ask _ _ _ _ _ (.ask _ _ _ _ _ (.ret x))
    have htells := get_tells crates env state complete worlds headers _ _ H hlayered hprovided request
      ((plays_map _ _ _).mpr ⟨x, hruns, rfl⟩)
    rw [Routes.respond_eq FullMessage.toValue x] at htells
    exact htells
  | send request =>
    have hruns : Plays (Routes.send state.config.maxAttachmentBytes headers (.ok request)).run
        [⟨.resolveCredential headers, .ok cred⟩, ⟨.send cred request
          (.withMaxTotalBytes state.config.maxAttachmentBytes), x⟩] x :=
      .ask _ _ _ _ _ (.ask _ _ _ _ _ (.ret x))
    rcases send_handler_tells crates env state headers (.ok request) _ H x hruns hlayered with
      ⟨⟨response, rfl⟩, hsent⟩ | ⟨e, rfl, hfailed⟩
    · exact .inl ⟨⟨_, rfl⟩, hsent⟩
    · exact .inr ⟨e, rfl, hfailed⟩

/-- Nothing was read and nothing handed over. -/
def Untouched (H : NetHistory Address) : Prop := imapPart H = [] ∧ smtpPart H = []

theorem untouched_of_passive (h : McpHistory) (H : NetHistory Address)
    (hlayered : Layered (answerMcp crates env state) h H) (hpassive : ∀ e ∈ h, e.1.isAction = false) :
    Untouched H := by
  induction hlayered with
  | nil => exact ⟨rfl, rfl⟩
  | cons q x h H₁ H₂ hq _ ih =>
    obtain ⟨himap, hsmtp⟩ := ih fun e he => hpassive e (List.mem_cons_of_mem _ he)
    have hresolves := hpassive ⟨q, x⟩ List.mem_cons_self
    cases q with
    | resolveCredential headers =>
      unfold Untouched
      rw [imapPart_append, smtpPart_append, himap, hsmtp,
        imapPart_credential crates state headers H₁ x hq,
        smtpPart_credential crates state headers H₁ x hq]
      exact ⟨rfl, rfl⟩
    | _ => cases hresolves

/-- What a message has set off and what it was answered: a call for which there is no credential
touches nothing, any other is told its outcome, and what is no call touches nothing. -/
structure MessageTold (item : Value) (H : NetHistory Address) (response : Option RpcResponse) :
    Prop where
  called : ∀ id action, CallsFor item id action →
    (∃ err, response = some (gatewayProtocolError id err) ∧ Untouched H) ∨
      ∃ outcome, response = some (okResponse id (toolReport crates.json outcome)) ∧
        action.Told crates env state complete worlds headers H outcome
  passive : (∀ id action, ¬CallsFor item id action) → Untouched H

theorem message_told (item : Value) (H : NetHistory Address) (response : Option RpcResponse)
    (hplays : Plays (netMessage crates env state headers item) H response)
    (hprovided : ProvidedBy complete worlds (imapPart H)) :
    MessageTold crates env state complete worlds headers item H response := by
  obtain ⟨h, hone, hlayered⟩ := (plays_handle _ _ _).mp hplays
  constructor
  · intro id action hcalls
    rcases callsFor_plays crates.json crates.schemas _ headers item id action hcalls response
      hone with ⟨err, rfl, hresponse⟩ | ⟨cred, x, rfl, hresponse⟩
    · refine .inl ⟨err, hresponse, untouched_of_passive crates env state _ H hlayered ?_⟩
      intro e he
      obtain rfl := List.mem_singleton.mp he
      rfl
    · exact .inr ⟨_, hresponse, action_told crates env state complete worlds headers cred action x H
        hlayered hprovided⟩
  · intro hnone
    exact untouched_of_passive crates env state h H hlayered
      (passive_plays crates.json crates.schemas _ headers item hnone response hone)

/-- The messages one after the other, each with its own part of what was exchanged. -/
theorem messages_told (items : List Value) (parts : List (NetHistory Address × Option RpcResponse))
    (hparts : List.Forall₂ (fun item o => Plays (netMessage crates env state headers item) o.1 o.2)
      items parts)
    (hprovided : ProvidedBy complete worlds (imapPart (parts.flatMap Prod.fst))) :
    List.Forall₂ (fun item o => MessageTold crates env state complete worlds headers item o.1 o.2)
      items parts := by
  induction hparts with
  | nil => exact .nil
  | @cons item part items parts hplays _ ih =>
    -- Every message selects its mailbox anew, so each part is judged by itself.
    rw [List.flatMap_cons, imapPart_append] at hprovided
    obtain ⟨hown, hrest⟩ := providedBy_append complete worlds _ _ hprovided
    exact .cons (message_told crates env state complete worlds headers item part.1 part.2 hplays hown)
      (ih hrest)

end Calls

/-- A call of `email_get` and a notification, under Alice's credential. -/
def getCallIncoming : Incoming where
  headers := ⟨("content-type", bytes "application/json") :: aliceHeaders.entries⟩
  request := .mcp (.ok getCallText)

def getCallCrates : Crates String :=
  { plainCrates with json := oneText getCallText getCallPayload }

def GatewayReply.isMcp : GatewayReply → Bool
  | .mcp _ => true
  | .rest _ => false

end Overfwd
