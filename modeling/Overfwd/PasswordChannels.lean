import Overfwd.Lib.Renaming
import Overfwd.PasswordSecrecy
import Overfwd.ReadOperation
import Overfwd.Visits

namespace Overfwd

open Text Outcome Dialogue Serde

/-- A login with another password. -/
def ImapOp.withPassword (password : String) : ImapOp → ImapOp
  | .login client username _ => .login client username password
  | q => q

/-- A submission with another password. -/
def SendOp.withPassword {Address : Type} (password : String) : SendOp Address → SendOp Address
  | .sendRaw mailer envelope raw => .sendRaw { mailer with password := password } envelope raw
  | .info audit => .info audit

/-- The same question with another password where it has one. -/
def NetOp.withPassword {Address : Type} (password : String) : NetOp Address → NetOp Address
  | .imap q => .imap (q.withPassword password)
  | .smtp q => .smtp (q.withPassword password)
  | q => q

section Passwords

variable (password : String)

def imapPasswords : Renaming ImapOp ImapOp ImapOp.Answer ImapOp.Answer :=
  .relabel (ImapOp.withPassword password) fun q => by
    cases q with
    | _ => rfl

def sendPasswords (Address : Type) :
    Renaming (SendOp Address) (SendOp Address) SendOp.Answer SendOp.Answer :=
  .relabel (SendOp.withPassword password) fun q => by
    cases q with
    | _ => rfl

/-- What is exchanged with another password. -/
def netPasswords (Address : Type) :
    Renaming (NetOp Address) (NetOp Address) NetOp.Answer NetOp.Answer :=
  .relabel (NetOp.withPassword password) fun q => by
    cases q with
    | imap q =>
      cases q with
      | _ => rfl
    | smtp q =>
      cases q with
      | _ => rfl
    | _ => rfl

/-- Everything but a login. -/
def ImapOp.HasNoPassword : ImapOp → Prop
  | .login _ _ _ => False
  | _ => True

theorem imapPasswords_fixes (q : ImapOp) (h : q.HasNoPassword) : (imapPasswords password).Fixes q := by
  apply Renaming.relabel_fixes
  cases q with
  | login client username password' => exact h.elim
  | _ => rfl

end Passwords

section Reading

variable (password : String) (cred : MailboxCredential) (settings : ImapSettings)

theorem connect_hasNoPassword (target : HostPort) (tls : TlsMode) (insecure : Bool) :
    AsksOnly ImapOp.HasNoPassword (ExceptT.run (connect target tls insecure)) := by
  apply asksOnly_fallible_bind (asksOnly_attempt _ (asksOnly_call trivial))
  intro tcp
  apply asksOnly_fallible_bind
  · cases tls with
    | plain => exact asksOnly_pure _
    | implicitTls =>
      apply asksOnly_fallible_bind (asksOnly_attempt _ (asksOnly_call trivial))
      exact fun stream => asksOnly_pure _
  · intro stream
    refine asksOnly_fallible_bind ?_ fun _ => asksOnly_pure _
    apply asksOnly_fallible_bind (asksOnly_lift (asksOnly_call trivial))
    intro response
    exact asksOnly_fallible_bind (asksOnly_except _) fun greeting => asksOnly_except _

theorem renames_connectAndLogin :
    Renames (imapPasswords password) (Except.map id) (ExceptT.run (connectAndLogin cred settings))
      (ExceptT.run (connectAndLogin (cred.withPassword password) settings)) := by
  refine renames_fallible_bind (renames_self_fallible (connect_hasNoPassword _ _ _)
    (imapPasswords_fixes password)) fun client => ?_
  have hlogin : Renames (imapPasswords password) id
      (ask (.login client cred.username cred.password))
      (ask (.login client cred.username password)) :=
    renames_call (ImapOp.login client cred.username cred.password) trivial
  rw [← Except.map_id] at hlogin
  exact renames_attempt _ hlogin

theorem hasNoPassword_of_read (session : ImapSession) (q : ImapOp) (h : q.IsReadOn session) :
    q.HasNoPassword := by
  cases q with
  | login client username password' => exact h.elim
  | _ => trivial

/-- Past the login nothing has a password. -/
theorem renames_onFreshSession {α : Type} (operation : ImapSession → ImapAction α)
    (hoperation : ∀ session,
      AsksOnly (ImapOp.IsReadOn session) (ExceptT.run (operation session))) :
    Renames (imapPasswords password) (Except.map id)
      (ExceptT.run (onFreshSession cred settings operation))
      (ExceptT.run (onFreshSession (cred.withPassword password) settings operation)) := by
  refine renames_fallible_bind (renames_connectAndLogin password cred settings) fun session => ?_
  refine renames_self_fallible ?_ (imapPasswords_fixes password)
  apply asksOnly_fallible_bind
  · exact asksOnly_lift (asksOnly_mono (hoperation session) (hasNoPassword_of_read session))
  · intro result
    apply asksOnly_fallible_bind (asksOnly_lift (asksOnly_call trivial))
    exact fun _ => asksOnly_except result

theorem renames_doSearch (parse : MailParser) (esc : UnicodeEscapes) (request : SearchRequest) :
    Renames (imapPasswords password) (Except.map id)
      (ExceptT.run (doSearch parse esc settings cred request))
      (ExceptT.run (doSearch parse esc settings (cred.withPassword password) request)) := by
  refine renames_except_bind _ fun key _ => ?_
  refine renames_fallible_bind ?_ fun found =>
    renames_self_fallible (asksOnly_pure _) (imapPasswords_fixes password)
  exact renames_onFreshSession password cred settings _ fun session => searchOn_asks session _ _ _ _

theorem renames_doGet (parse : MailParser) (request : GetRequest) :
    Renames (imapPasswords password) (Except.map id)
      (ExceptT.run (doGet parse settings cred request))
      (ExceptT.run (doGet parse settings (cred.withPassword password) request)) :=
  renames_onFreshSession password cred settings _ fun session => getOn_asks session _ _ _

end Reading

section Sending

variable {Address : Type} (password : String) (lettre : Lettre Address) (builder : MailBuilder)
  (tlsInsecure : Option String) (cred : MailboxCredential)

def SmtpTransport.withPassword (mailer : SmtpTransport) : SmtpTransport :=
  { mailer with password := password }

/-- The password is put into the transport and decides nothing. -/
theorem buildTransport_withPassword (smtp : HostPort) (username password₀ : String)
    (security : SmtpSecurity) :
    buildTransport lettre smtp username password security =
      SmtpTransport.withPassword password <$>
        buildTransport lettre smtp username password₀ security := by
  cases security with
  | plaintext => rfl
  | implicitTls insecure =>
    unfold buildTransport
    dsimp only
    cases lettre.buildTls ⟨smtp.host, insecure, insecure⟩ with
    | error e => rfl
    | ok _ => rfl

theorem renames_submit (stamp : MimeStamp) (message : OutgoingMessage) (security : SmtpSecurity) :
    Renames (sendPasswords password Address) (Except.map id)
      (ExceptT.run (submit lettre builder stamp cred.smtp cred.username cred.password security message))
      (ExceptT.run (submit lettre builder stamp cred.smtp cred.username password security message)) := by
  refine renames_except_bind _ fun envelope _ => ?_
  refine renames_except_bind _ fun raw _ => ?_
  rw [buildTransport_withPassword password lettre cred.smtp cred.username cred.password security]
  refine renames_fallible_bind (renames_except _ _) fun mailer => ?_
  have hsend : Renames (sendPasswords password Address) id
      (call (SendOp.sendRaw mailer envelope raw))
      (call (SendOp.sendRaw (mailer.withPassword password) envelope raw)) :=
    renames_call (SendOp.sendRaw mailer envelope raw) trivial
  rw [← Except.map_id] at hsend
  exact renames_attempt _ hsend

theorem renames_doSend (stamp : MimeStamp) (request : SendRequest) (limits : AttachmentLimits) :
    Renames (sendPasswords password Address) (Except.map id)
      (ExceptT.run (doSend lettre builder tlsInsecure stamp cred request limits))
      (ExceptT.run (doSend lettre builder tlsInsecure stamp (cred.withPassword password) request
        limits)) := by
  refine renames_except_bind _ fun message _ => ?_
  refine renames_fallible_bind (renames_submit password lettre builder cred stamp message _)
    fun _ => ?_
  have hinfo : AsksOnly (fun q : SendOp Address => ∃ audit, q = .info audit)
      (ExceptT.run (do
        liftM (call (SendOp.info (SendDisclosure.forMessage message).audit) :
          Prog (SendOp Address) SendOp.Answer Unit)
        pure (SendResponse.accepted (.forMessage message)) : SendProg Address SendResponse)) :=
    asksOnly_fallible_bind (asksOnly_lift (asksOnly_call ⟨_, rfl⟩)) fun _ => asksOnly_pure _
  refine renames_self_fallible hinfo ?_
  rintro q ⟨audit, rfl⟩
  exact Renaming.relabel_fixes _ _ _ rfl

end Sending

section Handlers

variable (headers headers' : HeaderMap) (password : String)

/-- The same question of a handler for the second request: about its headers, and with its
password in the credential. -/
def McpOp.withPassword : McpOp → McpOp
  | .resolveCredential _ => .resolveCredential headers'
  | .search cred request => .search (cred.withPassword password) request
  | .get cred request => .get (cred.withPassword password) request
  | .send cred request limits => .send (cred.withPassword password) request limits

/-- The handlers ask about the headers of their own request only. -/
def mcpPasswords : Renaming McpOp McpOp McpOp.Answer McpOp.Answer where
  named q := ∀ h, q = .resolveCredential h → h = headers
  op := McpOp.withPassword headers' password
  answer
    | .resolveCredential _, x => x.map (MailboxCredential.withPassword password)
    | .search _ _, x => x
    | .get _ _, x => x
    | .send _ _ _, x => x

theorem renames_resolveCredential :
    Renames (mcpPasswords headers headers' password)
      (Except.map (MailboxCredential.withPassword password))
      (invoke (.resolveCredential headers)) (invoke (.resolveCredential headers')) :=
  renames_call (McpOp.resolveCredential headers) fun _ h => (McpOp.resolveCredential.inj h).symm

/-- An action is invoked with the other credential and its outcome is taken as it is. -/
theorem renames_invoke (maxAttachmentBytes : ℕ) (cred : MailboxCredential) (action : Action) :
    Renames (mcpPasswords headers headers' password)
      ((mcpPasswords headers headers' password).answer (action.op maxAttachmentBytes cred))
      (invoke (action.op maxAttachmentBytes cred))
      (invoke (McpOp.withPassword headers' password (action.op maxAttachmentBytes cred))) := by
  apply renames_call
  cases action with
  | _ => exact fun h hq => nomatch hq

section Rest

variable {α β : Type} (act : MailboxCredential → α → RestProg β)
  (hact : ∀ cred request, Renames (mcpPasswords headers headers' password) (Except.map id)
    (ExceptT.run (act cred request)) (ExceptT.run (act (cred.withPassword password) request)))

include hact

theorem renames_credential_first (body : Except GatewayError α) :
    Renames (mcpPasswords headers headers' password) (Except.map id)
      (ExceptT.run (do
        let credential ← Routes.resolveCredential headers
        let request ← (liftM body : RestProg α)
        act credential request))
      (ExceptT.run (do
        let credential ← Routes.resolveCredential headers'
        let request ← (liftM body : RestProg α)
        act credential request)) := by
  refine renames_fallible_bind (renames_resolveCredential headers headers' password) fun cred => ?_
  exact renames_except_bind _ fun request _ => hact cred request

theorem renames_body_first (body : Except GatewayError α) :
    Renames (mcpPasswords headers headers' password) (Except.map id)
      (ExceptT.run (do
        let request ← (liftM body : RestProg α)
        let credential ← Routes.resolveCredential headers
        act credential request))
      (ExceptT.run (do
        let request ← (liftM body : RestProg α)
        let credential ← Routes.resolveCredential headers'
        act credential request)) := by
  refine renames_except_bind _ fun request _ => ?_
  refine renames_fallible_bind (renames_resolveCredential headers headers' password) fun cred => ?_
  exact hact cred request

end Rest

section Messages

variable (json : SerdeJson) (schemas : ToolSchemas) (maxAttachmentBytes : ℕ)

theorem renames_runTool {α β : Type} (fromValue : Value → Except Serde.Error α)
    (op op' : α → McpProg (Except GatewayError β)) (toValue : β → Value) (call : ToolCallParams)
    (id' : Value)
    (hop : ∀ request, Renames (mcpPasswords headers headers' password) id (op request) (op' request)) :
    Renames (mcpPasswords headers headers' password) id
      (runTool json fromValue op toValue call id') (runTool json fromValue op' toValue call id') := by
  unfold runTool
  cases parseArguments json call.name fromValue call.arguments with
  | error message => exact .ret _
  | ok request => exact renames_bind (hop request) fun outcome => .ret _

theorem renames_callWithCredential (cred : MailboxCredential) (params : Option Value) (id' : Value) :
    Renames (mcpPasswords headers headers' password) id
      (callWithCredential json maxAttachmentBytes cred params id')
      (callWithCredential json maxAttachmentBytes (cred.withPassword password) params id') := by
  have hinvoke (action : Action) := renames_invoke headers headers' password maxAttachmentBytes cred
    action
  unfold callWithCredential
  cases params with
  | none => exact .ret _
  | some params =>
    dsimp only
    cases ToolCallParams.fromValue params with
    | error err => exact .ret _
    | ok call =>
      dsimp only
      unfold dispatchTool
      split_ifs
      · exact renames_runTool _ _ _ json _ _ _ _ _ _ fun request => hinvoke (.search request)
      · exact renames_runTool _ _ _ json _ _ _ _ _ _ fun request => hinvoke (.get request)
      · exact renames_runTool _ _ _ json _ _ _ _ _ _ fun request => hinvoke (.send request)
      · exact .ret _

theorem renames_runMethod (request : RpcRequest) :
    Renames (mcpPasswords headers headers' password) id
      (runMethod json schemas maxAttachmentBytes headers request)
      (runMethod json schemas maxAttachmentBytes headers' request) := by
  unfold runMethod
  split_ifs
  · exact .ret _
  · exact .ret _
  · exact .ret _
  · cases request.id with
    | none => exact .ret _
    | some id' =>
      dsimp only
      refine renames_bind (f := id) ?_ fun response => .ret _
      refine renames_bind (renames_resolveCredential headers headers' password) fun resolved => ?_
      cases resolved with
      | error err => exact .ret _
      | ok cred => exact renames_callWithCredential headers headers' password json _ cred _ id'
  · exact .ret _
  · exact .ret _

theorem renames_handleOne (value : Value) :
    Renames (mcpPasswords headers headers' password) id
      (handleOne json schemas maxAttachmentBytes headers value)
      (handleOne json schemas maxAttachmentBytes headers' value) := by
  unfold handleOne
  cases RpcRequest.fromValue value with
  | error err => exact .ret _
  | ok request =>
    dsimp only
    unfold handleRequest
    split_ifs
    · exact .ret _
    · exact renames_runMethod headers headers' password json schemas maxAttachmentBytes request

theorem renames_handleBatch (items : List Value) :
    Renames (mcpPasswords headers headers' password) id
      (handleBatch json schemas maxAttachmentBytes headers items)
      (handleBatch json schemas maxAttachmentBytes headers' items) := by
  induction items with
  | nil => exact .ret _
  | cons item items ih =>
    refine renames_bind (renames_handleOne headers headers' password json schemas _ item)
      fun response => ?_
    exact renames_bind ih fun responses => .ret _

theorem renames_handlePayload (value : Value) :
    Renames (mcpPasswords headers headers' password) id
      (handlePayload json schemas maxAttachmentBytes headers value)
      (handlePayload json schemas maxAttachmentBytes headers' value) := by
  unfold handlePayload
  cases value with
  | array items =>
    dsimp only
    split_ifs
    · exact .ret _
    · exact renames_bind (renames_handleBatch headers headers' password json schemas _ items)
        fun responses => .ret _
  | object members =>
    exact renames_bind (renames_handleOne headers headers' password json schemas _ _)
      fun response => .ret _
  | _ => exact .ret _

end Messages

/-- A header that both requests have alike. -/
theorem lookup_same {headers headers' : HeaderMap} (hsame : SameBesidesAuth headers headers')
    (name : String) (hname : name ≠ toAsciiLowercase H_MAILBOX_AUTH) :
    headers'.entries.lookup name = headers.entries.lookup name := (hsame name hname).symm

theorem renames_handler (json : SerdeJson) (schemas : ToolSchemas) (config : GatewayConfig)
    (hsame : SameBesidesAuth headers headers') (request : GatedRequest) :
    Renames (mcpPasswords headers headers' password) id
      (request.handler json schemas config headers)
      (request.handler json schemas config headers') := by
  have hinvoke (cred : MailboxCredential) (action : Action) :=
    renames_invoke headers headers' password config.maxAttachmentBytes cred action
  cases request with
  | search body =>
    refine renames_map (renames_credential_first headers headers' password _ (fun cred request => ?_)
      _) fun r => congrArg _ (congrArg _ (congrFun Except.map_id r))
    rw [Except.map_id]
    exact hinvoke cred (.search request)
  | get body =>
    refine renames_map (renames_credential_first headers headers' password _ (fun cred request => ?_)
      _) fun r => congrArg _ (congrArg _ (congrFun Except.map_id r))
    rw [Except.map_id]
    exact hinvoke cred (.get request)
  | send body =>
    refine renames_map (renames_body_first headers headers' password _ (fun cred request => ?_)
      _) fun r => congrArg _ (congrArg _ (congrFun Except.map_id r))
    rw [Except.map_id]
    exact hinvoke cred (.send request)
  | mcp body =>
    refine renames_map (f := id) ?_ fun r => rfl
    unfold mcpEndpoint
    cases body with
    | error err =>
      dsimp only
      split_ifs
      · exact .ret _
      · exact .ret _
    | ok bytes =>
      have hcontent : isJsonContentType headers' = isJsonContentType headers := by
        unfold isJsonContentType
        rw [lookup_same hsame "content-type" (by decide)]
      rw [hcontent]
      dsimp only
      split_ifs
      · exact .ret _
      · cases json.fromSlice bytes with
        | error err => exact .ret _
        | ok value =>
          dsimp only
          split_ifs
          · exact .ret _
          · exact renames_handlePayload headers headers' password json schemas _ value

end Handlers

section Requests

variable {Address : Type} (crates : Crates Address) (env : Env) (state : AppState)
  (password' : String)

theorem renames_netSearch (cred : MailboxCredential) (request : SearchRequest) :
    Renames (netPasswords password' Address) (Except.map id) (netSearch crates env cred request)
      (netSearch crates env (cred.withPassword password') request) :=
  renames_handle (renames_doSearch password' cred _ _ _ request) fun q _ =>
    renames_call (NetOp.imap q) trivial

theorem renames_netGet (cred : MailboxCredential) (request : GetRequest) :
    Renames (netPasswords password' Address) (Except.map id) (netGet crates env cred request)
      (netGet crates env (cred.withPassword password') request) :=
  renames_handle (renames_doGet password' cred _ _ request) fun q _ =>
    renames_call (NetOp.imap q) trivial

theorem renames_netSend (cred : MailboxCredential) (request : SendRequest)
    (limits : AttachmentLimits) :
    Renames (netPasswords password' Address) (Except.map id)
      (netSend crates env cred request limits)
      (netSend crates env (cred.withPassword password') request limits) := by
  refine renames_bind (renames_call NetOp.stamp trivial) fun stamp => ?_
  exact renames_handle (renames_doSend password' _ _ _ cred stamp request limits) fun q _ =>
    renames_call (NetOp.smtp q) trivial

variable {headers headers' : HeaderMap} (hsame : SameBesidesAuth headers headers')
  (user password : String) (hauth : mailboxAuth headers = .ok (user, password))
  (hauth' : mailboxAuth headers' = .ok (user, password'))

include hsame hauth hauth' in
/-- Reading the credential is the same for both, up to the password it ends with. -/
theorem renames_netCredential :
    Renames (netPasswords password' Address) (Except.map (MailboxCredential.withPassword password'))
      (netCredential crates state headers) (netCredential crates state headers') := by
  unfold netCredential
  rw [requestCredential_withPassword crates.xml state.autoconfig.settings state.autoconfig.enabled
    state.endpoints.enabled hsame user password password' hauth hauth', ExceptT.run_map, handle_map]
  have hasks : AsksOnly (fun q : NetOp Address => ∃ op, q = .credential op)
      (netCredential crates state headers) :=
    asksOnly_handle _ (asksOnly_true _) fun q _ => asksOnly_call ⟨q, rfl⟩
  have hself : Renames (netPasswords password' Address) id (netCredential crates state headers)
      (netCredential crates state headers) := by
    refine renames_self hasks ?_
    rintro _ ⟨q, rfl⟩
    exact Renaming.relabel_fixes _ _ _ rfl
  exact renames_result _ hself

include hsame hauth hauth' in
theorem renames_answerMcp (q : McpOp) (hq : (mcpPasswords headers headers' password').named q) :
    Renames (netPasswords password' Address) ((mcpPasswords headers headers' password').answer q)
      (answerMcp crates env state q)
      (answerMcp crates env state (McpOp.withPassword headers' password' q)) := by
  cases q with
  | resolveCredential h =>
    obtain rfl := hq h rfl
    exact renames_netCredential crates state password' hsame user password hauth hauth'
  | search cred request =>
    have hsearch := renames_netSearch crates env password' cred request
    rw [Except.map_id] at hsearch
    exact hsearch
  | get cred request =>
    have hget := renames_netGet crates env password' cred request
    rw [Except.map_id] at hget
    exact hget
  | send cred request limits =>
    have hsend := renames_netSend crates env password' cred request limits
    rw [Except.map_id] at hsend
    exact hsend

include hsame hauth hauth' in
/-- The gate and the route look at neither password. -/
theorem renames_serve (request : GatedRequest) :
    Renames (netPasswords password' Address) id (serve crates env state ⟨headers, request⟩)
      (serve crates env state ⟨headers', request⟩) := by
  have htoken : bearerToken headers' = bearerToken headers := by
    unfold bearerToken HeaderMap.get
    rw [lookup_same hsame _ (by decide)]
  cases hserved : request.served state.config with
  | false =>
    rw [serve_unrouted crates env state ⟨headers, request⟩ hserved,
      serve_unrouted crates env state ⟨headers', request⟩ hserved]
    exact .ret _
  | true =>
    by_cases hadmitted : Admitted state.config headers
    · have hadmitted' : Admitted state.config headers' := by
        unfold Admitted
        rw [htoken]
        exact hadmitted
      rw [serve_admitted crates env state ⟨headers, request⟩ hserved hadmitted,
        serve_admitted crates env state ⟨headers', request⟩ hserved hadmitted']
      refine renames_map ?_ fun reply => rfl
      exact renames_handle (renames_handler headers headers' password' crates.json crates.schemas
        state.config hsame request)
          (renames_answerMcp crates env state password' hsame user password hauth hauth')
    · obtain ⟨message, hgate⟩ := gate_refused state.config headers hadmitted
      have hgate' (next : McpProg GatewayReply) :
          requireGatewayAccess state.config headers' next = throw (.unauthorized message) := by
        rw [← hgate next]
        unfold requireGatewayAccess
        rw [htoken]
      rw [serve_refused crates env state ⟨headers, request⟩ hserved _ hgate,
        serve_refused crates env state ⟨headers', request⟩ hserved _ hgate']
      exact .ret _

/-- Two requests that differ in the mailbox password alone: whatever the servers answer, what
is exchanged for the second is what is exchanged for the first with the password of every
login replaced, and the replies are the same. -/
theorem password_only_in_logins (request : GatedRequest) (headers headers' : HeaderMap)
    (user password password' : String) (hsame : SameBesidesAuth headers headers')
    (hauth : mailboxAuth headers = .ok (user, password))
    (hauth' : mailboxAuth headers' = .ok (user, password')) (H' : NetHistory Address)
    (reply : Option GatewayReply) :
    Plays (serve crates env state ⟨headers', request⟩) H' reply ↔
      ∃ H, Plays (serve crates env state ⟨headers, request⟩) H reply ∧
        H' = H.map (netPasswords password' Address).exchange := by
  have hrenames := renames_serve crates env state password' hsame user password hauth hauth' request
  rw [plays_renames hrenames (Renaming.relabel_surjective _ _)]
  constructor
  · rintro ⟨H, reply, hplays, rfl, rfl⟩
    exact ⟨H, hplays, rfl⟩
  · rintro ⟨H, hplays, rfl⟩
    exact ⟨H, reply, hplays, rfl, rfl⟩

end Requests

/-- The credential of `aliceHeaders` once its password is `rotated`. -/
def rotatedHeaders : HeaderMap where
  entries :=
    [("x-mailbox-auth", bytes "Basic YWxpY2U6cm90YXRlZA=="),
      ("x-mailbox-imap", bytes "imap.example.com:993"),
      ("x-mailbox-smtp", bytes "smtp.example.com:465")]

/-- A search by Alice, and the same once her password is another. -/
theorem rotated_password_only_in_logins : ∃ reply,
    Plays (serve plainCrates (fun _ => none) plainApp ⟨rotatedHeaders, searchIncoming.request⟩)
      ((((serve plainCrates (fun _ => none) plainApp searchIncoming).asked plainAnswer).map
        fun q => ⟨q, plainAnswer q⟩).map (netPasswords "rotated" String).exchange) reply := by
  have hsame : SameBesidesAuth aliceHeaders rotatedHeaders := by
    intro name hname
    have hauth : toAsciiLowercase H_MAILBOX_AUTH = "x-mailbox-auth" := by decide
    rw [hauth] at hname
    have hbeq : (name == "x-mailbox-auth") = false := beq_eq_false_iff_ne.mpr hname
    simp [aliceHeaders, rotatedHeaders, List.lookup_cons, hbeq]
  have hruns := plays_run plainAnswer (serve plainCrates (fun _ => none) plainApp searchIncoming)
  exact ⟨_, (password_only_in_logins plainCrates (fun _ => none) plainApp searchIncoming.request
    aliceHeaders rotatedHeaders "alice" "s3cr3t" "rotated" hsame (by decide +kernel)
    (by decide +kernel) _ _).mpr ⟨_, hruns, rfl⟩⟩

end Overfwd
