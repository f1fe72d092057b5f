import Overfwd.CredentialUse
import Overfwd.DocumentedReplies
import Overfwd.ErrorHandling
import Overfwd.Lib.Blame

/-! What has gone wrong where a request fails: one answer of the outside, or the request itself.
An error reply has the code that is documented for it, and nothing was risked after it. -/
namespace Overfwd

open Text Outcome Net Dialogue Serde

/-- What may go wrong outside, as the clients report it. -/
inductive Fault
  /-- A host that is not found or not reached, or a connection that is lost. -/
  | unreachable
  | tls
  /-- The provider does not take the credential. -/
  | credential
  | noMailbox
  /-- A mailbox name that cannot be one, by the server's word or the client's. -/
  | badMailbox
  /-- Arguments of SEARCH or FETCH that the server or the client refuses. -/
  | arguments
  | noMessage
  /-- A host name with an address that is not public. -/
  | blocked
  /-- A submission that is rejected for anything but the credential. -/
  | rejected
  /-- An answer that the client cannot make out. -/
  | garbled
  deriving DecidableEq

namespace Fault

/-- The code of the error model. What the provider does wrong otherwise is `host_unreachable`
too. -/
def code : Fault → String
  | unreachable | rejected | garbled => "host_unreachable"
  | tls => "tls_failure"
  | credential => "auth_failure"
  | noMailbox | noMessage => "not_found"
  | badMailbox | arguments | blocked => "bad_request"

end Fault

/-- The error has the code of the fault. Only a name that cannot be a mailbox is told as if the
server was down. -/
def GatewayError.Tells (e : GatewayError) (fault : Fault) : Prop :=
  e.code = if fault = .badMailbox then "host_unreachable" else fault.code

section Events

/-- A command of a session that fails. -/
def ImapErrorKind.fault (refused : Fault) (kind : ImapErrorKind) : Fault :=
  if kind.isLost then .unreachable else if kind.isRejection then refused else .garbled

/-- The answers that are faults. That a FETCH brings nothing is one where a message is
`needed`. -/
def ImapOp.fault? (needed : Bool) : (q : ImapOp) → q.Answer → Option Fault
  | .tcpConnect _, .error _ => some .unreachable
  | .tlsConnect _ _ _, .error _ => some .tls
  | .readResponse _, none => some .unreachable
  | .readResponse _, some (.error _) => some .unreachable
  | .login _ _ _, .error err => some (if err.kind.isLost then .unreachable else .credential)
  | .select _ _, .error ⟨.no _, _⟩ => some .noMailbox
  | .select _ _, .error err => some (err.kind.fault .badMailbox)
  | .uidSearch _ _, .error err => some (err.kind.fault .arguments)
  | .uidFetch _ _ _, .error err => some (err.kind.fault .arguments)
  | .uidFetch _ _ _, .ok fetches =>
    if needed && (fetches.filterMap Fetch.raw?).isEmpty then some .noMessage else none
  | _, _ => none

/-- A lookup of the guard. -/
def lookupFault : Except String (List IpAddr) → Option Fault
  | .error _ => some .unreachable
  | .ok [] => some .unreachable
  | .ok addrs => if addrs.any isForbiddenIp then some .blocked else none

/-- A reply about the credential: the replies of the AUTH extension, and whatever shares the
middle digit of most of them. -/
def Code.IsAuthReply (code : Code) : Prop := code.toNat = 454 ∨ code.toNat / 10 % 10 = 3

instance (code : Code) : Decidable code.IsAuthReply := inferInstanceAs (Decidable (_ ∨ _))

theorem isAuthCode_iff (code : Code) : isAuthCode code = true ↔ code.IsAuthReply := by
  obtain ⟨severity, category, detail⟩ := code
  revert severity category detail
  decide +kernel

def SmtpError.fault (err : SmtpError) : Fault :=
  if err.isTls then .tls
  else if err.status.any fun code => code.IsAuthReply then .credential
  else if err.status.isSome then .rejected
  else .unreachable

/-- To what makes a credential, a resolution that fails is a fault as well. -/
def CredentialOp.fault? : (q : CredentialOp) → q.Answer → Option (Fault ⊕ GatewayError)
  | .resolve _ _, .ok _ => none
  | .resolve _ _, .error e => some (.inr e)
  | .lookup _, x => (lookupFault x).map .inl

def TellsTrouble (e : GatewayError) : Fault ⊕ GatewayError → Prop
  | .inl fault => e.Tells fault
  | .inr e' => e = e'

theorem tells_of_left (e : GatewayError) (c : Fault ⊕ GatewayError) (fault : Fault)
    (hc : c.getLeft? = some fault) (he : TellsTrouble e c) : e.Tells fault := by
  obtain rfl := Sum.getLeft?_eq_some_iff.mp hc
  exact he

/-- What the resolver is told of the outside is no fault: it goes on without it. -/
def RequestOp.fault? : (q : RequestOp) → q.Answer → Option Fault
  | .resolver _, _ => none
  | .lookup _, x => lookupFault x

def NetOp.fault? {Address : Type} (needed : Bool) : (q : NetOp Address) → q.Answer → Option Fault
  | .credential q, x => q.fault? x
  | .imap q, x => q.fault? needed x
  | .smtp (.sendRaw _ _ _), .error err => some err.fault
  | _, _ => none

end Events

section Opening

variable (needed : Bool) (own : GatewayError → Prop)

theorem blames_openStream (tcp : TcpStream) (tls : TlsMode) (host : String) (insecure : Bool) :
    Blames (ImapOp.fault? needed) GatewayError.Tells own
      (ExceptT.run (openStream tcp tls host insecure)) := by
  unfold openStream
  cases tls with
  | plain => exact blames_pure _
  | implicitTls =>
    refine blames_bind (blames_attempt _ fun h x hplays => ?_) fun stream => blames_pure _
    obtain rfl := (plays_call _ _).mp hplays
    cases x with
    | ok stream => rfl
    | error err =>
      cases err with
      | _ => exact .inl ⟨_, rfl, rfl⟩

theorem blames_readGreeting (client : ImapClient) :
    Blames (ImapOp.fault? needed) GatewayError.Tells own (ExceptT.run (readGreeting client)) := by
  refine blames_answer (ImapOp.readResponse client) _ fun response => ?_
  cases response with
  | none => exact .inr ⟨_, _, rfl, rfl, rfl⟩
  | some greeting =>
    cases greeting with
    | ok _ => exact .inl ⟨rfl, blames_pure ()⟩
    | error e => exact .inr ⟨_, _, rfl, rfl, rfl⟩

theorem blames_connect (target : HostPort) (tls : TlsMode) (insecure : Bool) :
    Blames (ImapOp.fault? needed) GatewayError.Tells own
      (ExceptT.run (connect target tls insecure)) := by
  refine blames_bind (blames_attempt _ fun h x hplays => ?_) fun tcp => ?_
  · obtain rfl := (plays_call _ _).mp hplays
    cases x with
    | ok tcp => rfl
    | error e => exact .inl ⟨_, rfl, rfl⟩
  · refine blames_bind (blames_openStream needed own tcp tls _ insecure) fun stream => ?_
    exact blames_bind (blames_readGreeting needed own _) fun _ => blames_pure _

theorem blames_login (client : ImapClient) (username password : String) :
    Blames (ImapOp.fault? needed) GatewayError.Tells own
      (ExceptT.run (login client username password)) := by
  refine blames_attempt _ fun h x hplays => ?_
  obtain rfl := (plays_call _ _).mp hplays
  cases x with
  | ok session => rfl
  | error err =>
    obtain ⟨kind, display⟩ := err
    cases kind with
    | _ => exact .inl ⟨_, rfl, rfl⟩

theorem blames_connectAndLogin (cred : MailboxCredential) (settings : ImapSettings) :
    Blames (ImapOp.fault? needed) GatewayError.Tells own
      (ExceptT.run (connectAndLogin cred settings)) :=
  blames_bind (blames_connect needed own _ _ _) fun client => blames_login needed own client _ _

end Opening

section Commands

variable (own : GatewayError → Prop) (session : ImapSession) (parse : MailParser)

theorem blames_select (needed : Bool) (mailbox : String) :
    Blames (ImapOp.fault? needed) GatewayError.Tells own (ExceptT.run (select session mailbox)) := by
  refine blames_attempt _ fun h x hplays => ?_
  obtain rfl := (plays_call _ _).mp hplays
  cases x with
  | ok _ => rfl
  | error err =>
    obtain ⟨kind, display⟩ := err
    cases kind with
    | _ => exact .inl ⟨_, rfl, rfl⟩

theorem mapCommandErr_tells (err : ImapError) :
    (mapCommandErr err).Tells (err.kind.fault .arguments) := by
  obtain ⟨kind, display⟩ := err
  cases kind with
  | _ => rfl

theorem blames_uidSearch (needed : Bool) (query : String) :
    Blames (ImapOp.fault? needed) GatewayError.Tells own (ExceptT.run (uidSearch session query)) := by
  refine blames_bind (blames_attempt _ fun h x hplays => ?_) fun uids => blames_pure _
  obtain rfl := (plays_call _ _).mp hplays
  cases x with
  | ok uids => rfl
  | error err => exact .inl ⟨_, rfl, mapCommandErr_tells err⟩

/-- A search takes what FETCH brings. -/
theorem blames_uidFetchRaw (uids : List Uid) :
    Blames (ImapOp.fault? false) GatewayError.Tells own (ExceptT.run (uidFetchRaw session uids)) := by
  unfold uidFetchRaw
  split_ifs
  · exact blames_pure _
  · refine blames_bind (blames_attempt _ fun h x hplays => ?_) fun fetches => blames_pure _
    obtain rfl := (plays_call _ _).mp hplays
    cases x with
    | ok fetches => rfl
    | error err => exact .inl ⟨_, rfl, mapCommandErr_tells err⟩

theorem blames_searchOn (mailbox query : String) (limit : ℕ) :
    Blames (ImapOp.fault? false) GatewayError.Tells own
      (ExceptT.run (searchOn parse session mailbox query limit)) := by
  refine blames_bind (blames_select own session false mailbox) fun _ => ?_
  refine blames_bind (blames_uidSearch own session false query) fun uids => ?_
  dsimp only
  unfold fetchSelected
  split_ifs
  · exact blames_pure _
  · exact blames_bind (blames_uidFetchRaw own session _) fun raws => blames_pure _

/-- A get needs its message. -/
theorem blames_getOn (mailbox : String) (uid : Uid) :
    Blames (ImapOp.fault? true) GatewayError.Tells own
      (ExceptT.run (getOn parse session mailbox uid)) := by
  refine blames_bind (blames_select own session true mailbox) fun _ => ?_
  -- Here a FETCH that brings nothing is a fault as well as one that fails.
  refine blames_ask (ImapOp.uidFetch session (uidSetText [uid]) FETCH_RAW_QUERY) _ fun x => ?_
  cases x with
  | error err => exact .inr ⟨_, _, rfl, rfl, mapCommandErr_tells err⟩
  | ok fetches =>
    let found (raws : List RawMessage) : ImapAction FullMessage := do
      let msg ← okOr (GatewayError.notFound ("no message with uid " ++ toString uid)) raws.head?
      pure (parseFull parse msg.uid msg.raw)
    change (if true && (fetches.filterMap Fetch.raw?).isEmpty then some Fault.noMessage else none) =
        none ∧ Blames _ _ own (ExceptT.run (found (fetches.filterMap Fetch.raw?))) ∨
      ∃ e c, ExceptT.run (found (fetches.filterMap Fetch.raw?)) = .ret (.error e) ∧
        (if true && (fetches.filterMap Fetch.raw?).isEmpty then some Fault.noMessage else none) =
          some c ∧ e.Tells c
    generalize fetches.filterMap Fetch.raw? = raws
    cases raws with
    | nil => exact .inr ⟨_, _, rfl, rfl, rfl⟩
    | cons raw raws => exact .inl ⟨rfl, blames_pure _⟩

theorem blames_onFreshSession {α : Type} (needed : Bool) (cred : MailboxCredential)
    (settings : ImapSettings) (operation : ImapSession → ImapAction α)
    (hoperation : ∀ session,
      Blames (ImapOp.fault? needed) GatewayError.Tells own (ExceptT.run (operation session))) :
    Blames (ImapOp.fault? needed) GatewayError.Tells own
      (ExceptT.run (onFreshSession cred settings operation)) := by
  intro h r hplays
  rcases plays_onSession operation _ (fun session _ => logout session) h r hplays with
    ⟨e, hopening, rfl⟩ | ⟨session, h₁, h₂, h₃, hopened, hrun, hlogout, rfl⟩
  · exact blames_connectAndLogin needed own cred settings h _ hopening
  · have hnone : faults (ImapOp.fault? needed) h₁ = [] :=
      blames_connectAndLogin needed own cred settings h₁ _ hopened
    -- Whatever LOGOUT is answered is ignored, so it is no fault.
    obtain rfl := (plays_call _ _).mp hlogout
    rw [faults_append, hnone, List.nil_append, faults_append,
      faults_cons_none (ImapOp.fault? needed) rfl]
    exact (List.append_nil _).symm ▸ hoperation session h₂ r hrun

end Commands

section Credential

/-- A refusal without a lookup is the target's own fault. -/
def Outright (enabled : Bool) (source : String) (target : HostPort) (e : GatewayError) : Prop :=
  enabled = true ∧ refusedOutright target.host = true ∧ e = blocked source (shownHost target.host)

theorem blames_endpointCheck (enabled : Bool) (source : String) (target : HostPort) :
    Blames CredentialOp.fault? TellsTrouble (Outright enabled source target)
      (ExceptT.run (endpointCheck enabled source target)) := by
  unfold endpointCheck Outright refusedOutright
  cases enabled with
  | false => exact blames_pure _
  | true =>
    rw [if_neg (by decide)]
    dsimp only
    cases parseIp (bareHost target.host) with
    | some ip =>
      dsimp only
      split_ifs with hforbidden
      · exact blames_throw ⟨rfl, hforbidden, rfl⟩
      · exact blames_pure _
    | none =>
      dsimp only
      split_ifs with hreserved
      · exact blames_throw ⟨rfl, hreserved, rfl⟩
      · refine blames_answer (CredentialOp.lookup (bareHost target.host)) _ fun answer => ?_
        cases answer with
        | error e => exact .inr ⟨_, _, rfl, rfl, rfl⟩
        | ok addrs =>
          cases addrs with
          | nil => exact .inr ⟨_, _, rfl, rfl, rfl⟩
          | cons addr addrs =>
            have hsome : ¬(addr :: addrs).isEmpty = true := Bool.false_ne_true
            have hfault : (CredentialOp.lookup (bareHost target.host)).fault? (.ok (addr :: addrs)) =
              (if (addr :: addrs).any isForbiddenIp then some .blocked else none).map .inl := rfl
            dsimp only
            rw [if_neg hsome, hfault]
            by_cases hforbidden : (addr :: addrs).any isForbiddenIp = true
            · rw [if_pos hforbidden, if_pos hforbidden]
              exact .inr ⟨_, _, rfl, rfl, rfl⟩
            · rw [if_neg hforbidden, if_neg hforbidden]
              exact .inl ⟨rfl, blames_pure _⟩

/-- An error of a credential that no answer is to blame for. -/
inductive CredentialFault (state : AppState) (headers : HeaderMap) : GatewayError → Prop
  | headers (e : GatewayError) (hparse : InlineHeaders.parse headers = .error e) :
    CredentialFault state headers e
  | missing (inline : InlineHeaders) (hparse : InlineHeaders.parse headers = .ok inline)
    (hmissing : ¬inline.hasBoth) (hdisabled : state.autoconfig.enabled = false) :
    CredentialFault state headers (.badRequest missingTargetMessage)
  | noDomain (inline : InlineHeaders) (hparse : InlineHeaders.parse headers = .ok inline)
    (hmissing : ¬inline.hasBoth) (hdomain : inline.autoconfigDomain = none) :
    CredentialFault state headers (.badRequest InlineHeaders.noDomainMessage)
  | unresolved (e : GatewayError) (hcode : e.code = "autoconfig_failed")
    (henabled : state.autoconfig.enabled = true) (hleaves : headers.LeavesTarget) :
    CredentialFault state headers e
  | refused (inline : InlineHeaders) (hparse : InlineHeaders.parse headers = .ok inline)
    (target : HostPort) (hnamed : inline.imap = some target ∨ inline.smtp = some target ∨
      state.autoconfig.enabled = true ∧ ¬inline.hasBoth)
    (source : String) (e : GatewayError)
    (houtright : Outright state.endpoints.enabled source target e) :
    CredentialFault state headers e

variable (state : AppState) (headers : HeaderMap) (inline : InlineHeaders)
  (hparse : InlineHeaders.parse headers = .ok inline)

include hparse

theorem blames_vetted (imapSource smtpSource : String) (imap smtp : HostPort)
    (himap : inline.imap = some imap ∨ state.autoconfig.enabled = true ∧ ¬inline.hasBoth)
    (hsmtp : inline.smtp = some smtp ∨ state.autoconfig.enabled = true ∧ ¬inline.hasBoth) :
    Blames CredentialOp.fault? TellsTrouble (CredentialFault state headers)
      (ExceptT.run (inline.vetted state.endpoints.enabled imapSource smtpSource imap smtp)) := by
  refine blames_bind (blames_mono (blames_endpointCheck _ _ _) fun e he => ?_) fun _ => ?_
  · exact .refused inline hparse imap (himap.imp_right .inr) imapSource e he
  · refine blames_bind (blames_mono (blames_endpointCheck _ _ _) fun e he => ?_) fun _ =>
      blames_pure _
    exact .refused inline hparse smtp (.inr hsmtp) smtpSource e he

theorem blames_intoCredential :
    Blames CredentialOp.fault? TellsTrouble
      (fun e => CredentialFault state headers e ∨ e.code = "autoconfig_failed")
      (ExceptT.run (inline.intoCredential state.autoconfig.enabled state.endpoints.enabled)) := by
  by_cases hboth : inline.hasBoth
  · obtain ⟨imap, himap⟩ := Option.isSome_iff_exists.mp hboth.1
    obtain ⟨smtp, hsmtp⟩ := Option.isSome_iff_exists.mp hboth.2
    rw [inline.intoCredential_both _ _ imap smtp himap hsmtp]
    exact blames_mono (blames_vetted state headers inline hparse _ _ imap smtp (.inl himap)
      (.inl hsmtp)) fun e he => .inl he
  · rw [inline.intoCredential_missing _ _ hboth]
    cases henabled : state.autoconfig.enabled with
    | false => exact blames_throw (.inl (.missing inline hparse hboth henabled))
    | true =>
      refine blames_bind (blames_except (failsOnly_okOr_of_none _ _ fun hdomain => ?_)) fun domain => ?_
      · exact .inl (.noDomain inline hparse hboth hdomain)
      · -- A failed resolution passes for a fault here; below it is an error of its own.
        refine blames_answer (CredentialOp.resolve domain inline.autoconfigEmail) _ fun answer => ?_
        cases answer with
        | error e => exact .inr ⟨e, _, rfl, rfl, rfl⟩
        | ok servers =>
          refine .inl ⟨rfl, ?_⟩
          have hfailed (m : String) : CredentialFault state headers (.autoconfigFailed m) ∨
              (GatewayError.autoconfigFailed m).code = "autoconfig_failed" := .inr rfl
          refine blames_bind (blames_except (failsOnly_ok servers)) fun servers => ?_
          refine blames_bind (blames_except (failsOnly_okOr _ _ (hfailed _))) fun imap => ?_
          refine blames_bind (blames_except (failsOnly_okOr _ _ (hfailed _))) fun smtp => ?_
          exact blames_mono (blames_vetted state headers inline hparse _ _ imap smtp
            (.inr ⟨henabled, hboth⟩) (.inr ⟨henabled, hboth⟩)) fun e he => .inl he

omit hparse in
/-- An autoconfiguration that fails does so by its own error, for the resolver's answers are none. -/
theorem faults_answerCredential (fromStr : XmlReader) (settings : AutoconfigSettings)
    (q : CredentialOp) (h : List (Exchange RequestOp RequestOp.Answer)) (x : q.Answer)
    (hplays : Plays (answerCredential fromStr settings q) h x) :
    faults RequestOp.fault? h = ((q.fault? x).bind Sum.getLeft?).toList ∧
      ∀ c, q.fault? x = some c → c.getLeft? = none →
        ∃ e, c = .inr e ∧ e.code = "autoconfig_failed" := by
  cases q with
  | lookup host =>
    obtain rfl := (plays_call _ _).mp hplays
    rw [faults_one]
    change (lookupFault x).toList = (((lookupFault x).map Sum.inl).bind Sum.getLeft?).toList ∧
      ∀ c, (lookupFault x).map Sum.inl = some c → _
    cases lookupFault x with
    | none => exact ⟨rfl, fun c hc => nomatch hc⟩
    | some fault =>
      refine ⟨rfl, ?_⟩
      rintro _ ⟨⟩ hnone
      cases hnone
  | resolve domain email =>
    obtain ⟨h', hresolve, rfl⟩ := (plays_relabel RequestOp.resolver _ _ _).mp hplays
    have hnone : faults RequestOp.fault? (h'.map fun e => ⟨.resolver e.1, e.2⟩) = [] := by
      apply List.filterMap_eq_nil_iff.mpr
      intro d hd
      obtain ⟨e, -, rfl⟩ := List.mem_map.mp hd
      rfl
    rw [hnone]
    cases x with
    | ok servers => exact ⟨rfl, fun c hc => nomatch hc⟩
    | error e =>
      refine ⟨rfl, ?_⟩
      rintro _ ⟨⟩ -
      exact ⟨e, rfl, List.mem_singleton.mp
        (resolve_raises fromStr settings domain email h' _ hresolve e rfl)⟩

variable {Address : Type} (crates : Crates Address)

omit hparse in
theorem netCredential_blamed (needed : Bool) (H : NetHistory Address)
    (r : Except GatewayError MailboxCredential)
    (hplays : Plays (netCredential crates state headers) H r) :
    Blamed GatewayError.Tells (CredentialFault state headers) r (faults (NetOp.fault? needed) H) := by
  have hrequest : Blames RequestOp.fault? GatewayError.Tells
      (fun e => CredentialFault state headers e ∨ e.code = "autoconfig_failed")
      (ExceptT.run (requestCredential crates.xml state.autoconfig.settings state.autoconfig.enabled
        state.endpoints.enabled headers)) := by
    intro h r hplays
    rcases (plays_except_bind _ _ _).mp hplays with ⟨e, hparse, rfl, rfl⟩ | ⟨inline, hparse, hinto⟩
    · exact .inr ⟨rfl, .inl (.headers e hparse)⟩
    · obtain ⟨h', hinto, hlayered⟩ := (plays_handle _ _ _).mp hinto
      refine blamed_mono ?_ (blamed_layered (faults_answerCredential crates.xml
        state.autoconfig.settings) tells_of_left hlayered
          (blames_intoCredential state headers inline hparse h' r hinto))
      rintro e (he | ⟨_, ⟨e', rfl, hcode⟩, rfl⟩)
      · exact he
      · exact .inr hcode
  have hblamed : Blamed GatewayError.Tells _ r (faults (NetOp.fault? needed) H) :=
    blames_relabel (NetOp.fault? needed) NetOp.credential hrequest H r hplays
  cases r with
  | ok cred => exact hblamed
  | error e =>
    rcases hblamed with hone | ⟨hnone, he | hcode⟩
    · exact .inl hone
    · exact .inr ⟨hnone, he⟩
    · -- Only autoconfiguration fails with this code, and only where it is asked for.
      rcases netCredential_fails crates state headers H e hplays with he | ⟨-, henabled, hleaves⟩
      · unfold GatewayError.OneOf at he
        rw [hcode] at he
        exact absurd he (by decide)
      · exact .inr ⟨hnone, .unresolved e hcode henabled hleaves⟩

end Credential

section Actions

variable {Address : Type} (crates : Crates Address) (env : Env) (state : AppState)
  (headers : HeaderMap)

/-- A get is the action that needs a message to be there. -/
def Tool.needsMessage : Tool → Bool
  | .get => true
  | _ => false

/-- An error of an action that no answer is to blame for: its arguments are. -/
inductive ActionFault : Action → GatewayError → Prop
  | searchKey (request : SearchRequest) (e : GatewayError)
    (hkey : request.searchKey crates.escapes = .error e) : ActionFault (.search request) e
  | message (request : SendRequest) (e : GatewayError)
    (hmessage : request.intoMessage (.withMaxTotalBytes state.config.maxAttachmentBytes) = .error e) :
    ActionFault (.send request) e
  | prepared (request : SendRequest) (message : OutgoingMessage) (cred : MailboxCredential)
    (stamp : MimeStamp) (e : GatewayError)
    (hmessage : request.intoMessage (.withMaxTotalBytes state.config.maxAttachmentBytes) =
      .ok message)
    (hcred : cred.IsOf headers)
    (hprepared : prepared crates.lettre crates.builder (env ENV_TLS_INSECURE) stamp cred message =
      .error e) : ActionFault (.send request) e

theorem mapSmtpError_tells (smtp : HostPort) (err : SmtpError) :
    (mapSmtpError smtp err).Tells err.fault := by
  unfold SmtpError.fault mapSmtpError
  by_cases htls : err.isTls = true
  · rw [if_pos htls, if_pos htls]
    rfl
  · rw [if_neg htls, if_neg htls]
    cases err.status with
    | none => rfl
    | some code =>
      dsimp only [Option.any_some, Option.isSome_some]
      by_cases hauth : isAuthCode code = true
      · rw [if_pos hauth, if_pos (decide_eq_true ((isAuthCode_iff code).mp hauth))]
        rfl
      · rw [if_neg hauth, if_neg fun h => hauth ((isAuthCode_iff code).mpr (of_decide_eq_true h))]
        rfl

variable (cred : MailboxCredential)

theorem doSend_blamed (hcred : cred.IsOf headers) (stamp : MimeStamp) (request : SendRequest) :
    Blames (fun q x => NetOp.fault? false (.smtp q : NetOp Address) x) GatewayError.Tells
      (ActionFault crates env state headers (.send request))
      (ExceptT.run (doSend crates.lettre crates.builder (env ENV_TLS_INSECURE) stamp cred request
        (.withMaxTotalBytes state.config.maxAttachmentBytes))) := by
  intro h r hplays
  rcases plays_doSend _ _ _ _ _ _ _ h r hplays with
    ⟨e, he, rfl, rfl⟩ | ⟨message, hmessage, ⟨e, he, rfl, rfl⟩ | ⟨s, -, ⟨err, rfl, rfl⟩ | ⟨rfl, rfl⟩⟩⟩
  · exact .inr ⟨rfl, .message request e he⟩
  · exact .inr ⟨rfl, .prepared request message cred stamp e hmessage hcred he⟩
  · exact .inl ⟨_, rfl, mapSmtpError_tells cred.smtp err⟩
  · rfl

theorem action_blamed (hcred : cred.IsOf headers) (action : Action) (H : NetHistory Address)
    (x : (action.op state.config.maxAttachmentBytes cred).Answer)
    (hplays : Plays (answerMcp crates env state (action.op state.config.maxAttachmentBytes cred)) H
      x) :
    Blamed GatewayError.Tells (ActionFault crates env state headers action)
      (action.outcome state.config.maxAttachmentBytes cred x)
      (faults (NetOp.fault? action.tool.needsMessage) H) := by
  cases action with
  | search request =>
    refine blamed_map SearchResponse.toValue ?_
    refine blames_relabel (NetOp.fault? false) NetOp.imap ?_ H x hplays
    refine blames_bind (blames_except fun e he => .searchKey request e he) fun key => ?_
    refine blames_bind (blames_onFreshSession _ false cred _ _ fun session => ?_) fun found =>
      blames_pure _
    exact blames_searchOn _ session crates.mail _ _ _
  | get request =>
    refine blamed_map FullMessage.toValue ?_
    refine blames_relabel (NetOp.fault? true) NetOp.imap ?_ H x hplays
    exact blames_onFreshSession _ true cred _ _ fun session => blames_getOn _ session crates.mail _ _
  | send request =>
    refine blamed_map SendResponse.toValue ?_
    obtain ⟨_, stamp, H₂, hstamp, hsend, rfl⟩ := (plays_bind _ _ _).mp hplays
    obtain rfl := (plays_call _ _).mp hstamp
    exact blames_relabel (NetOp.fault? false) NetOp.smtp
      (doSend_blamed crates env state headers cred hcred stamp request) H₂ x hsend

/-- A credential and the action with it: what has gone wrong is what the outcome tells. -/
theorem acted_blamed (action : Action) (x : (action.op state.config.maxAttachmentBytes cred).Answer)
    (H : NetHistory Address)
    (hlayered : Layered (answerMcp crates env state) [⟨.resolveCredential headers, .ok cred⟩,
      ⟨action.op state.config.maxAttachmentBytes cred, x⟩] H) :
    Blamed GatewayError.Tells (ActionFault crates env state headers action)
      (action.outcome state.config.maxAttachmentBytes cred x)
      (faults (NetOp.fault? action.tool.needsMessage) H) := by
  obtain ⟨H₁, H₂, hresolved, hacted, rfl⟩ := (layered_cons _ _ _ _).mp hlayered
  have hnone : faults (NetOp.fault? action.tool.needsMessage) H₁ = [] :=
    netCredential_blamed state headers crates _ H₁ _ hresolved
  rw [faults_append, hnone, List.nil_append]
  exact action_blamed crates env state headers cred
    (netCredential_isOf crates state headers H₁ cred hresolved) action H₂ x
    ((layered_one _ _ _).mp hacted)

end Actions

section Requests

variable {Address : Type} (crates : Crates Address) (env : Env) (state : AppState)

/-- The action that a REST request with a readable body asks for. -/
def GatedRequest.action? : GatedRequest → Option Action
  | .search (.ok request) => some (.search request)
  | .get (.ok request) => some (.get request)
  | .send (.ok request) => some (.send request)
  | _ => none

/-- An error that a request has earned by itself. -/
inductive RequestFault (incoming : Incoming) : GatewayError → Prop
  | unauthorized (message : String) (hgate : ¬Admitted state.config incoming.headers) :
    RequestFault incoming (.unauthorized message)
  | rejected (err : JsonRejection) (hrejected : incoming.request.rejection? = some err) :
    RequestFault incoming (jsonRejection err)
  | credential (e : GatewayError) (he : CredentialFault state incoming.headers e) :
    RequestFault incoming e
  | action (action : Action) (haction : incoming.request.action? = some action) (e : GatewayError)
    (he : ActionFault crates env state incoming.headers action e) : RequestFault incoming e

section Runs

variable (incoming : Incoming) (h : McpHistory) (H : NetHistory Address)
  (hlayered : Layered (answerMcp crates env state) h H)

include hlayered

theorem resolved_blamed {α : Type} (needed : Bool) (e : GatewayError)
    (hh : h = [⟨.resolveCredential incoming.headers, .error e⟩]) :
    Blamed GatewayError.Tells (RequestFault crates env state incoming) (.error e : Except _ α)
      (faults (NetOp.fault? needed) H) := by
  subst hh
  have hfailed := (layered_one (McpOp.resolveCredential incoming.headers) _ _).mp hlayered
  exact blamed_mono (fun e he => .credential e he)
    (netCredential_blamed state incoming.headers crates needed H _ hfailed : Blamed _ _ (.error e) _)

/-- A body that is rejected once there is a credential. -/
theorem rejected_blamed {α : Type} (needed : Bool) (cred : MailboxCredential) (err : JsonRejection)
    (hrejected : incoming.request.rejection? = some err)
    (hh : h = [⟨.resolveCredential incoming.headers, .ok cred⟩]) :
    Blamed GatewayError.Tells (RequestFault crates env state incoming)
      (.error (jsonRejection err) : Except _ α) (faults (NetOp.fault? needed) H) := by
  subst hh
  have hresolved := (layered_one (McpOp.resolveCredential incoming.headers) _ _).mp hlayered
  exact .inr ⟨netCredential_blamed state incoming.headers crates needed H _ hresolved,
    .rejected err hrejected⟩

theorem invoked_blamed (cred : MailboxCredential) (action : Action)
    (haction : incoming.request.action? = some action) (h' : McpHistory)
    (x : (action.op state.config.maxAttachmentBytes cred).Answer)
    (hh : h = ⟨.resolveCredential incoming.headers, .ok cred⟩ :: h')
    (hplays : Plays (invoke (action.op state.config.maxAttachmentBytes cred)) h' x) :
    Blamed GatewayError.Tells (RequestFault crates env state incoming)
      (action.outcome state.config.maxAttachmentBytes cred x)
      (faults (NetOp.fault? action.tool.needsMessage) H) := by
  subst hh
  obtain rfl := (plays_call _ _).mp hplays
  exact blamed_mono (fun e he => .action action haction e he)
    (acted_blamed crates env state incoming.headers cred action x H hlayered)

end Runs

/-- What a reply says of the faults of its run: there were none; or there was one and the reply
tells it; or there were none and the request is at fault. -/
def RestReply.NamesFault (incoming : Incoming) (needed : Bool) (H : NetHistory Address)
    (reply : RestReply) : Prop :=
  reply.status = 200 ∧ faults (NetOp.fault? needed) H = [] ∨
    ∃ e : GatewayError, reply = e.intoResponse ∧
      ((∃ fault, faults (NetOp.fault? needed) H = [fault] ∧ e.Tells fault) ∨
        faults (NetOp.fault? needed) H = [] ∧ RequestFault crates env state incoming e)

theorem respond_names {α : Type} (toValue : α → Value) (incoming : Incoming) (needed : Bool)
    (H : NetHistory Address) (r : Except GatewayError α)
    (hr : Blamed GatewayError.Tells (RequestFault crates env state incoming) (r.map toValue)
      (faults (NetOp.fault? needed) H)) :
    (Routes.respond toValue r).NamesFault crates env state incoming needed H := by
  cases r with
  | ok value => exact .inl ⟨rfl, hr⟩
  | error e => exact .inr ⟨e, rfl, hr⟩

section Handlers

variable (headers : HeaderMap) (h : McpHistory) (H : NetHistory Address)
  (hlayered : Layered (answerMcp crates env state) h H)

include hlayered

/-- A handler that resolves the credential first. -/
theorem read_names {α β : Type} (toRequest : Except JsonRejection α → GatedRequest)
    (act : MailboxCredential → α → RestProg β) (toValue : β → Value) (needed : Bool)
    (hrejected : ∀ err, (toRequest (.error err)).rejection? = some err)
    (hacted : ∀ cred request h' r, h = ⟨.resolveCredential headers, .ok cred⟩ :: h' →
      Plays (act cred request).run h' r →
      Blamed GatewayError.Tells (RequestFault crates env state ⟨headers, toRequest (.ok request)⟩)
        (r.map toValue) (faults (NetOp.fault? needed) H))
    (body : Except JsonRejection α) (r : Except GatewayError β)
    (hplays : Plays (ExceptT.run (do
      let credential ← Routes.resolveCredential headers
      let request ← (liftM (body.mapError jsonRejection) : RestProg α)
      act credential request)) h r) :
    (Routes.respond toValue r).NamesFault crates env state ⟨headers, toRequest body⟩ needed H := by
  apply respond_names
  rcases plays_credential_first headers _ _ hplays with ⟨e, hh, rfl⟩ | ⟨cred, e, hbody, hh, rfl⟩ |
    ⟨cred, request, h', hbody, hh, hact⟩
  · exact resolved_blamed crates env state ⟨headers, toRequest body⟩ h H hlayered needed e hh
  · obtain ⟨err, rfl, rfl⟩ := (mapError_eq_error_iff _ _ _).mp hbody
    exact rejected_blamed crates env state ⟨headers, toRequest (.error err)⟩ h H hlayered needed
      cred err (hrejected err) hh
  · obtain rfl := (mapError_eq_ok_iff _ _ _).mp hbody
    exact hacted cred request h' r hh hact

theorem search_names (body : Except JsonRejection SearchRequest)
    (r : Except GatewayError SearchResponse) (hplays : Plays (Routes.search headers body).run h r) :
    (Routes.respond SearchResponse.toValue r).NamesFault crates env state ⟨headers, .search body⟩
      false H := by
  refine read_names crates env state headers h H hlayered .search Routes.doSearch
    SearchResponse.toValue false (fun err => rfl) ?_ body r hplays
  intro cred request h' r hh hact
  exact invoked_blamed crates env state ⟨headers, .search (.ok request)⟩ h H hlayered cred
    (.search request) rfl h' r hh hact

theorem get_names (body : Except JsonRejection GetRequest)
    (r : Except GatewayError FullMessage) (hplays : Plays (Routes.get headers body).run h r) :
    (Routes.respond FullMessage.toValue r).NamesFault crates env state ⟨headers, .get body⟩ true
      H := by
  refine read_names crates env state headers h H hlayered .get Routes.doGet FullMessage.toValue true
    (fun err => rfl) ?_ body r hplays
  intro cred request h' r hh hact
  exact invoked_blamed crates env state ⟨headers, .get (.ok request)⟩ h H hlayered cred
    (.get request) rfl h' r hh hact

theorem send_names (body : Except JsonRejection SendRequest)
    (r : Except GatewayError SendResponse)
    (hplays : Plays (Routes.send state.config.maxAttachmentBytes headers body).run h r) :
    (Routes.respond SendResponse.toValue r).NamesFault crates env state ⟨headers, .send body⟩ false
      H := by
  apply respond_names
  rcases plays_body_first headers _ _ hplays with ⟨e, hbody, rfl, rfl⟩ | ⟨e, hh, rfl⟩ |
    ⟨cred, request, h', hbody, hh, hact⟩
  · obtain ⟨err, rfl, rfl⟩ := (mapError_eq_error_iff _ _ _).mp hbody
    rw [(layered_nil H).mp hlayered]
    exact .inr ⟨rfl, .rejected err rfl⟩
  · exact resolved_blamed crates env state ⟨headers, .send body⟩ h H hlayered false e hh
  · obtain rfl := (mapError_eq_ok_iff _ _ _).mp hbody
    exact invoked_blamed crates env state ⟨headers, .send (.ok request)⟩ h H hlayered cred
      (.send request) rfl h' r hh hact

end Handlers

theorem rest_names (incoming : Incoming) (tool : Tool)
    (htool : incoming.request.tool? = some tool) (H : NetHistory Address) (reply : GatewayReply)
    (hplays : Plays (serve crates env state incoming) H (some reply)) :
    ∃ r : RestReply, reply = .rest r ∧
      r.NamesFault crates env state incoming tool.needsMessage H := by
  obtain ⟨headers, request⟩ := incoming
  rcases plays_serve crates env state _ hplays with ⟨-, -, hreply⟩ | ⟨hrefused, rfl, message, hreply⟩ |
    ⟨-, -, reply', hreply, hhandler⟩
  · cases hreply
  · cases hreply
    exact ⟨_, rfl, .inr ⟨_, rfl, .inr ⟨rfl, .unauthorized message hrefused⟩⟩⟩
  · cases hreply
    obtain ⟨h, hhandler, hlayered⟩ := (plays_handle _ _ _).mp hhandler
    cases request with
    | search body =>
      cases htool
      obtain ⟨r, hrun, rfl⟩ := (plays_map _ _ _).mp hhandler
      exact ⟨_, rfl, search_names crates env state headers h H hlayered body r hrun⟩
    | get body =>
      cases htool
      obtain ⟨r, hrun, rfl⟩ := (plays_map _ _ _).mp hhandler
      exact ⟨_, rfl, get_names crates env state headers h H hlayered body r hrun⟩
    | send body =>
      cases htool
      obtain ⟨r, hrun, rfl⟩ := (plays_map _ _ _).mp hhandler
      exact ⟨_, rfl, send_names crates env state headers h H hlayered body r hrun⟩
    | mcp body => cases htool

theorem rest_single (incoming : Incoming) (tool : Tool)
    (htool : incoming.request.tool? = some tool) (H : NetHistory Address)
    (reply : Option GatewayReply) (hplays : Plays (serve crates env state incoming) H reply) :
    (faults (NetOp.fault? tool.needsMessage) H).length ≤ 1 := by
  cases reply with
  | none =>
    rcases plays_serve crates env state incoming hplays with ⟨-, rfl, -⟩ | ⟨-, rfl, -⟩ |
      ⟨-, -, _, hreply, -⟩
    · exact Nat.zero_le 1
    · exact Nat.zero_le 1
    · cases hreply
  | some reply =>
    obtain ⟨r, -, ⟨-, hnone⟩ | ⟨e, -, ⟨fault, hone, -⟩ | ⟨hnone, -⟩⟩⟩ :=
      rest_names crates env state incoming tool htool H reply hplays
    · rw [hnone]
      exact Nat.zero_le 1
    · rw [hone]
      exact Nat.le_refl 1
    · rw [hnone]
      exact Nat.zero_le 1

/-- In every run of a REST request at most one thing goes wrong outside, as the clients report
it, and the reply tells which; where nothing does, the reply is a success or the request is at
fault. After it nothing is risked: whatever is asked then could not have gone wrong. -/
theorem replies_name_the_fault (incoming : Incoming) (tool : Tool)
    (htool : incoming.request.tool? = some tool) (H : NetHistory Address) (reply : GatewayReply)
    (hplays : Plays (serve crates env state incoming) H (some reply)) :
    ∃ r : RestReply, reply = .rest r ∧
      r.NamesFault crates env state incoming tool.needsMessage H ∧
      QuietAfter (NetOp.fault? tool.needsMessage) H := by
  obtain ⟨r, hreply, hnames⟩ := rest_names crates env state incoming tool htool H reply hplays
  exact ⟨r, hreply, hnames, quiet_of_single plainAnswer
    (rest_single crates env state incoming tool htool) hplays⟩

end Requests

/-- A server that lets nobody in. -/
def closedAnswer : (q : NetOp String) → q.Answer
  | .imap (.login _ _ _) => .error ⟨.no "authentication failed", "no"⟩
  | q => plainAnswer q

theorem refused_login_named :
    let p := serve plainCrates (fun _ => none) plainApp searchIncoming
    let H := (p.asked closedAnswer).map fun q => (⟨q, closedAnswer q⟩ : Exchange _ NetOp.Answer)
    ∃ r : RestReply, p.run closedAnswer = some (.rest r) ∧ r.status = 502 ∧
      r.NamesFault plainCrates (fun _ => none) plainApp searchIncoming false H ∧
      QuietAfter (NetOp.fault? false) H := by
  intro p H
  obtain ⟨r, hrun, hstatus⟩ : ∃ r : RestReply, p.run closedAnswer = some (.rest r) ∧
      r.status = 502 := ⟨_, rfl, rfl⟩
  have hplays := plays_run closedAnswer p
  rw [hrun] at hplays
  obtain ⟨_, ⟨⟩, hnames, hquiet⟩ := replies_name_the_fault plainCrates _ plainApp searchIncoming
    .search rfl _ _ hplays
  exact ⟨r, hrun, hstatus, hnames, hquiet⟩

end Overfwd
