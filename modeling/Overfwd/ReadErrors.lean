import Overfwd.Lib.Raises
import Overfwd.ReadOperation

namespace Overfwd

open Outcome Dialogue

def GatewayError.OneOf (codes : List String) (e : GatewayError) : Prop := e.code ∈ codes

theorem oneOf_mono {codes codes' : List String} (hsub : codes ⊆ codes') (e : GatewayError)
    (h : e.OneOf codes) : e.OneOf codes' := hsub h

/-- What is wrong with a provider, or with the credential at it. -/
def PROVIDER_CODES : List String := ["auth_failure", "host_unreachable", "tls_failure"]

/-- What a read may be told besides. -/
def READ_CODES : List String := ["bad_request", "not_found"] ++ PROVIDER_CODES

section Opening

variable (cred : MailboxCredential) (settings : ImapSettings)

theorem raises_openStream (tcp : TcpStream) (tls : TlsMode) (host : String) (insecure : Bool) :
    Raises (GatewayError.OneOf PROVIDER_CODES) (ExceptT.run (openStream tcp tls host insecure)) := by
  unfold openStream
  cases tls with
  | plain => exact raises_pure _
  | implicitTls =>
    refine raises_bind (raises_attempt _ fun err => ?_) fun stream => raises_pure _
    cases err with
    | _ => simp [mapTlsErr, GatewayError.OneOf, GatewayError.code, PROVIDER_CODES]

theorem raises_connect (target : HostPort) (tls : TlsMode) (insecure : Bool) :
    Raises (GatewayError.OneOf PROVIDER_CODES) (ExceptT.run (connect target tls insecure)) := by
  have hunreachable (m : String) : (GatewayError.hostUnreachable m).OneOf PROVIDER_CODES := by
    simp [GatewayError.OneOf, GatewayError.code, PROVIDER_CODES]
  unfold connect
  refine raises_bind (raises_attempt _ fun e => hunreachable _) fun tcp => ?_
  refine raises_bind (raises_openStream tcp tls _ insecure) fun stream => ?_
  refine raises_bind ?_ fun _ => raises_pure _
  unfold readGreeting
  refine raises_bind (raises_lift _) fun response => ?_
  refine raises_bind (raises_except (failsOnly_okOr _ _ (hunreachable _))) fun greeting => ?_
  exact raises_except (failsOnly_mapError _ _ fun e => hunreachable _)

theorem raises_connectAndLogin :
    Raises (GatewayError.OneOf PROVIDER_CODES) (ExceptT.run (connectAndLogin cred settings)) := by
  refine raises_bind (raises_connect _ _ _) fun client => raises_attempt _ fun err => ?_
  unfold mapLoginErr
  cases err.kind with
  | _ => simp [GatewayError.OneOf, GatewayError.code, PROVIDER_CODES]

theorem raises_acquire (sha256 : Sha256) (config : PoolConfig) :
    Raises (GatewayError.OneOf PROVIDER_CODES)
      (ExceptT.run (acquire sha256 config cred settings)) := by
  refine raises_bind (raises_lift _) fun found => ?_
  cases found with
  | none => exact raises_connectAndLogin cred settings
  | some session => exact raises_pure _

end Opening

section Commands

variable (session : ImapSession) (parse : MailParser)

theorem raises_select (mailbox : String) :
    Raises (GatewayError.OneOf READ_CODES) (ExceptT.run (select session mailbox)) := by
  refine raises_attempt _ fun err => ?_
  unfold mapSelectErr
  cases err.kind with
  | _ => simp [GatewayError.OneOf, GatewayError.code, READ_CODES, PROVIDER_CODES]

theorem mapCommandErr_oneOf (err : ImapError) : (mapCommandErr err).OneOf READ_CODES := by
  unfold mapCommandErr
  cases err.kind with
  | _ => simp [GatewayError.OneOf, GatewayError.code, READ_CODES, PROVIDER_CODES]

theorem raises_uidFetchRaw (uids : List Uid) :
    Raises (GatewayError.OneOf READ_CODES) (ExceptT.run (uidFetchRaw session uids)) := by
  unfold uidFetchRaw
  split_ifs
  · exact raises_pure _
  · exact raises_bind (raises_attempt _ mapCommandErr_oneOf) fun fetches => raises_pure _

theorem raises_searchOn (mailbox query : String) (limit : ℕ) :
    Raises (GatewayError.OneOf READ_CODES)
      (ExceptT.run (searchOn parse session mailbox query limit)) := by
  refine raises_bind (raises_select session mailbox) fun _ => ?_
  refine raises_bind (raises_bind (raises_attempt _ mapCommandErr_oneOf) fun uids =>
    raises_pure _) fun uids => ?_
  dsimp only
  unfold fetchSelected
  split_ifs
  · exact raises_pure _
  · exact raises_bind (raises_uidFetchRaw session _) fun raws => raises_pure _

theorem raises_getOn (mailbox : String) (uid : Uid) :
    Raises (GatewayError.OneOf READ_CODES) (ExceptT.run (getOn parse session mailbox uid)) := by
  refine raises_bind (raises_select session mailbox) fun _ => ?_
  refine raises_bind (raises_uidFetchRaw session [uid]) fun raws => ?_
  refine raises_bind (raises_except (failsOnly_okOr _ _ ?_)) fun msg => raises_pure _
  simp [GatewayError.OneOf, GatewayError.code, READ_CODES]

end Commands

theorem raises_onFreshSession {α : Type} (cred : MailboxCredential) (settings : ImapSettings)
    (operation : ImapSession → ImapAction α)
    (hoperation : ∀ session,
      Raises (GatewayError.OneOf READ_CODES) (ExceptT.run (operation session))) :
    Raises (GatewayError.OneOf READ_CODES)
      (ExceptT.run (onFreshSession cred settings operation)) := by
  intro h r hplays e he
  rcases plays_onSession operation _ (fun session _ => logout session) h r hplays with
    ⟨e', hopening, rfl⟩ | ⟨session, h₁, h₂, h₃, -, hrun, -, -⟩
  · cases he
    exact List.mem_append_right _ (raises_connectAndLogin cred settings h _ hopening e rfl)
  · exact hoperation session h₂ r hrun e he

end Overfwd
