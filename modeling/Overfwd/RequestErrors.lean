import Overfwd.CredentialTargets
import Overfwd.PasswordSecrecy
import Overfwd.ReadErrors
import Overfwd.Submission
import Overfwd.Visits

namespace Overfwd

open Text Outcome Net Dialogue Serde

theorem oneOf_of_badRequest {codes : List String} (hcodes : "bad_request" ∈ codes)
    (e : GatewayError) (h : e.IsBadRequest) : e.OneOf codes := by
  obtain ⟨m, rfl⟩ := h
  exact hcodes

theorem error_status_ne (e : GatewayError) : e.intoResponse.status ≠ 200 := by
  cases e with
  | _ => exact fun h => nomatch h

section Headers

theorem asciiStr_fails (name : String) (value : List UInt8) :
    FailsOnly GatewayError.IsBadRequest (asciiStr name value) :=
  failsOnly_okOr _ _ ⟨_, rfl⟩

theorem optionalStr_fails (headers : HeaderMap) (name : String) :
    FailsOnly GatewayError.IsBadRequest (optionalStr headers name) := by
  unfold optionalStr
  cases headers.get name with
  | none => exact failsOnly_ok _
  | some value => exact failsOnly_bind (asciiStr_fails name value) fun s => failsOnly_ok _

theorem hostPortParse_fails (header raw : String) :
    FailsOnly GatewayError.IsBadRequest (HostPort.parse header raw) := by
  refine failsOnly_bind (failsOnly_okOr _ _ ⟨_, rfl⟩) ?_
  rintro ⟨host, port⟩
  dsimp only
  split_ifs
  · exact failsOnly_error _ ⟨_, rfl⟩
  · exact failsOnly_bind (failsOnly_okOr _ _ ⟨_, rfl⟩) fun port => failsOnly_ok _

theorem optionalHostPort_fails (headers : HeaderMap) (name : String) :
    FailsOnly GatewayError.IsBadRequest (optionalHostPort headers name) := by
  refine failsOnly_bind (optionalStr_fails headers name) fun raw => ?_
  cases raw with
  | none => exact failsOnly_ok _
  | some raw => exact failsOnly_bind (hostPortParse_fails name raw) fun target => failsOnly_ok _

theorem inlineParse_fails (headers : HeaderMap) :
    FailsOnly GatewayError.IsBadRequest (InlineHeaders.parse headers) := by
  have hauth : FailsOnly GatewayError.IsBadRequest (mailboxAuth headers) := by
    refine failsOnly_bind ?_ fun auth => ?_
    · exact failsOnly_bind (failsOnly_okOr _ _ ⟨_, rfl⟩) fun value => asciiStr_fails _ value
    · intro e he
      rw [parseBasic_fails auth e he]
      exact ⟨_, rfl⟩
  refine failsOnly_bind hauth fun p => ?_
  refine failsOnly_bind (optionalHostPort_fails headers _) fun imap => ?_
  refine failsOnly_bind (optionalHostPort_fails headers _) fun smtp => ?_
  exact failsOnly_bind (optionalStr_fails headers _) fun domain => failsOnly_ok _

end Headers

section SearchKeys

theorem structuredValue_fails (field : String) (value : Option String) :
    FailsOnly GatewayError.IsBadRequest (structuredValue field value) := by
  unfold structuredValue
  cases value.map trim with
  | none => exact failsOnly_ok _
  | some v =>
    dsimp only
    split_ifs
    · exact failsOnly_ok _
    · exact failsOnly_error _ ⟨_, rfl⟩
    · exact failsOnly_ok _

theorem imapDate_fails (esc : UnicodeEscapes) (value : String) :
    FailsOnly GatewayError.IsBadRequest (imapDate esc value) := by
  unfold imapDate
  rcases split '-' value with _ | ⟨first, _ | ⟨month, _ | ⟨last, _ | ⟨more, rest⟩⟩⟩⟩
  case cons.cons.cons.nil =>
    have hparts : FailsOnly GatewayError.IsBadRequest (dateParts (.badRequest ("invalid `since`: " ++
        debugStr esc value ++ " — expected a date like \"2025-07-01\" or \"1-Jul-2025\""))
        first month last) := by
      unfold dateParts
      split_ifs
      · exact failsOnly_bind (failsOnly_okOr _ _ ⟨_, rfl⟩) fun month => failsOnly_ok _
      · exact failsOnly_bind (failsOnly_okOr _ _ ⟨_, rfl⟩) fun i => failsOnly_ok _
    refine failsOnly_bind hparts ?_
    rintro ⟨year, month, day⟩
    refine failsOnly_bind (failsOnly_okOr _ _ ⟨_, rfl⟩) fun day => ?_
    split_ifs
    · exact failsOnly_error _ ⟨_, rfl⟩
    · exact failsOnly_error _ ⟨_, rfl⟩
    · exact failsOnly_ok _
  all_goals exact failsOnly_error _ ⟨_, rfl⟩

theorem structuredKey_fails (esc : UnicodeEscapes) (p : String × String) :
    FailsOnly GatewayError.IsBadRequest (structuredKey esc p) := by
  unfold structuredKey
  dsimp only
  split_ifs
  · exact failsOnly_ok _
  · exact failsOnly_ok _
  · exact failsOnly_ok _
  · exact failsOnly_bind (imapDate_fails esc p.2) fun date => failsOnly_ok _

theorem searchKey_fails (esc : UnicodeEscapes) (request : SearchRequest) :
    FailsOnly GatewayError.IsBadRequest (request.searchKey esc) := by
  have hstructured : FailsOnly GatewayError.IsBadRequest request.structured := by
    refine failsOnly_bind (structuredValue_fails _ _) fun sender => ?_
    refine failsOnly_bind (structuredValue_fails _ _) fun subject => ?_
    refine failsOnly_bind (structuredValue_fails _ _) fun text => ?_
    exact failsOnly_bind (structuredValue_fails _ _) fun since => failsOnly_ok _
  refine failsOnly_bind hstructured fun structured => ?_
  split_ifs
  · exact failsOnly_error _ ⟨_, rfl⟩
  · exact failsOnly_bind (failsOnly_mapM (structuredKey_fails esc) _) fun keys => failsOnly_ok _
  · unfold SearchRequest.validatedQuery
    cases request.rawQuery with
    | none => exact failsOnly_ok _
    | some query =>
      dsimp only
      split_ifs
      · exact failsOnly_ok _
      · exact failsOnly_error _ ⟨_, rfl⟩

end SearchKeys

section Credential

/-- What a credential may fail with whose targets are given. -/
def CREDENTIAL_CODES : List String := ["bad_request", "host_unreachable"]

theorem raises_endpointCheck (enabled : Bool) (source : String) (target : HostPort) :
    Raises (GatewayError.OneOf CREDENTIAL_CODES)
      (ExceptT.run (endpointCheck enabled source target)) := by
  have hblocked (host : String) : (blocked source host).OneOf CREDENTIAL_CODES :=
    oneOf_of_badRequest (by decide) _ ⟨_, rfl⟩
  have hunreachable (m : String) : (GatewayError.hostUnreachable m).OneOf CREDENTIAL_CODES := by
    simp [GatewayError.OneOf, GatewayError.code, CREDENTIAL_CODES]
  unfold endpointCheck
  split_ifs
  · exact raises_pure _
  · dsimp only
    cases parseIp (bareHost target.host) with
    | some ip =>
      dsimp only
      split_ifs
      · exact raises_throw (hblocked _)
      · exact raises_pure _
    | none =>
      dsimp only
      split_ifs
      · exact raises_throw (hblocked _)
      · refine raises_bind (raises_lift _) fun answer => ?_
        cases answer with
        | error e => exact raises_throw (hunreachable _)
        | ok addrs =>
          dsimp only
          split_ifs
          · exact raises_throw (hunreachable _)
          · exact raises_throw (hblocked _)
          · exact raises_pure _

theorem raises_vetted (h : InlineHeaders) (guardEnabled : Bool) (imapSource smtpSource : String)
    (imap smtp : HostPort) :
    Raises (GatewayError.OneOf CREDENTIAL_CODES)
      (ExceptT.run (h.vetted guardEnabled imapSource smtpSource imap smtp)) := by
  refine raises_bind (raises_endpointCheck _ _ _) fun _ => ?_
  exact raises_bind (raises_endpointCheck _ _ _) fun _ => raises_pure _

theorem resolve_raises (fromStr : XmlReader) (settings : AutoconfigSettings) (domain : String)
    (email : Option String) :
    Raises (GatewayError.OneOf ["autoconfig_failed"]) (resolve fromStr settings domain email) := by
  have hmiss (value : Option MailServers) :
      FailsOnly (GatewayError.OneOf ["autoconfig_failed"]) (okOrMiss (normaliseDomain domain) value) :=
    failsOnly_okOr _ _ (by simp [GatewayError.OneOf, GatewayError.code, autoconfigMiss])
  intro h r hplays
  cases hpublic : isPublicDomain (normaliseDomain domain) with
  | false =>
    rw [resolve_of_not_public _ _ _ _ hpublic] at hplays
    obtain ⟨-, rfl⟩ := (plays_pure _ _).mp hplays
    exact failsOnly_error _ (by simp [GatewayError.OneOf, GatewayError.code, notPublic])
  | true =>
    rw [resolve_of_public _ _ _ _ hpublic] at hplays
    obtain ⟨h₁, hit, h₂, -, hrest, -⟩ := (plays_bind _ _ _).mp hplays
    cases hit with
    | some value =>
      obtain ⟨-, rfl⟩ := (plays_pure _ _).mp hrest
      exact hmiss value
    | none =>
      obtain ⟨_, resolved, _, -, hput, -⟩ := (plays_bind _ _ _).mp hrest
      obtain ⟨_, _, _, -, hpure, -⟩ := (plays_bind _ _ _).mp hput
      obtain ⟨-, rfl⟩ := (plays_pure _ _).mp hpure
      exact hmiss _

/-- A derived credential fails in addition with what autoconfiguration comes to. -/
theorem derived_fails (h : InlineHeaders) (guardEnabled : Bool) (history : CredentialHistory)
    (e : GatewayError)
    (hplays : Plays (ExceptT.run (h.derived guardEnabled)) history (.error e)) :
    e.OneOf ("autoconfig_failed" :: CREDENTIAL_CODES) ∨
      ∃ domain email, ⟨.resolve domain email, .error e⟩ ∈ history := by
  have hfailed (m : String) :
      (GatewayError.autoconfigFailed m).OneOf ("autoconfig_failed" :: CREDENTIAL_CODES) := by
    simp [GatewayError.OneOf, GatewayError.code]
  rcases (plays_except_bind _ _ _).mp hplays with ⟨e', he, -, hr⟩ | ⟨domain, -, hplays⟩
  · cases hr
    left
    exact failsOnly_okOr _ _ (oneOf_of_badRequest (by decide) _ ⟨_, rfl⟩) e he
  · rcases (plays_fallible_bind _ _ _).mp hplays with ⟨e', hasked, -⟩ | ⟨h₁, answer, h₂, hasked, hrest, rfl⟩
    · obtain ⟨_, -, hr⟩ := (plays_lift _ _).mp hasked
      cases hr
    · obtain ⟨answer', hcall, hr⟩ := (plays_lift _ _).mp hasked
      cases hr
      obtain rfl := (plays_call _ _).mp hcall
      rcases (plays_except_bind _ _ _).mp hrest with ⟨e', rfl, -, hr⟩ | ⟨servers, -, hrest⟩
      · cases hr
        exact .inr ⟨domain, h.autoconfigEmail, by simp⟩
      · left
        refine raises_bind (raises_except (failsOnly_okOr _ _ (hfailed _))) (fun imap => ?_) h₂ _
          hrest e rfl
        refine raises_bind (raises_except (failsOnly_okOr _ _ (hfailed _))) fun smtp => ?_
        exact raises_mono (raises_vetted _ _ _ _ _ _) (oneOf_mono (List.subset_cons_self _ _))

variable {Address : Type} (crates : Crates Address) (state : AppState)

/-- The headers leave a target to autoconfiguration. -/
def HeaderMap.LeavesTarget (headers : HeaderMap) : Prop :=
  ∃ inline, InlineHeaders.parse headers = .ok inline ∧ ¬inline.hasBoth

/-- Autoconfiguration is to blame only where it is switched on and asked for. -/
theorem netCredential_fails (headers : HeaderMap) (H : NetHistory Address) (e : GatewayError)
    (hplays : Plays (netCredential crates state headers) H (.error e)) :
    e.OneOf CREDENTIAL_CODES ∨ e.code = "autoconfig_failed" ∧ state.autoconfig.enabled = true ∧
      headers.LeavesTarget := by
  obtain ⟨h, hrequest, -⟩ := (plays_relabel NetOp.credential _ H _).mp hplays
  rcases (plays_except_bind _ _ _).mp hrequest with ⟨e', hparse, -, hr⟩ | ⟨inline, hparse, hinto⟩
  · cases hr
    left
    exact oneOf_of_badRequest (by decide) _ (inlineParse_fails headers e hparse)
  · obtain ⟨h', hcredential, hlayered⟩ := (plays_handle _ _ _).mp hinto
    by_cases hboth : inline.hasBoth
    · obtain ⟨imap, himap⟩ := Option.isSome_iff_exists.mp hboth.1
      obtain ⟨smtp, hsmtp⟩ := Option.isSome_iff_exists.mp hboth.2
      rw [inline.intoCredential_both _ _ imap smtp himap hsmtp] at hcredential
      exact .inl (raises_vetted inline _ _ _ _ _ h' _ hcredential e rfl)
    · rw [inline.intoCredential_missing _ _ hboth] at hcredential
      cases hauto : state.autoconfig.enabled with
      | false =>
        rw [hauto] at hcredential
        obtain ⟨-, hr⟩ := (plays_throw _ _).mp hcredential
        cases hr
        exact .inl (oneOf_of_badRequest (by decide) _ ⟨_, rfl⟩)
      | true =>
        rw [hauto] at hcredential
        have hcode : e.OneOf ("autoconfig_failed" :: CREDENTIAL_CODES) := by
          rcases derived_fails inline _ h' e hcredential with hcode | ⟨domain, email, hmem⟩
          · exact hcode
          · obtain ⟨H', hresolve, -⟩ := layered_played hlayered _ hmem
            obtain ⟨h'', hresolve, -⟩ := (plays_relabel RequestOp.resolver _ _ _).mp hresolve
            have hfailed := resolve_raises _ _ _ _ h'' _ hresolve e rfl
            exact oneOf_mono (by simp) e hfailed
        rcases List.mem_cons.mp hcode with hcode | hcode
        · exact .inr ⟨hcode, rfl, inline, hparse, hboth⟩
        · exact .inl hcode

end Credential

section Actions

variable {Address : Type} (crates : Crates Address) (env : Env)

/-- What a submission may be told. -/
def SEND_CODES : List String := "bad_request" :: PROVIDER_CODES

theorem raises_doSearch (parse : MailParser) (esc : UnicodeEscapes) (settings : ImapSettings)
    (cred : MailboxCredential) (request : SearchRequest) :
    Raises (GatewayError.OneOf READ_CODES)
      (ExceptT.run (doSearch parse esc settings cred request)) := by
  refine raises_bind (raises_except ?_) fun key => ?_
  · intro e he
    exact oneOf_of_badRequest (by decide) e (searchKey_fails esc request e he)
  · refine raises_bind (raises_onFreshSession _ _ _ fun session => ?_) fun found => raises_pure _
    exact raises_searchOn session parse _ _ _

theorem raises_doGet (parse : MailParser) (settings : ImapSettings) (cred : MailboxCredential)
    (request : GetRequest) :
    Raises (GatewayError.OneOf READ_CODES) (ExceptT.run (doGet parse settings cred request)) :=
  raises_onFreshSession _ _ _ fun session => raises_getOn session parse _ _

theorem buildMime_fails (builder : MailBuilder) (stamp : MimeStamp) (message : OutgoingMessage) :
    FailsOnly GatewayError.IsBadRequest (buildMime builder stamp message) := by
  have hpart (attachment : OutgoingAttachment) :
      FailsOnly GatewayError.IsBadRequest (attachmentPart builder attachment) :=
    failsOnly_bind (failsOnly_mapError _ _ fun err => ⟨_, rfl⟩) fun encoded => failsOnly_ok _
  unfold buildMime
  split_ifs
  · exact failsOnly_mapError _ _ fun err => ⟨_, rfl⟩
  · refine failsOnly_bind ?_ fun body => failsOnly_mapError _ _ fun err => ⟨_, rfl⟩
    exact failsOnly_bind (failsOnly_mapM hpart _) fun parts => failsOnly_ok _

theorem mapSmtpError_oneOf (smtp : HostPort) (err : SmtpError) :
    (mapSmtpError smtp err).OneOf SEND_CODES := by
  unfold mapSmtpError
  split_ifs
  · simp [GatewayError.OneOf, GatewayError.code, SEND_CODES, PROVIDER_CODES]
  · cases err.status with
    | none => simp [GatewayError.OneOf, GatewayError.code, SEND_CODES, PROVIDER_CODES]
    | some code =>
      dsimp only
      split_ifs
      · simp [GatewayError.OneOf, GatewayError.code, SEND_CODES, PROVIDER_CODES]
      · simp [GatewayError.OneOf, GatewayError.code, SEND_CODES, PROVIDER_CODES]

theorem raises_doSend (lettre : Lettre Address) (builder : MailBuilder) (tlsInsecure : Option String)
    (stamp : MimeStamp) (cred : MailboxCredential) (request : SendRequest)
    (limits : AttachmentLimits) :
    Raises (GatewayError.OneOf SEND_CODES)
      (ExceptT.run (doSend lettre builder tlsInsecure stamp cred request limits)) := by
  have hbad (e : GatewayError) (he : e.IsBadRequest) : e.OneOf SEND_CODES :=
    oneOf_of_badRequest (by decide) e he
  have htransport : FailsOnly (GatewayError.OneOf SEND_CODES) (buildTransport lettre cred.smtp
      cred.username cred.password ((SmtpSettings.fromEnv tlsInsecure).securityFor cred.smtp)) := by
    unfold buildTransport
    cases (SmtpSettings.fromEnv tlsInsecure).securityFor cred.smtp with
    | plaintext => exact failsOnly_ok _
    | implicitTls insecure =>
      refine failsOnly_bind (failsOnly_mapError _ _ fun err => ?_) fun _ => failsOnly_ok _
      simp [GatewayError.OneOf, GatewayError.code, SEND_CODES, PROVIDER_CODES]
  refine raises_bind (raises_except fun e he => hbad e (intoMessage_fails _ _ e he)) fun message => ?_
  refine raises_bind ?_ fun _ => raises_bind (raises_lift _) fun _ => raises_pure _
  refine raises_bind (raises_except fun e he => hbad e (buildEnvelope_fails _ _ e he)) fun envelope => ?_
  refine raises_bind (raises_except fun e he => hbad e (buildMime_fails _ _ _ e he)) fun raw => ?_
  refine raises_bind (raises_except htransport) fun mailer => ?_
  exact raises_attempt _ (mapSmtpError_oneOf cred.smtp)

end Actions

end Overfwd
