import Overfwd.RequestErrors

namespace Overfwd

open Text Outcome Net Dialogue Serde

section Credential

variable (inline : InlineHeaders) (autoconfigEnabled guardEnabled : Bool)

/-- A domain is resolved for a target that is missing, and a name is looked up when the guard
has to know its addresses. -/
def CredentialOp.HasCause : CredentialOp → Prop
  | .resolve domain email => autoconfigEnabled = true ∧ ¬inline.hasBoth ∧
    inline.autoconfigDomain = some domain ∧ email = inline.autoconfigEmail
  | .lookup host => guardEnabled = true ∧ parseIp host = none ∧
    isReservedName (toAsciiLowercase host) = false ∧
    (inline.hasBoth → ∃ target, (inline.imap = some target ∨ inline.smtp = some target) ∧
      host = bareHost target.host)

theorem endpointCheck_cause (source : String) (target : HostPort)
    (htarget : inline.hasBoth → inline.imap = some target ∨ inline.smtp = some target) :
    AsksOnly (CredentialOp.HasCause inline autoconfigEnabled guardEnabled)
      (ExceptT.run (endpointCheck guardEnabled source target)) := by
  unfold endpointCheck
  split_ifs with henabled
  · exact asksOnly_pure _
  · dsimp only
    cases hip : parseIp (bareHost target.host) with
    | some ip =>
      dsimp only
      split_ifs
      · exact asksOnly_pure _
      · exact asksOnly_pure _
    | none =>
      dsimp only
      split_ifs with hreserved
      · exact asksOnly_pure _
      · have hcause : CredentialOp.HasCause inline autoconfigEnabled guardEnabled
            (.lookup (bareHost target.host)) :=
          ⟨by simpa using henabled, hip, by simpa using hreserved,
            fun hboth => ⟨target, htarget hboth, rfl⟩⟩
        apply asksOnly_fallible_bind (asksOnly_lift (asksOnly_call hcause))
        intro answer
        cases answer with
        | error e => exact asksOnly_pure _
        | ok addrs =>
          dsimp only
          split_ifs
          · exact asksOnly_pure _
          · exact asksOnly_pure _
          · exact asksOnly_pure _

theorem vetted_cause (imapSource smtpSource : String) (imap smtp : HostPort)
    (hgiven : inline.hasBoth → inline.imap = some imap ∧ inline.smtp = some smtp) :
    AsksOnly (CredentialOp.HasCause inline autoconfigEnabled guardEnabled)
      (ExceptT.run (inline.vetted guardEnabled imapSource smtpSource imap smtp)) := by
  apply asksOnly_fallible_bind (endpointCheck_cause inline _ _ _ imap fun h => .inl (hgiven h).1)
  intro _
  apply asksOnly_fallible_bind (endpointCheck_cause inline _ _ _ smtp fun h => .inr (hgiven h).2)
  exact fun _ => asksOnly_pure _

theorem intoCredential_cause :
    AsksOnly (CredentialOp.HasCause inline autoconfigEnabled guardEnabled)
      (ExceptT.run (inline.intoCredential autoconfigEnabled guardEnabled)) := by
  by_cases hboth : inline.hasBoth
  · obtain ⟨imap, himap⟩ := Option.isSome_iff_exists.mp hboth.1
    obtain ⟨smtp, hsmtp⟩ := Option.isSome_iff_exists.mp hboth.2
    rw [inline.intoCredential_both _ _ imap smtp himap hsmtp]
    exact vetted_cause inline _ _ _ _ imap smtp fun _ => ⟨himap, hsmtp⟩
  · rw [inline.intoCredential_missing _ _ hboth]
    cases autoconfigEnabled with
    | false => exact asksOnly_pure _
    | true =>
      change AsksOnly _ (ExceptT.run (inline.derived guardEnabled))
      apply asksOnly_except_bind
      intro domain hdomain
      apply asksOnly_fallible_bind (asksOnly_lift (asksOnly_call
        ⟨rfl, hboth, (okOr_eq_ok_iff _ _ _).mp hdomain, rfl⟩))
      intro answer
      apply asksOnly_fallible_bind (asksOnly_except answer)
      intro servers
      apply asksOnly_fallible_bind (asksOnly_except _)
      intro imap
      apply asksOnly_fallible_bind (asksOnly_except _)
      intro smtp
      exact vetted_cause inline _ _ _ _ imap smtp fun h => absurd h hboth

end Credential

/-- What the headers are the cause of, over the network. -/
def RequestOp.HasCause (state : AppState) (headers : HeaderMap) (q : RequestOp) : Prop :=
  ∃ inline, InlineHeaders.parse headers = .ok inline ∧
    match q with
    | .resolver _ => ∃ domain email, isPublicDomain (normaliseDomain domain) = true ∧
      (CredentialOp.resolve domain email).HasCause inline state.autoconfig.enabled
        state.endpoints.enabled
    | .lookup host => (CredentialOp.lookup host).HasCause inline state.autoconfig.enabled
      state.endpoints.enabled

/-- The cause of a question, in a request that uses these tools. -/
def NetOp.HasCause {Address : Type} (state : AppState) (headers : HeaderMap) (uses : Tool → Prop) :
    NetOp Address → Prop
  | .credential q => q.HasCause state headers
  | .imap _ => uses .search ∨ uses .get
  | .stamp | .smtp _ => uses .send

section Requests

variable {Address : Type} (crates : Crates Address) (env : Env) (state : AppState)

/-- The resolver is not asked a thing about a domain that is not public. -/
theorem resolve_cause (domain : String) (email : Option String) (headers : HeaderMap)
    (inline : InlineHeaders) (hparse : InlineHeaders.parse headers = .ok inline)
    (hcause : (CredentialOp.resolve domain email).HasCause inline state.autoconfig.enabled
      state.endpoints.enabled) :
    AsksOnly (RequestOp.HasCause state headers)
      ((resolve crates.xml state.autoconfig.settings domain email).handle fun q =>
        (call (RequestOp.resolver q) : Prog RequestOp RequestOp.Answer _)) := by
  cases hpublic : isPublicDomain (normaliseDomain domain) with
  | false =>
    rw [resolve_of_not_public _ _ _ _ hpublic]
    exact asksOnly_pure _
  | true =>
    refine asksOnly_handle _ (asksOnly_true _) fun q _ => asksOnly_call ?_
    exact ⟨inline, hparse, domain, email, hpublic, hcause⟩

theorem netCredential_cause (headers : HeaderMap) (uses : Tool → Prop) :
    AsksOnly (NetOp.HasCause state headers uses) (netCredential crates state headers) := by
  have hrequest : AsksOnly (RequestOp.HasCause state headers)
      (requestCredential crates.xml state.autoconfig.settings state.autoconfig.enabled
        state.endpoints.enabled headers).run := by
    apply asksOnly_except_bind
    intro inline hparse
    refine asksOnly_handle _ (intoCredential_cause inline _ _) fun q hq => ?_
    cases q with
    | resolve domain email => exact resolve_cause crates state domain email headers inline hparse hq
    | lookup host => exact asksOnly_call ⟨inline, hparse, hq⟩
  exact asksOnly_handle _ hrequest fun q hq => asksOnly_call hq

theorem answerMcp_cause (headers : HeaderMap) (uses : Tool → Prop) (cred : MailboxCredential)
    (action : Action) (huses : uses action.tool) :
    AsksOnly (NetOp.HasCause state headers uses)
      (answerMcp crates env state (action.op state.config.maxAttachmentBytes cred)) := by
  cases action with
  | search request =>
    exact asksOnly_handle _ (asksOnly_true _) fun q _ => asksOnly_call (.inl huses)
  | get request =>
    exact asksOnly_handle _ (asksOnly_true _) fun q _ => asksOnly_call (.inr huses)
  | send request =>
    refine asksOnly_bind (asksOnly_call ?_) fun stamp => ?_
    · exact huses
    · exact asksOnly_handle _ (asksOnly_true _) fun q _ => asksOnly_call huses

/-- Wherever a run has got to: anything is asked only for a request to a route that is served
and that the gate has let through, and only what the request and the configuration give cause
to ask. -/
theorem asked_only_for_cause (incoming : Incoming) (H : NetHistory Address)
    (hbegins : Begins (serve crates env state incoming) H)
    (e : Exchange (NetOp Address) NetOp.Answer) (he : e ∈ H) :
    incoming.request.served state.config = true ∧ Admitted state.config incoming.headers ∧
      e.1.HasCause state incoming.headers (incoming.request.Uses crates.json) := by
  obtain ⟨rest, reply, hplays⟩ := hbegins
  have hmem : e ∈ H ++ rest := List.mem_append_left rest he
  obtain ⟨hserved, hadmitted⟩ : incoming.request.served state.config = true ∧
      Admitted state.config incoming.headers := by
    rcases plays_serve crates env state incoming hplays with ⟨-, hnone, -⟩ | ⟨-, hnone, -⟩ |
      ⟨hserved, hadmitted, -⟩
    · rw [hnone] at hmem
      cases hmem
    · rw [hnone] at hmem
      cases hmem
    · exact ⟨hserved, hadmitted⟩
  refine ⟨hserved, hadmitted, ?_⟩
  obtain ⟨p, hvisit, he, -⟩ := pieces_mem (serve_visits crates env state incoming _ reply hplays) e hmem
  cases hvisit with
  | credential _ r hresolved =>
    exact asksOnly_plays (netCredential_cause crates state incoming.headers _) hresolved e he
  | acted H₁ H₂ cred action hasks x hresolved hacted =>
    have huses := uses_of_asks crates.json incoming.request action hasks
    rcases List.mem_append.mp he with he | he
    · exact asksOnly_plays (netCredential_cause crates state incoming.headers _) hresolved e he
    · exact asksOnly_plays (answerMcp_cause crates env state incoming.headers _ cred action huses)
        hacted e he

end Requests

/-- A search with both targets dials its IMAP server first: there is no cause for less. -/
theorem search_dials_for_cause : ∃ e : Exchange (NetOp String) NetOp.Answer,
    Begins (serve plainCrates (fun _ => none) plainApp searchIncoming) [e] ∧
      e.1 = .imap (.tcpConnect ⟨"imap.example.com", 993⟩) ∧
      e.1.HasCause plainApp aliceHeaders (searchIncoming.request.Uses noJson) := by
  have hplays := plays_run plainAnswer (serve plainCrates (fun _ => none) plainApp searchIncoming)
  have hbegins : Begins (serve plainCrates (fun _ => none) plainApp searchIncoming)
      [⟨.imap (.tcpConnect ⟨"imap.example.com", 993⟩), .ok ⟨⟨"imap.example.com", 993⟩⟩⟩] :=
    ⟨_, _, hplays⟩
  exact ⟨_, hbegins, rfl, (asked_only_for_cause plainCrates _ plainApp searchIncoming _ hbegins _
    (List.mem_singleton.mpr rfl)).2.2⟩

end Overfwd
