import Overfwd.Credential
import Overfwd.Lib.History

namespace Overfwd

open Text Outcome Net Dialogue

abbrev CredentialHistory := List (Exchange CredentialOp CredentialOp.Answer)

/-- An address lookup of the guard. -/
def CredentialOp.IsLookup : CredentialOp → Prop
  | .resolve _ _ => False
  | .lookup _ => True

namespace InlineHeaders

variable (h : InlineHeaders) (autoconfigEnabled guardEnabled : Bool)

def hasBoth : Prop := h.imap.isSome = true ∧ h.smtp.isSome = true

/-- The end of either path: both targets are vetted under the name they are known by. -/
def vetted (imapSource smtpSource : String) (imap smtp : HostPort) :
    CredentialProg MailboxCredential := do
  endpointCheck guardEnabled imapSource imap
  endpointCheck guardEnabled smtpSource smtp
  pure (h.credential imap smtp)

/-- What autoconfiguration is asked for a header that is missing, and what it found. -/
structure Autoconfigured (asked : CredentialHistory) (found : MailServers) : Prop where
  direct : h.hasBoth → asked = [] ∧ found = ⟨none, none⟩
  resolved : ¬h.hasBoth → autoconfigEnabled = true ∧ ∃ domain, h.autoconfigDomain = some domain ∧
    asked = [⟨.resolve domain h.autoconfigEmail, .ok found⟩]

/-- How a credential came about: what was found for the missing headers, and the guard's
lookups for exactly the two targets. -/
structure Derivation (history : CredentialHistory) (cred : MailboxCredential)
    (asked : CredentialHistory) (found : MailServers) (imapSource smtpSource : String)
    (imapLookups smtpLookups : CredentialHistory) : Prop where
  history_eq : history = asked ++ (imapLookups ++ smtpLookups)
  autoconfigured : h.Autoconfigured autoconfigEnabled asked found
  username : cred.username = h.username
  password : cred.password = h.password
  imap : h.imap.or found.imap = some cred.imap
  smtp : h.smtp.or found.smtp = some cred.smtp
  imap_checked : Plays (ExceptT.run (endpointCheck guardEnabled imapSource cred.imap)) imapLookups
    (.ok ())
  smtp_checked : Plays (ExceptT.run (endpointCheck guardEnabled smtpSource cred.smtp)) smtpLookups
    (.ok ())

theorem vetted_ok (imapSource smtpSource : String) (imap smtp : HostPort)
    (history : CredentialHistory) (cred : MailboxCredential)
    (hplays : Plays (ExceptT.run (h.vetted guardEnabled imapSource smtpSource imap smtp)) history
      (.ok cred)) :
    ∃ imapLookups smtpLookups, history = imapLookups ++ smtpLookups ∧
      cred = h.credential imap smtp ∧
      Plays (ExceptT.run (endpointCheck guardEnabled imapSource imap)) imapLookups (.ok ()) ∧
      Plays (ExceptT.run (endpointCheck guardEnabled smtpSource smtp)) smtpLookups (.ok ()) := by
  obtain ⟨imapLookups, ⟨⟩, h₂, himap, hrest, rfl⟩ := plays_ok_bind _ _ _ hplays
  obtain ⟨smtpLookups, ⟨⟩, h₃, hsmtp, hpure, rfl⟩ := plays_ok_bind _ _ _ hrest
  obtain ⟨rfl, hcred⟩ := (plays_run_pure _ _).mp hpure
  cases hcred
  rw [List.append_nil]
  exact ⟨imapLookups, smtpLookups, rfl, rfl, himap, hsmtp⟩

theorem intoCredential_both (imap smtp : HostPort) (himap : h.imap = some imap)
    (hsmtp : h.smtp = some smtp) :
    h.intoCredential autoconfigEnabled guardEnabled =
      h.vetted guardEnabled H_MAILBOX_IMAP H_MAILBOX_SMTP imap smtp := by
  unfold intoCredential
  rw [himap, hsmtp]
  rfl

def noDomainMessage : String := missingTargetMessage ++
  "; cannot autoconfigure without a domain — supply the host header(s) or " ++ H_MAILBOX_DOMAIN

/-- The path on which a header is missing, past the switch. -/
def derived : CredentialProg MailboxCredential := do
  let domain ← okOr (GatewayError.badRequest noDomainMessage) h.autoconfigDomain
  let answer ← resolveServers domain h.autoconfigEmail
  let servers ← answer
  let imap ← okOr (GatewayError.autoconfigFailed ("no IMAP endpoint resolved for '" ++ domain ++ "'"))
    (h.imap.or servers.imap)
  let smtp ← okOr (GatewayError.autoconfigFailed ("no SMTP endpoint resolved for '" ++ domain ++ "'"))
    (h.smtp.or servers.smtp)
  h.vetted guardEnabled (sourceLabel h.imap.isSome H_MAILBOX_IMAP "autoconfigured IMAP")
    (sourceLabel h.smtp.isSome H_MAILBOX_SMTP "autoconfigured SMTP") imap smtp

theorem intoCredential_missing (hmissing : ¬h.hasBoth) :
    h.intoCredential autoconfigEnabled guardEnabled =
      if !autoconfigEnabled then throw (.badRequest missingTargetMessage)
      else h.derived guardEnabled := by
  unfold intoCredential
  cases himap : h.imap with
  | none => rw [derived, himap]; rfl
  | some imap =>
    cases hsmtp : h.smtp with
    | none => rw [derived, himap, hsmtp]; rfl
    | some smtp => exact absurd ⟨by rw [himap]; rfl, by rw [hsmtp]; rfl⟩ hmissing

/-- With both headers the credential is derived from them alone. -/
theorem derivation_direct (hboth : h.hasBoth) (history : CredentialHistory)
    (cred : MailboxCredential)
    (hplays : Plays (ExceptT.run (h.intoCredential autoconfigEnabled guardEnabled)) history
      (.ok cred)) :
    ∃ imapLookups smtpLookups, h.Derivation autoconfigEnabled guardEnabled history cred []
      ⟨none, none⟩ H_MAILBOX_IMAP H_MAILBOX_SMTP imapLookups smtpLookups := by
  obtain ⟨imap, himap⟩ := Option.isSome_iff_exists.mp hboth.1
  obtain ⟨smtp, hsmtp⟩ := Option.isSome_iff_exists.mp hboth.2
  rw [h.intoCredential_both autoconfigEnabled guardEnabled imap smtp himap hsmtp] at hplays
  obtain ⟨imapLookups, smtpLookups, rfl, rfl, himapCheck, hsmtpCheck⟩ :=
    h.vetted_ok guardEnabled _ _ imap smtp history cred hplays
  have hauto : h.Autoconfigured autoconfigEnabled [] ⟨none, none⟩ :=
    ⟨fun _ => ⟨rfl, rfl⟩, fun hmissing => absurd hboth hmissing⟩
  exact ⟨imapLookups, smtpLookups, rfl, hauto, rfl, rfl, by rw [himap]; rfl, by rw [hsmtp]; rfl,
    himapCheck, hsmtpCheck⟩

/-- With a header missing, autoconfiguration is asked once and answers for it. -/
theorem derivation_derived (hmissing : ¬h.hasBoth) (history : CredentialHistory)
    (cred : MailboxCredential)
    (hplays : Plays (ExceptT.run (h.derived guardEnabled)) history (.ok cred)) :
    ∃ asked found imapSource smtpSource imapLookups smtpLookups,
      h.Derivation true guardEnabled history cred asked found imapSource smtpSource imapLookups
        smtpLookups := by
  obtain ⟨domain, hdomain, hasks⟩ := plays_ok_except_bind _ _ _ hplays
  obtain ⟨asked, answer, h₂, hresolve, hanswer, rfl⟩ := plays_ok_bind _ _ _ hasks
  obtain ⟨answer', hcall, hsame⟩ := (plays_lift _ _).mp hresolve
  cases hsame
  obtain rfl := (plays_call _ _).mp hcall
  obtain ⟨servers, rfl, hfound⟩ := plays_ok_except_bind _ _ _ hanswer
  obtain ⟨imap, himap, hside⟩ := plays_ok_except_bind _ _ _ hfound
  obtain ⟨smtp, hsmtp, hvetted⟩ := plays_ok_except_bind _ _ _ hside
  obtain ⟨imapLookups, smtpLookups, rfl, rfl, himapCheck, hsmtpCheck⟩ :=
    h.vetted_ok guardEnabled _ _ imap smtp _ cred hvetted
  have hauto : h.Autoconfigured true [⟨.resolve domain h.autoconfigEmail, .ok servers⟩] servers :=
    ⟨fun hdirect => absurd hdirect hmissing,
      fun _ => ⟨rfl, domain, (okOr_eq_ok_iff _ _ _).mp hdomain, rfl⟩⟩
  exact ⟨_, servers, _, _, imapLookups, smtpLookups, rfl, hauto, rfl, rfl,
    (okOr_eq_ok_iff _ _ _).mp himap, (okOr_eq_ok_iff _ _ _).mp hsmtp, himapCheck, hsmtpCheck⟩

/-- On either path a credential has a derivation. -/
theorem intoCredential_derivation (history : CredentialHistory) (cred : MailboxCredential)
    (hplays : Plays (ExceptT.run (h.intoCredential autoconfigEnabled guardEnabled)) history
      (.ok cred)) :
    ∃ asked found imapSource smtpSource imapLookups smtpLookups,
      h.Derivation autoconfigEnabled guardEnabled history cred asked found imapSource smtpSource
        imapLookups smtpLookups := by
  by_cases hboth : h.hasBoth
  · exact ⟨_, _, _, _,
      h.derivation_direct autoconfigEnabled guardEnabled hboth history cred hplays⟩
  · rw [h.intoCredential_missing autoconfigEnabled guardEnabled hboth] at hplays
    cases autoconfigEnabled with
    | false =>
      have hthrow := (plays_throw _ _).mp hplays
      cases hthrow.2
    | true => exact h.derivation_derived guardEnabled hboth history cred hplays

/-- The guard looks addresses up and asks for nothing else. -/
theorem endpointCheck_asks (source : String) (target : HostPort) :
    AsksOnly CredentialOp.IsLookup (ExceptT.run (endpointCheck guardEnabled source target)) := by
  unfold endpointCheck
  split_ifs
  · exact asksOnly_pure _
  · dsimp only
    cases parseIp (bareHost target.host) with
    | some ip =>
      dsimp only
      split_ifs
      · exact asksOnly_pure _
      · exact asksOnly_pure _
    | none =>
      dsimp only
      split_ifs
      · exact asksOnly_pure _
      · apply asksOnly_fallible_bind (asksOnly_lift (asksOnly_call trivial))
        intro answer
        cases answer with
        | error e => exact asksOnly_pure _
        | ok addrs =>
          dsimp only
          split_ifs
          · exact asksOnly_pure _
          · exact asksOnly_pure _
          · exact asksOnly_pure _

theorem vetted_asks (imapSource smtpSource : String) (imap smtp : HostPort) :
    AsksOnly CredentialOp.IsLookup
      (ExceptT.run (h.vetted guardEnabled imapSource smtpSource imap smtp)) := by
  apply asksOnly_fallible_bind (endpointCheck_asks guardEnabled imapSource imap)
  intro _
  apply asksOnly_fallible_bind (endpointCheck_asks guardEnabled smtpSource smtp)
  intro _
  exact asksOnly_pure _

/-- With a target missing and nothing to derive it from, the request is refused at once. -/
theorem intoCredential_underivable (hmissing : ¬h.hasBoth)
    (hnone : autoconfigEnabled = false ∨ h.autoconfigDomain = none) (history : CredentialHistory)
    (r : Except GatewayError MailboxCredential)
    (hplays : Plays (ExceptT.run (h.intoCredential autoconfigEnabled guardEnabled)) history r) :
    history = [] ∧ ∃ message, r = .error (.badRequest message) := by
  rw [h.intoCredential_missing autoconfigEnabled guardEnabled hmissing] at hplays
  cases autoconfigEnabled with
  | false =>
    obtain ⟨rfl, rfl⟩ := (plays_throw _ _).mp hplays
    exact ⟨rfl, _, rfl⟩
  | true =>
    have hdomain : h.autoconfigDomain = none := by
      rcases hnone with hnone | hnone
      · cases hnone
      · exact hnone
    change Plays (ExceptT.run (h.derived guardEnabled)) history r at hplays
    unfold derived at hplays
    rw [hdomain] at hplays
    rcases (plays_except_bind _ _ _).mp hplays with ⟨e, he, rfl, rfl⟩ | ⟨domain, hsome, -⟩
    · cases he
      exact ⟨rfl, _, rfl⟩
    · cases hsome

end InlineHeaders

/-- A credential has the headers' user and password and two targets that the guard has
passed: those of the headers, and the autoconfigured ones where a header is missing. With
both headers autoconfiguration has no part in it; without a domain to go by, or with
autoconfiguration off, nothing is asked and the request is bad. -/
theorem credential_targets (h : InlineHeaders) (guardEnabled : Bool) :
    (∀ autoconfigEnabled history cred,
      Plays (ExceptT.run (h.intoCredential autoconfigEnabled guardEnabled)) history (.ok cred) →
        (∃ asked found imapSource smtpSource imapLookups smtpLookups,
          h.Derivation autoconfigEnabled guardEnabled history cred asked found imapSource
            smtpSource imapLookups smtpLookups) ∧
        (∀ imap, h.imap = some imap → cred.imap = imap) ∧
        ∀ smtp, h.smtp = some smtp → cred.smtp = smtp) ∧
      (h.hasBoth →
        (∀ autoconfigEnabled autoconfigEnabled', h.intoCredential autoconfigEnabled guardEnabled =
          h.intoCredential autoconfigEnabled' guardEnabled) ∧
        ∀ autoconfigEnabled, AsksOnly CredentialOp.IsLookup
          (ExceptT.run (h.intoCredential autoconfigEnabled guardEnabled))) ∧
      (¬h.hasBoth → ∀ autoconfigEnabled, autoconfigEnabled = false ∨ h.autoconfigDomain = none →
        ∀ history r,
          Plays (ExceptT.run (h.intoCredential autoconfigEnabled guardEnabled)) history r →
            history = [] ∧ ∃ message, r = .error (.badRequest message)) := by
  refine ⟨?_, ?_, ?_⟩
  · intro autoconfigEnabled history cred hplays
    have hderivation := h.intoCredential_derivation autoconfigEnabled guardEnabled history cred hplays
    have hgiven (header found : Option HostPort) (target given : HostPort)
        (hside : header.or found = some target) (hheader : header = some given) :
        target = given := by
      rw [hheader] at hside
      exact (Option.some.inj hside).symm
    refine ⟨hderivation, ?_, ?_⟩
    · intro imap himap
      obtain ⟨asked, found, _, _, _, _, hder⟩ := hderivation
      exact hgiven _ _ _ _ hder.imap himap
    · intro smtp hsmtp
      obtain ⟨asked, found, _, _, _, _, hder⟩ := hderivation
      exact hgiven _ _ _ _ hder.smtp hsmtp
  · intro hboth
    obtain ⟨imap, himap⟩ := Option.isSome_iff_exists.mp hboth.1
    obtain ⟨smtp, hsmtp⟩ := Option.isSome_iff_exists.mp hboth.2
    have hprogram (autoconfigEnabled : Bool) :=
      h.intoCredential_both autoconfigEnabled guardEnabled imap smtp himap hsmtp
    refine ⟨?_, ?_⟩
    · intro enabled enabled'
      exact (hprogram enabled).trans (hprogram enabled').symm
    · intro enabled
      rw [hprogram enabled]
      exact h.vetted_asks guardEnabled H_MAILBOX_IMAP H_MAILBOX_SMTP imap smtp
  · intro hmissing autoconfigEnabled hnone history r hplays
    exact h.intoCredential_underivable autoconfigEnabled guardEnabled hmissing hnone history r hplays

/-- A user whose SMTP server is to be found. -/
def halfHeaders : InlineHeaders where
  username := "a@example.com"
  password := "s3cr3t"
  imap := some ⟨"imap.example.com", 993⟩
  smtp := none
  domain := none

/-- Autoconfiguration finds both servers, each with a public address. -/
def bothFound : (q : CredentialOp) → q.Answer
  | .resolve _ _ => .ok ⟨some ⟨"other.example.com", 993⟩, some ⟨"smtp.example.com", 465⟩⟩
  | .lookup _ => .ok [.v4 ⟨93, 184, 216, 34⟩]

/-- What is found for SMTP is used; for IMAP the header stands. -/
theorem half_headers_completed :
    ∃ history cred asked found imapSource smtpSource imapLookups smtpLookups,
      Plays (ExceptT.run (halfHeaders.intoCredential true true)) history (.ok cred) ∧
      halfHeaders.Derivation true true history cred asked found imapSource smtpSource imapLookups
        smtpLookups ∧
      cred.imap = ⟨"imap.example.com", 993⟩ ∧ cred.smtp = ⟨"smtp.example.com", 465⟩ := by
  have hplays := plays_run bothFound (ExceptT.run (halfHeaders.intoCredential true true))
  obtain ⟨⟨asked, found, imapSource, smtpSource, imapLookups, smtpLookups, hderivation⟩, himap, -⟩ :=
    (credential_targets halfHeaders true).1 true _ _ hplays
  exact ⟨_, _, asked, found, imapSource, smtpSource, imapLookups, smtpLookups, hplays, hderivation,
    himap _ rfl, rfl⟩

end Overfwd
