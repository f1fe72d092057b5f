import Overfwd.CredentialUse

/-! With the endpoint guard on, no mail server whose host is written bare is contacted that the
guard has not passed for the very request. -/
namespace Overfwd

open Text Outcome Net Dialogue

/-- The host is a public literal, or a name that is not internal and was itself looked up, and all
addresses that were found for it, at least one, are public. -/
def Vetted {Address : Type} (H : NetHistory Address) (host : String) : Prop :=
  (∀ ip, parseIp host = some ip → isForbiddenIp ip = false) ∧
    (parseIp host = none → isReservedName (toAsciiLowercase host) = false ∧
      ∃ addrs, ⟨.credential (.lookup host), .ok addrs⟩ ∈ H ∧ addrs ≠ [] ∧
        ∀ ip ∈ addrs, isForbiddenIp ip = false)

/-- The mail server that a question opens a connection to. -/
def NetOp.contact? {Address : Type} : NetOp Address → Option HostPort
  | .imap (.tcpConnect target) => some target
  | .smtp (.sendRaw mailer _ _) => some { host := mailer.host, port := mailer.port }
  | _ => none

/-- What the guard has learnt of a host that it passes, where the host is written bare. -/
theorem endpointCheck_passes (source : String) (target : HostPort) (h : CredentialHistory)
    (hbare : bareHost target.host = target.host)
    (hplays : Plays (ExceptT.run (endpointCheck true source target)) h (.ok ())) :
    (∀ ip, parseIp target.host = some ip → isForbiddenIp ip = false) ∧
      (parseIp target.host = none → isReservedName (toAsciiLowercase target.host) = false ∧
        ∃ addrs, ⟨.lookup target.host, .ok addrs⟩ ∈ h ∧ addrs ≠ [] ∧
          ∀ ip ∈ addrs, isForbiddenIp ip = false) := by
  unfold endpointCheck at hplays
  rw [if_neg (by decide)] at hplays
  dsimp only at hplays
  rw [hbare] at hplays
  cases hip : parseIp target.host with
  | some ip =>
    rw [hip] at hplays
    dsimp only at hplays
    split_ifs at hplays with hforbidden
    · cases ((plays_throw _ _).mp hplays).2
    · refine ⟨?_, fun hnone => nomatch hnone⟩
      rintro _ ⟨⟩
      simpa using hforbidden
  | none =>
    rw [hip] at hplays
    dsimp only at hplays
    split_ifs at hplays with hreserved
    · cases ((plays_throw _ _).mp hplays).2
    · refine ⟨fun _ h => (nomatch h), fun _ => ⟨by simpa using hreserved, ?_⟩⟩
      obtain ⟨h₁, answer, h₂, hlookup, hverdict, rfl⟩ := plays_ok_bind _ _ _ hplays
      obtain ⟨answer', hcall, hsame⟩ := (plays_lift _ _).mp hlookup
      cases hsame
      obtain rfl := (plays_call _ _).mp hcall
      cases answer with
      | error e => cases ((plays_throw _ _).mp hverdict).2
      | ok addrs =>
        dsimp only at hverdict
        split_ifs at hverdict with hempty hforbidden
        · cases ((plays_throw _ _).mp hverdict).2
        · cases ((plays_throw _ _).mp hverdict).2
        · exact ⟨addrs, by simp, by simpa using hempty, by simpa using hforbidden⟩

section Requests

variable {Address : Type} (crates : Crates Address) (env : Env) (state : AppState)

/-- A credential has both its servers vetted, if they are written bare. -/
theorem netCredential_vets (henabled : state.endpoints.enabled = true) (headers : HeaderMap)
    (H : NetHistory Address) (cred : MailboxCredential)
    (hplays : Plays (netCredential crates state headers) H (.ok cred)) (target : HostPort)
    (htarget : target = cred.imap ∨ target = cred.smtp) (hbare : bareHost target.host = target.host) :
    Vetted H target.host := by
  obtain ⟨h, hrequest, rfl⟩ := (plays_relabel NetOp.credential _ H _).mp hplays
  obtain ⟨inline, -, hinto⟩ := plays_ok_except_bind _ _ _ hrequest
  obtain ⟨h', hcred, hlayered⟩ := (plays_handle _ _ _).mp hinto
  rw [henabled] at hcred
  obtain ⟨asked, _, _, _, imapLookups, smtpLookups, hder⟩ :=
    inline.intoCredential_derivation _ _ h' cred hcred
  have hlooked (source : String) (lookups : CredentialHistory) (hsub : lookups ⊆ h')
      (hchecked : Plays (ExceptT.run (endpointCheck true source target)) lookups (.ok ())) :
      Vetted (h.map fun e => (⟨.credential e.1, e.2⟩ : Exchange (NetOp Address) NetOp.Answer))
        target.host := by
    obtain ⟨hliteral, hname⟩ := endpointCheck_passes source target lookups hbare hchecked
    refine ⟨hliteral, fun hnone => ?_⟩
    obtain ⟨hreserved, addrs, hmem, hne, hpublic⟩ := hname hnone
    obtain ⟨H₁, hlookup, hH₁⟩ := layered_played hlayered _ (hsub hmem)
    obtain rfl := (plays_call _ _).mp hlookup
    exact ⟨hreserved, addrs, List.mem_map.mpr ⟨_, hH₁ (List.mem_singleton.mpr rfl), rfl⟩, hne,
      hpublic⟩
  have hsub := hder.history_eq
  rcases htarget with rfl | rfl
  · refine hlooked _ imapLookups ?_ hder.imap_checked
    rw [hsub]
    exact List.subset_append_of_subset_right _ (List.subset_append_left _ _)
  · refine hlooked _ smtpLookups ?_ hder.smtp_checked
    rw [hsub]
    exact List.subset_append_of_subset_right _ (List.subset_append_right _ _)

end Requests

/-- Every variable unset, but for the guard. -/
def guardedApp : AppState := { plainApp with endpoints := { enabled := true } }

def publicAnswer : (q : NetOp String) → q.Answer
  | .credential (.lookup _) => .ok [.v4 ⟨93, 184, 216, 34⟩]
  | q => plainAnswer q

end Overfwd
