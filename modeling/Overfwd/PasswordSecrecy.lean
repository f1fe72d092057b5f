import Overfwd.Auth

namespace Overfwd

open Text Outcome Dialogue

def InlineHeaders.withPassword (password : String) (h : InlineHeaders) : InlineHeaders :=
  { h with password := password }

def MailboxCredential.withPassword (password : String) (c : MailboxCredential) :
    MailboxCredential := { c with password := password }

/-- The two requests agree on every header but `X-Mailbox-Auth`. -/
def SameBesidesAuth (headers headers' : HeaderMap) : Prop :=
  ∀ name, name ≠ toAsciiLowercase H_MAILBOX_AUTH →
    headers.entries.lookup name = headers'.entries.lookup name

section Parsing

variable {headers headers' : HeaderMap} (hsame : SameBesidesAuth headers headers')
include hsame

theorem optionalStr_same (name : String)
    (hname : toAsciiLowercase name ≠ toAsciiLowercase H_MAILBOX_AUTH) :
    optionalStr headers' name = optionalStr headers name := by
  unfold optionalStr HeaderMap.get
  rw [hsame _ hname]

theorem optionalHostPort_same (name : String)
    (hname : toAsciiLowercase name ≠ toAsciiLowercase H_MAILBOX_AUTH) :
    optionalHostPort headers' name = optionalHostPort headers name := by
  unfold optionalHostPort
  rw [optionalStr_same hsame name hname]

/-- The password is read with the username and goes nowhere else. -/
theorem parse_withPassword (user password password' : String)
    (hauth : mailboxAuth headers = .ok (user, password))
    (hauth' : mailboxAuth headers' = .ok (user, password')) :
    InlineHeaders.parse headers' =
      InlineHeaders.withPassword password' <$> InlineHeaders.parse headers := by
  unfold InlineHeaders.parse
  rw [hauth, hauth', optionalHostPort_same hsame H_MAILBOX_IMAP (by decide),
    optionalHostPort_same hsame H_MAILBOX_SMTP (by decide),
    optionalStr_same hsame H_MAILBOX_DOMAIN (by decide)]
  rcases optionalHostPort headers H_MAILBOX_IMAP with e | imap
  · rfl
  · rcases optionalHostPort headers H_MAILBOX_SMTP with e | smtp
    · rfl
    · rcases optionalStr headers H_MAILBOX_DOMAIN with e | domain
      · rfl
      · rfl

end Parsing

theorem intoCredential_withPassword (password : String) (h : InlineHeaders)
    (autoconfigEnabled guardEnabled : Bool) :
    (h.withPassword password).intoCredential autoconfigEnabled guardEnabled =
      MailboxCredential.withPassword password <$>
        h.intoCredential autoconfigEnabled guardEnabled := by
  obtain ⟨username, _, imap, smtp, domain⟩ := h
  unfold InlineHeaders.intoCredential InlineHeaders.withPassword
  rcases imap with _ | imap
  · dsimp only
    split_ifs
    · rfl
    · simp only [map_bind, map_pure]
      rfl
  · rcases smtp with _ | smtp
    · dsimp only
      split_ifs
      · rfl
      · simp only [map_bind, map_pure]
        rfl
    · dsimp only
      simp only [map_bind, map_pure]
      rfl

section Requests

variable (fromStr : XmlReader) (settings : AutoconfigSettings)
  (autoconfigEnabled guardEnabled : Bool)

/-- The second request is the first one with its password put into the outcome: equal
programs ask the same questions whatever they are answered. -/
theorem requestCredential_withPassword {headers headers' : HeaderMap}
    (hsame : SameBesidesAuth headers headers') (user password password' : String)
    (hauth : mailboxAuth headers = .ok (user, password))
    (hauth' : mailboxAuth headers' = .ok (user, password')) :
    requestCredential fromStr settings autoconfigEnabled guardEnabled headers' =
      MailboxCredential.withPassword password' <$>
        requestCredential fromStr settings autoconfigEnabled guardEnabled headers := by
  unfold requestCredential
  rw [parse_withPassword hsame user password password' hauth hauth']
  rcases InlineHeaders.parse headers with e | inline
  · rfl
  · have hprogram := intoCredential_withPassword password' inline autoconfigEnabled guardEnabled
    have hhandled : ((inline.withPassword password').intoCredential autoconfigEnabled
        guardEnabled).run.handle (answerCredential fromStr settings) =
        (Except.map (MailboxCredential.withPassword password')) <$>
          (inline.intoCredential autoconfigEnabled guardEnabled).run.handle
            (answerCredential fromStr settings) := by
      rw [hprogram, ExceptT.run_map, handle_map]
    apply ExceptT.ext
    rw [ExceptT.run_map]
    exact hhandled

theorem parse_malformed (headers : HeaderMap) (value : String) (e : GatewayError)
    (hvalue : requiredStr headers H_MAILBOX_AUTH = .ok value) (hbasic : parseBasic value = .error e) :
    InlineHeaders.parse headers = .error e := by
  have hauth : mailboxAuth headers = .error e := by
    unfold mailboxAuth
    rw [hvalue]
    exact hbasic
  unfold InlineHeaders.parse
  rw [hauth]
  rfl

theorem parseBasic_fails (value : String) :
    FailsOnly (fun e => e = malformedAuth) (parseBasic value) := by
  unfold parseBasic
  refine failsOnly_bind (failsOnly_okOr _ _ rfl) fun b64 => ?_
  refine failsOnly_bind (failsOnly_okOr _ _ rfl) fun bytes => ?_
  refine failsOnly_bind (failsOnly_okOr _ _ rfl) fun decoded => ?_
  refine failsOnly_bind (failsOnly_okOr _ _ rfl) fun parts => ?_
  dsimp only
  split_ifs
  · exact failsOnly_error _ rfl
  · exact failsOnly_ok _

/-- The password is not observed: with the same username behind it, the second request has
the histories of the first one and ends alike but for the password; and a value that cannot
be read ends every request with the same error. -/
theorem password_not_observed (headers headers' : HeaderMap) :
    (SameBesidesAuth headers headers' → ∀ user password password',
      mailboxAuth headers = .ok (user, password) → mailboxAuth headers' = .ok (user, password') →
      ∀ h r', Plays (requestCredential fromStr settings autoconfigEnabled guardEnabled headers').run h r' ↔
        ∃ r, Plays (requestCredential fromStr settings autoconfigEnabled guardEnabled headers).run h r ∧
          r' = MailboxCredential.withPassword password' <$> r) ∧
    ∀ value value' e e', requiredStr headers H_MAILBOX_AUTH = .ok value →
      requiredStr headers' H_MAILBOX_AUTH = .ok value' →
      parseBasic value = .error e → parseBasic value' = .error e' →
      e = e' ∧ InlineHeaders.parse headers = .error e ∧ InlineHeaders.parse headers' = .error e := by
  constructor
  · intro hsame user password password' hauth hauth' h r'
    rw [requestCredential_withPassword fromStr settings autoconfigEnabled guardEnabled hsame
      user password password' hauth hauth', ExceptT.run_map, plays_map]
    rfl
  · intro value value' e e' hvalue hvalue' hbasic hbasic'
    have he := parseBasic_fails value e hbasic
    have he' := parseBasic_fails value' e' hbasic'
    subst he he'
    exact ⟨rfl, parse_malformed headers value _ hvalue hbasic,
      parse_malformed headers' value' _ hvalue' hbasic'⟩

end Requests

/-- An IMAP target and a username to go by for the other one. -/
def authHeaders (value : String) : HeaderMap :=
  ⟨[("x-mailbox-auth", bytes value), ("x-mailbox-imap", bytes "imap.example.com:993")]⟩

/-- An SMTP server is to be found, and every name has a public address. -/
def foundAnswer : (q : RequestOp) → q.Answer
  | .resolver (.get _) => .ok none
  | .resolver (.srv _) => [⟨"smtp.example.com", 465⟩]
  | .resolver (.mx _) => []
  | .resolver (.cacheGet _) => none
  | .resolver .now => 0
  | .resolver (.cacheInsert _ _) => ()
  | .lookup _ => .ok [.v4 ⟨93, 184, 216, 34⟩]

/-- The request of `a@example.com:b`. -/
def requestOfB : RequestProg MailboxCredential :=
  requestCredential (fun _ => none) ⟨3600, 300⟩ true true (authHeaders "Basic YUBleGFtcGxlLmNvbTpi")

/-- `a@example.com:b` and `a@example.com:c`: the first is resolved and vetted, and so is the
second, with the same questions. -/
theorem two_passwords_not_observed : ∃ h,
    Plays requestOfB.run h (.ok ⟨"a@example.com", "b", ⟨"imap.example.com", 993⟩,
      ⟨"smtp.example.com", 465⟩⟩) ∧
    (∃ x, ⟨.resolver (.srv "_submissions._tcp.example.com"), x⟩ ∈ h) ∧
    (∃ x, ⟨.lookup "smtp.example.com", x⟩ ∈ h) ∧
    Plays (requestCredential (fun _ => none) ⟨3600, 300⟩ true true
      (authHeaders "Basic YUBleGFtcGxlLmNvbTpj")).run h (.ok ⟨"a@example.com", "c",
        ⟨"imap.example.com", 993⟩, ⟨"smtp.example.com", 465⟩⟩) := by
  have hsame : SameBesidesAuth (authHeaders "Basic YUBleGFtcGxlLmNvbTpi")
      (authHeaders "Basic YUBleGFtcGxlLmNvbTpj") := by
    intro name hname
    have hauth : toAsciiLowercase H_MAILBOX_AUTH = "x-mailbox-auth" := by decide
    rw [hauth] at hname
    have hbeq : (name == "x-mailbox-auth") = false := beq_eq_false_iff_ne.mpr hname
    simp [authHeaders, List.lookup_cons, hbeq]
  have hplays := plays_run foundAnswer requestOfB.run
  refine ⟨_, hplays, ⟨_, List.mem_map.mpr ⟨_, List.mem_of_getElem? (i := 5) rfl, rfl⟩⟩,
    ⟨_, List.mem_map.mpr ⟨_, List.mem_of_getElem? (i := 9) rfl, rfl⟩⟩, ?_⟩
  exact ((password_not_observed (fun _ => none) ⟨3600, 300⟩ true true _ _).1 hsame "a@example.com"
    "b" "c" (by decide +kernel) (by decide +kernel) _ _).mpr ⟨_, hplays, rfl⟩

end Overfwd
