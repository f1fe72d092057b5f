import Overfwd.PoolRuns

/-! Whether an error of a read is told as the caller's or as the provider's. SEARCH and FETCH
tell every refusal as the caller's; SELECT does so for `NO` alone. -/
namespace Overfwd

open Text Outcome Dialogue

/-- The server or the client's validator has refused the arguments. -/
def ImapErrorKind.isRejection : ImapErrorKind → Bool
  | .no _ => true
  | .bad _ => true
  | .validate _ => true
  | _ => false

/-- The connection has failed. -/
def ImapErrorKind.isLost : ImapErrorKind → Bool
  | .io _ => true
  | .connectionLost => true
  | _ => false

/-- A folder name refused otherwise than by `NO`. -/
def RefusedAtSelect (q : ImapOp) (err : ImapError) : Prop :=
  (∃ session mailbox, q = .select session mailbox) ∧
    ((∃ m, err.kind = .bad m) ∨ ∃ e, err.kind = .validate e)

section Codes

theorem commandError_lost (q : ImapOp) (err : ImapError) (h : err.kind.isLost = true) :
    (commandError q err).code = "host_unreachable" := by
  obtain ⟨kind, display⟩ := err
  cases kind with
  | io e =>
    cases q with
    | _ => rfl
  | connectionLost =>
    cases q with
    | _ => rfl
  | _ => cases h

/-- A refusal is told as the caller's, so the session under it is kept. -/
theorem commandError_rejection (q : ImapOp) (err : ImapError) (h : err.kind.isRejection = true)
    (hselect : ¬ RefusedAtSelect q err) :
    ((commandError q err).code = "not_found" ∨ (commandError q err).code = "bad_request") ∧
      isTransportError (commandError q err) = false := by
  obtain ⟨kind, display⟩ := err
  cases kind with
  | no m =>
    cases q with
    | select session mailbox => exact ⟨Or.inl rfl, rfl⟩
    | _ => exact ⟨Or.inr rfl, rfl⟩
  | bad m =>
    cases q with
    | select session mailbox => exact absurd ⟨⟨session, mailbox, rfl⟩, Or.inl ⟨m, rfl⟩⟩ hselect
    | _ => exact ⟨Or.inr rfl, rfl⟩
  | validate e =>
    cases q with
    | select session mailbox => exact absurd ⟨⟨session, mailbox, rfl⟩, Or.inr ⟨e, rfl⟩⟩ hselect
    | _ => exact ⟨Or.inr rfl, rfl⟩
  | _ => cases h

theorem commandError_refusedAtSelect (q : ImapOp) (err : ImapError) (h : RefusedAtSelect q err) :
    err.kind.isRejection = true ∧ (commandError q err).code = "host_unreachable" := by
  obtain ⟨kind, display⟩ := err
  obtain ⟨⟨session, mailbox, rfl⟩, ⟨m, hkind⟩ | ⟨e, hkind⟩⟩ := h
  · cases hkind
    exact ⟨rfl, rfl⟩
  · cases hkind
    exact ⟨rfl, rfl⟩

end Codes

section Reads

variable (sha256 : Sha256) (config : PoolConfig) (parse : MailParser)

/-- A read through one of the four entry points. -/
def PoolCall.read (pooled : Bool) (call : PoolCall) : ImapProg PoolResult :=
  if pooled then call.body sha256 config parse else call.unpooled parse

/-- The run ends with the session handed to `give_back`. -/
def GivenBack (cred : MailboxCredential) (session : ImapSession) (h : ImapHistory) : Prop :=
  ∃ h₀ h₁, h = h₀ ++ h₁ ∧ Plays (giveBack sha256 config cred session) h₁ ()

/-- A refusal is the caller's and costs no warm session; a lost connection is the
provider's. -/
structure ErrorHandled (pooled : Bool) (call : PoolCall) (h : ImapHistory) (r : PoolResult)
    (q : ImapOp) (err : ImapError) : Prop where
  rejected : err.kind.isRejection = true → ∃ e, r = .error e ∧
    (e.code = "not_found" ∨ e.code = "bad_request") ∧
      (pooled = true → ∃ session, q.serving? = some session ∧
        GivenBack sha256 config call.cred session h)
  lost : err.kind.isLost = true → ∃ e, r = .error e ∧ e.code = "host_unreachable"

/-- A failed command decides the outcome; a pooled session is released under it. -/
theorem failed_in_read (pooled : Bool) (call : PoolCall) (h : ImapHistory) (r : PoolResult)
    (hplays : Plays (call.read sha256 config parse pooled) h r) (q : ImapOp) (err : ImapError)
    (hfailed : CommandFailed h q err) :
    r = .error (commandError q err) ∧ ∃ session h₀ h₁, q.serving? = some session ∧ h = h₀ ++ h₁ ∧
      (pooled = true → Plays (release sha256 config call.cred session r) h₁ ()) := by
  have hquiet {p : ImapAction ImapSession} (hp : AsksOnly ImapOp.IsPreparation p.run) :
      AsksOnly (fun q => q.isCommand = false) p.run := asksOnly_mono hp fun _ hq => hq.1
  unfold PoolCall.read at hplays
  cases pooled with
  | true =>
    rw [if_pos rfl, body_eq] at hplays
    obtain ⟨hr, session, h₀, h₁, hserving, hh, hreleased⟩ := failed_in_operation parse call _
      (hquiet (acquire_asks sha256 config call.cred call.settings)) _
      (release_asks sha256 config call.cred) h r hplays q err hfailed
    exact ⟨hr, session, h₀, h₁, hserving, hh, fun _ => hreleased⟩
  | false =>
    rw [if_neg (by decide), unpooled_eq] at hplays
    obtain ⟨hr, session, h₀, h₁, hserving, hh, -⟩ := failed_in_operation parse call _
      (hquiet (connectAndLogin_prepares call.cred call.settings)) (fun session _ => logout session)
      (fun _ _ => asksOnly_call rfl) h r hplays q err hfailed
    exact ⟨hr, session, h₀, h₁, hserving, hh, fun hpooled => (nomatch hpooled)⟩

/-- Of every command that fails in a read, exactly a `BAD` or a validation error under SELECT
is handled otherwise than it should be. -/
theorem read_errors_handled_iff (pooled : Bool) (call : PoolCall) (h : ImapHistory) (r : PoolResult)
    (hplays : Plays (call.read sha256 config parse pooled) h r) (q : ImapOp) (err : ImapError)
    (hfailed : CommandFailed h q err) :
    ErrorHandled sha256 config pooled call h r q err ↔ ¬ RefusedAtSelect q err := by
  obtain ⟨rfl, session, h₀, h₁, hserving, hh, hrelease⟩ :=
    failed_in_read sha256 config parse pooled call h r hplays q err hfailed
  constructor
  · intro hhandled hselect
    obtain ⟨hrejection, hcode⟩ := commandError_refusedAtSelect q err hselect
    obtain ⟨e, he, hcaller, -⟩ := hhandled.rejected hrejection
    cases he
    rw [hcode] at hcaller
    exact absurd hcaller (by decide)
  · intro hselect
    refine ⟨fun hrejection => ?_, fun hlost => ⟨_, rfl, commandError_lost q err hlost⟩⟩
    obtain ⟨hcaller, htransport⟩ := commandError_rejection q err hrejection hselect
    refine ⟨_, rfl, hcaller, fun hpooled => ⟨session, hserving, h₀, h₁, hh, ?_⟩⟩
    -- An error that is no transport error sends `release` to `give_back`.
    have hreleased := hrelease hpooled
    unfold release at hreleased
    dsimp only at hreleased
    rw [htransport] at hreleased
    exact hreleased

end Reads

/-- A server that answers everything, with `select` and `search` to the two commands. -/
def serverAnswers (select : Except ImapError Unit) (search : Except ImapError UidSet) :
    (q : ImapOp) → q.Answer
  | .tcpConnect target => .ok ⟨target⟩
  | .tlsConnect tcp host insecure => .ok ⟨tcp, host, insecure⟩
  | .readResponse _ => some (.ok ())
  | .login client username password => .ok ⟨1, client, username, password⟩
  | .select _ _ => select
  | .uidSearch _ _ => search
  | .uidFetch _ _ _ => .ok []
  | .noop _ _ => some (.ok ())
  | .logout _ _ => ()
  | .now => 0
  | .take _ _ _ => (none, [])
  | .put _ _ _ _ _ => []

def firstSession : ImapSession :=
  ⟨1, ⟨.plain ⟨(aliceCall "rotated").cred.imap⟩⟩, "alice", "rotated"⟩

/-- The run of a pooled call against such a server. -/
def serverHistory (call : PoolCall) (select : Except ImapError Unit)
    (search : Except ImapError UidSet) : ImapHistory :=
  ((call.read sampleSha256 .default (fun _ => none) true).asked (serverAnswers select search)).map
    fun q => ⟨q, serverAnswers select search q⟩

theorem failed_in_serverHistory (call : PoolCall) (select : Except ImapError Unit)
    (search : Except ImapError UidSet) (i : ℕ) (q : ImapOp) (err : ImapError)
    (hasked : ((call.read sampleSha256 .default (fun _ => none) true).asked
      (serverAnswers select search))[i]? = some q)
    (hfailure : q.failure? (serverAnswers select search q) = some err) :
    CommandFailed (serverHistory call select search) q err :=
  ⟨_, List.mem_map.mpr ⟨q, List.mem_of_getElem? hasked, rfl⟩, hfailure⟩

/-- A folder that the server does not know is the caller's fault and the session is kept;
a search that cannot be written to the connection is the provider's. -/
theorem missing_folder_handled :
    ErrorHandled sampleSha256 .default true (aliceCall "rotated")
      (serverHistory (aliceCall "rotated") (.error ⟨.no "no such mailbox", "no"⟩)
        (.ok ⟨[], List.nodup_nil⟩))
      (.error (mapSelectErr DEFAULT_MAILBOX ⟨.no "no such mailbox", "no"⟩))
      (.select firstSession DEFAULT_MAILBOX) ⟨.no "no such mailbox", "no"⟩ ∧
    ErrorHandled sampleSha256 .default true (aliceCall "rotated")
      (serverHistory (aliceCall "rotated") (.ok ()) (.error ⟨.io "broken pipe", "io"⟩))
      (.error (.hostUnreachable "IMAP command failed: broken pipe"))
      (.uidSearch firstSession "ALL") ⟨.io "broken pipe", "io"⟩ := by
  constructor
  · have hplays := plays_run
      (serverAnswers (.error ⟨.no "no such mailbox", "no"⟩) (.ok ⟨[], List.nodup_nil⟩))
      ((aliceCall "rotated").read sampleSha256 .default (fun _ => none) true)
    refine (read_errors_handled_iff _ _ _ _ _ _ _ hplays _ _ ?_).mpr ?_
    · exact failed_in_serverHistory _ _ _ 5 _ _ rfl rfl
    · rintro ⟨-, ⟨m, hbad⟩ | ⟨e, hvalidate⟩⟩
      · cases hbad
      · cases hvalidate
  · have hplays := plays_run (serverAnswers (.ok ()) (.error ⟨.io "broken pipe", "io"⟩))
      ((aliceCall "rotated").read sampleSha256 .default (fun _ => none) true)
    refine (read_errors_handled_iff _ _ _ _ _ _ _ hplays _ _ ?_).mpr ?_
    · exact failed_in_serverHistory _ _ _ 6 _ _ rfl rfl
    · rintro ⟨⟨session, mailbox, hq⟩, -⟩
      cases hq

/-- A folder name with a line break in it. -/
def brokenFolderCall : PoolCall := { aliceCall "rotated" with mailbox := "IN\r\nBOX" }

/-- The client's validator refuses the folder name; the caller is told of an outage. -/
theorem broken_folder_unreachable :
    (∃ h, Plays (brokenFolderCall.read sampleSha256 .default (fun _ => none) true) h
        (.error (.hostUnreachable "IMAP error selecting 'IN\r\nBOX': invalid character")) ∧
      CommandFailed h (.select firstSession "IN\r\nBOX") ⟨.validate "\r", "invalid character"⟩) ∧
    ¬ ∀ (pooled : Bool) (call : PoolCall) (h : ImapHistory) (r : PoolResult) (q : ImapOp)
      (err : ImapError), Plays (call.read sampleSha256 .default (fun _ => none) pooled) h r →
        CommandFailed h q err → ErrorHandled sampleSha256 .default pooled call h r q err := by
  have hplays := plays_run (serverAnswers (.error ⟨.validate "\r", "invalid character"⟩)
    (.ok ⟨[], List.nodup_nil⟩)) (brokenFolderCall.read sampleSha256 .default (fun _ => none) true)
  have hfailed : CommandFailed (serverHistory brokenFolderCall
      (.error ⟨.validate "\r", "invalid character"⟩) (.ok ⟨[], List.nodup_nil⟩))
      (.select firstSession "IN\r\nBOX") ⟨.validate "\r", "invalid character"⟩ :=
    failed_in_serverHistory _ _ _ 5 _ _ rfl rfl
  refine ⟨⟨_, hplays, hfailed⟩, fun hall => ?_⟩
  have hhandled := hall true brokenFolderCall _ _ _ _ hplays hfailed
  obtain ⟨e, he, hcaller, -⟩ := hhandled.rejected rfl
  cases he
  exact absurd hcaller (by decide)

end Overfwd
