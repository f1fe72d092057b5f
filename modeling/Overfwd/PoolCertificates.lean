import Overfwd.PoolHealth

/-! Whether the certificate of a session was verified. The pool's key comes from the
credential alone, so a warm session brings along the settings of the call that opened it. -/
namespace Overfwd

open Text Outcome Dialogue Interleaving

/-- An implicit-TLS session to the host of the credential, with its certificate verified. -/
def CertificateVerified (cred : MailboxCredential) (session : ImapSession) : Prop :=
  ∃ tcp, session.client.stream = .tls ⟨tcp, cred.imap.host, false⟩

/-- A call that demands verification, to a port where there is a certificate to verify. -/
def PoolCall.DemandsVerification (call : PoolCall) : Prop :=
  call.settings.tlsInsecure = false ∧ TlsMode.forPort call.cred.imap.port = .implicitTls

theorem verified_of_openedFor (call : PoolCall) (session : ImapSession)
    (hdemands : call.DemandsVerification)
    (hopened : session.client.OpenedFor call.cred call.settings) :
    CertificateVerified call.cred session := by
  obtain ⟨hsecure, hmode⟩ := hdemands
  unfold ImapClient.OpenedFor at hopened
  rw [hmode, hsecure] at hopened
  exact hopened

/-- Without a pool every command of the call is on a session that it opened itself, and so on
a verified one. -/
theorem unpooled_verified (parse : MailParser) (call : PoolCall)
    (hdemands : call.DemandsVerification) :
    Keeps record (serviceContract call.cred call.settings (CertificateVerified call.cred))
      (call.unpooled parse) (fun _ _ => True) [] := by
  rw [unpooled_eq]
  unfold onFreshSession
  rw [keeps_fallible_bind]
  apply keeps_mono _ _ (serves_connectAndLogin call.cred call.settings _ [] fun session hopened =>
    verified_of_openedFor call session hdemands hopened)
  intro r h hverified
  cases r with
  | error e => trivial
  | ok session =>
    dsimp only
    rw [keeps_fallible_bind, keeps_lift]
    apply keeps_mono _ _ (keeps_played _ (operation_asks parse call session) (fun h q hq =>
      allowed_of_command call.cred call.settings _ session h q (hverified session rfl) hq) h)
    intro result h' _
    dsimp only
    unfold logout
    rw [keeps_fallible_bind, keeps_lift, keeps_call]
    refine ⟨allowed_of_free call.cred call.settings _ h' _ trivial, fun _ _ => ?_⟩
    dsimp only
    rw [keeps_except]
    trivial

/-- No call waives the verification under the key of a call that demands it. -/
def Unwaived (sha256 : Sha256) (calls : Set PoolCall) : Prop :=
  ∀ call ∈ calls, call.DemandsVerification → ∀ call' ∈ calls,
    PoolKey.fromCred sha256 call'.cred = .fromCred sha256 call.cred →
      call'.settings.tlsInsecure = false

/-- A call that demands verification is served on verified sessions only. -/
def VerifiedWhereDemanded
    (c : Config PoolCall CallRecord ImapOp ImapOp.Answer PoolResult WatchedState) : Prop :=
  ∀ call g q k session, ⟨call, g, .ask q k⟩ ∈ c.threads → q.serving? = some session →
    call.DemandsVerification → CertificateVerified call.cred session

section Runs

variable (sha256 : Sha256) (config : PoolConfig) (parse : MailParser)

/-- Only a call under the same key can have opened the session. -/
theorem verified_of_unwaived (calls : Set PoolCall) (hunwaived : Unwaived sha256 calls)
    (clock₀ : ℕ) (c : Config PoolCall CallRecord ImapOp ImapOp.Answer PoolResult WatchedState)
    (hreach : Reachable (watchedSystem sha256 config parse) calls (.start clock₀) c) :
    VerifiedWhereDemanded c := by
  intro call g q k session hthread hserving hdemands
  have hinv := watch_invariant sha256 config parse calls clock₀
  obtain ⟨hpool, -⟩ := (reachable_keeps _ _ _ _ _ _ hinv c hreach).1
  obtain ⟨-, hserves, -⟩ := reachable_allowed _ _ _ _ _ _ hinv c hreach call g q k hthread
  obtain ⟨call', hcall', hkey, hopened⟩ := hserves session hserving
  have hcall : call ∈ calls := by
    apply hpool.calls (call, g.1)
    exact List.mem_map.mpr ⟨(call, g), List.mem_map.mpr ⟨_, hthread, rfl⟩, rfl⟩
  -- The key has the host and the port in it, so both calls mean the same server.
  obtain ⟨hhost, hport, -, -⟩ := PoolKey.mk.inj hkey
  have hdemands' : call'.DemandsVerification := by
    refine ⟨hunwaived call hcall hdemands call' hcall' hkey, ?_⟩
    rw [show call'.cred.imap.port = call.cred.imap.port from hport]
    exact hdemands.2
  have hverified := verified_of_openedFor call' session hdemands' hopened
  unfold CertificateVerified at hverified ⊢
  rw [← show call'.cred.imap.host = call.cred.imap.host from hhost]
  exact hverified

/-- Against a network where everything succeeds a call to an implicit-TLS port leaves its
session in the pool, opened as its own settings say. -/
theorem served_session_warm (call : PoolCall) (henabled : config.isEnabled = true)
    (hmode : TlsMode.forPort call.cred.imap.port = .implicitTls) (clock₀ : ℕ) :
    ∃ session tcp,
      session.client.stream = .tls ⟨tcp, call.cred.imap.host, call.settings.tlsInsecure⟩ ∧
      (execute WatchedState.respond (.start clock₀) (call.body sha256 config parse)).2.pool =
        { clock := clock₀, reservoir := ⟨[⟨.fromCred sha256 call.cred, session, clock₀⟩]⟩,
          opened := {session}, discarded := 0 } := by
  obtain ⟨⟨username, password, ⟨host, port⟩, smtp⟩, ⟨insecure⟩, mailbox, action⟩ := call
  obtain ⟨maxIdle, idleTtl⟩ := config
  refine ⟨⟨1, ⟨.tls ⟨⟨⟨host, port⟩⟩, host, insecure⟩⟩, username, password⟩, ⟨⟨host, port⟩⟩, rfl, ?_⟩
  have hport : port = 993 ∨ port = 3993 := by
    by_contra hport
    unfold TlsMode.forPort at hmode
    rw [if_neg hport] at hmode
    cases hmode
  cases maxIdle with
  | zero => cases henabled
  | succ n =>
    cases action with
    | search query limit =>
      cases limit with
      | zero =>
        rcases hport with rfl | rfl
        · rfl
        · rfl
      | succ limit =>
        rcases hport with rfl | rfl
        · rfl
        · rfl
    | get uid =>
      rcases hport with rfl | rfl
      · rfl
      · rfl

/-- A call first asks for a warm session, and checks one that it gets. -/
theorem body_takes (call : PoolCall) (henabled : config.isEnabled = true) :
    ∃ f : ℕ → Option ImapSession × List ImapSession → ImapProg PoolResult,
      call.body sha256 config parse = .ask .now (fun now =>
        .ask (.take (.fromCred sha256 call.cred) now config.idleTtl) (f now)) ∧
      ∀ now session, (f now (some session, [])).next? = some (.noop session IO_TIMEOUT) := by
  rw [body_eq]
  unfold onPooledSession acquire takeWarm
  rw [if_neg (by rw [henabled]; decide)]
  exact ⟨_, rfl, fun _ _ => rfl⟩

theorem take_only_entry (key : PoolKey) (session : ImapSession) (now ttl : ℕ) (httl : 0 < ttl) :
    (⟨[⟨key, session, now⟩]⟩ : Reservoir ImapSession).take key now ttl =
      ((some session, []), ⟨[]⟩) := by
  have hlive : Reservoir.isExpired now ttl ⟨key, session, now⟩ = false := by
    unfold Reservoir.isExpired
    dsimp only
    rw [Nat.sub_self]
    exact decide_eq_false (by omega)
  simp [Reservoir.take, Reservoir.drain, Reservoir.removeLast, hlive]

/-- A call that has been served, and one after it that is stopped at a question. -/
theorem stopped_after_served (calls : Set PoolCall) (first call : PoolCall) (hfirst : first ∈ calls)
    (hcall : call ∈ calls) (clock₀ n : ℕ) (q : ImapOp)
    (hnext : (advance WatchedState.respond n
      (execute WatchedState.respond (.start clock₀) (first.body sha256 config parse)).2
      (call.body sha256 config parse)).1.next? = some q) :
    ∃ (c : Config PoolCall CallRecord ImapOp ImapOp.Answer PoolResult WatchedState)
      (g : CallRecord) (k : q.Answer → ImapProg PoolResult),
      Reachable (watchedSystem sha256 config parse) calls (.start clock₀) c ∧
        c.labels = {first, call} ∧ ⟨call, g, .ask q k⟩ ∈ c.threads := by
  obtain ⟨g₀, hserved⟩ := reachable_call WatchedState.respond _ calls _
    (watched_respond_act sha256 config parse) [] first hfirst _
    (Reachable.init : Reachable (watchedSystem sha256 config parse) calls (.start clock₀) _)
  obtain ⟨g, k, hreach⟩ := reachable_stopped WatchedState.respond _ calls _
    (watched_respond_act sha256 config parse) _ call hcall _ hserved n q hnext
  refine ⟨_, g, k, hreach, ?_, List.mem_append_right _ (List.mem_singleton_self _)⟩
  ext l
  simp [Config.labels, eq_comm]

/-- After a call that waives the verification, one under the same key is served on its
session. -/
theorem served_unverified (calls : Set PoolCall) (henabled : config.isEnabled = true)
    (httl : 0 < config.idleTtl) (call call' : PoolCall) (hcall : call ∈ calls)
    (hcall' : call' ∈ calls) (hmode : TlsMode.forPort call'.cred.imap.port = .implicitTls)
    (hkey : PoolKey.fromCred sha256 call'.cred = .fromCred sha256 call.cred)
    (hwaived : call'.settings.tlsInsecure = true) (clock₀ : ℕ) :
    ∃ (c : Config PoolCall CallRecord ImapOp ImapOp.Answer PoolResult WatchedState)
      (g : CallRecord) (session : ImapSession)
      (k : Option (Except ImapError Unit) → ImapProg PoolResult),
      Reachable (watchedSystem sha256 config parse) calls (.start clock₀) c ∧
        ⟨call, g, .ask (.noop session IO_TIMEOUT) k⟩ ∈ c.threads ∧
        ¬ CertificateVerified call.cred session := by
  obtain ⟨session, tcp, hstream, hpool⟩ :=
    served_session_warm sha256 config parse call' henabled hmode clock₀
  obtain ⟨f, hbody, hnext⟩ := body_takes sha256 config parse call henabled
  have hnoop : (advance WatchedState.respond 2
      (execute WatchedState.respond (.start clock₀) (call'.body sha256 config parse)).2
      (call.body sha256 config parse)).1.next? = some (.noop session IO_TIMEOUT) := by
    rw [hbody]
    dsimp only [advance, WatchedState.respond, PoolState.respond]
    rw [hpool, hkey]
    dsimp only
    rw [take_only_entry _ session clock₀ config.idleTtl httl]
    exact hnext clock₀ session
  obtain ⟨c, g, k, hreach, -, hthread⟩ := stopped_after_served sha256 config parse calls call' call
    hcall' hcall clock₀ 2 _ hnoop
  refine ⟨c, g, session, k, hreach, hthread, ?_⟩
  rintro ⟨tcp', hverified⟩
  rw [hstream, hwaived] at hverified
  obtain ⟨-, -, hinsecure⟩ := TlsStream.mk.inj (MaybeTlsStream.tls.inj hverified)
  cases hinsecure

/-- Whatever the interleaving, calls that demand verification are served on verified sessions
if none under their keys waives it; and where a pool keeps sessions warm, only then. -/
theorem verified_iff_unwaived (clock₀ : ℕ) :
    (∀ c, Reachable (watchedSystem sha256 config parse) Set.univ (.start clock₀) c →
      Unwaived sha256 c.labels → VerifiedWhereDemanded c) ∧
    (config.isEnabled = true → 0 < config.idleTtl → ∀ calls : Set PoolCall,
      (∀ c, Reachable (watchedSystem sha256 config parse) calls (.start clock₀) c →
        VerifiedWhereDemanded c) ↔ Unwaived sha256 calls) := by
  constructor
  · intro c hreach hunwaived
    have hmade := reachable_labels _ _ c.labels _ c hreach fun _ h => h
    exact verified_of_unwaived sha256 config parse c.labels hunwaived clock₀ c hmade
  · intro henabled httl calls
    constructor
    · intro hverified call hcall hdemands call' hcall' hkey
      by_contra hwaived
      obtain ⟨-, hport, -, -⟩ := PoolKey.mk.inj hkey
      have hmode : TlsMode.forPort call'.cred.imap.port = .implicitTls := by
        rw [show call'.cred.imap.port = call.cred.imap.port from hport]
        exact hdemands.2
      obtain ⟨c, g, session, k, hreach, hthread, hunverified⟩ :=
        served_unverified sha256 config parse calls henabled httl call call' hcall hcall' hmode hkey
          (Bool.not_eq_false _ ▸ hwaived) clock₀
      exact hunverified
        (hverified c hreach call g (.noop session IO_TIMEOUT) k session hthread rfl hdemands)
    · intro hunwaived c hreach
      exact verified_of_unwaived sha256 config parse calls hunwaived clock₀ c hreach

end Runs

/-- A call to the implicit-TLS port, with the verification waived or not. -/
def imapsCall (tlsInsecure : Bool) : PoolCall :=
  { aliceCall "rotated" with
    cred := { (aliceCall "rotated").cred with imap := ⟨"mail.example.com", 993⟩ }
    settings := ⟨tlsInsecure⟩ }

theorem imapsCall_demands : (imapsCall false).DemandsVerification := ⟨rfl, rfl⟩

/-- The first session of a run, opened by such a call. -/
def imapsSession (tlsInsecure : Bool) : ImapSession :=
  ⟨1, ⟨.tls ⟨⟨(imapsCall false).cred.imap⟩, "mail.example.com", tlsInsecure⟩⟩, "alice", "rotated"⟩

def imapsProg (tlsInsecure : Bool) : ImapProg PoolResult :=
  (imapsCall tlsInsecure).body sampleSha256 .default fun _ => none

/-- A call that waives the verification, under a key of its own. -/
def lenientCall : PoolCall :=
  { imapsCall true with cred := { (imapsCall true).cred with password := "s3cr3t" } }

/-- The second session of a run, opened by a call that demands verification. -/
def verifiedSession : ImapSession := { imapsSession false with serial := 2 }

/-- After the lenient call, the next one is served on a verified session. -/
theorem imaps_call_verified :
    ∃ (c : Config PoolCall CallRecord ImapOp ImapOp.Answer PoolResult WatchedState) (g : CallRecord)
      (k : Except ImapError Unit → ImapProg PoolResult),
      Reachable (watchedSystem sampleSha256 .default fun _ => none) Set.univ (.start 0) c ∧
        lenientCall ∈ c.labels ∧
        ⟨imapsCall false, g, .ask (.select verifiedSession DEFAULT_MAILBOX) k⟩ ∈ c.threads ∧
        CertificateVerified (imapsCall false).cred verifiedSession := by
  have hnext : (advance WatchedState.respond 6 (execute WatchedState.respond (.start 0)
      (lenientCall.body sampleSha256 .default fun _ => none)).2 (imapsProg false)).1.next? =
      some (.select verifiedSession DEFAULT_MAILBOX) := rfl
  obtain ⟨c, g, k, hreach, hlabels, hthread⟩ := stopped_after_served sampleSha256 .default
    (fun _ => none) Set.univ lenientCall (imapsCall false) trivial trivial 0 6 _ hnext
  have hne : sampleSha256 "rotated".toUTF8 ≠ sampleSha256 "s3cr3t".toUTF8 := by decide +kernel
  have hunwaived : Unwaived sampleSha256 c.labels := by
    rw [hlabels]
    rintro call hcall hdemands call' (rfl | rfl) hkey
    · rcases hcall with rfl | rfl
      · cases hdemands.1
      · exact absurd (PoolKey.mk.inj hkey).2.2.2.symm hne
    · rfl
  refine ⟨c, g, k, hreach, by rw [hlabels]; exact Set.mem_insert _ _, hthread, ?_⟩
  exact (verified_iff_unwaived sampleSha256 .default (fun _ => none) 0).1 c hreach hunwaived
    (imapsCall false) g (.select verifiedSession DEFAULT_MAILBOX) k _ hthread rfl imapsCall_demands

/-- The state once a call that waives the verification has been served. -/
def waivedState : WatchedState := (execute WatchedState.respond (.start 0) (imapsProg true)).2

theorem waived_next : (advance WatchedState.respond 3 waivedState (imapsProg false)).1.next? =
    some (.select (imapsSession true) DEFAULT_MAILBOX) := by
  rfl

/-- The next call, which demands it, is served on the session of the first. -/
theorem unverified_session_served :
    (∃ (c : Config PoolCall CallRecord ImapOp ImapOp.Answer PoolResult WatchedState) (g : CallRecord)
      (k : Except ImapError Unit → ImapProg PoolResult),
      Reachable (watchedSystem sampleSha256 .default fun _ => none) Set.univ (.start 0) c ∧
        ⟨imapsCall false, g, .ask (.select (imapsSession true) DEFAULT_MAILBOX) k⟩ ∈ c.threads) ∧
    ¬ ∀ (c : Config PoolCall CallRecord ImapOp ImapOp.Answer PoolResult WatchedState),
      Reachable (watchedSystem sampleSha256 .default fun _ => none) Set.univ (.start 0) c →
        VerifiedWhereDemanded c := by
  obtain ⟨c, g, k, hreach, -, hthread⟩ := stopped_after_served sampleSha256 .default
    (fun _ => none) Set.univ (imapsCall true) (imapsCall false) trivial trivial 0 3 _ waived_next
  refine ⟨⟨c, g, k, hreach, hthread⟩, fun hall => ?_⟩
  obtain ⟨tcp, hstream⟩ := hall c hreach (imapsCall false) g
    (.select (imapsSession true) DEFAULT_MAILBOX) k (imapsSession true) hthread rfl
    imapsCall_demands
  cases hstream

end Overfwd
