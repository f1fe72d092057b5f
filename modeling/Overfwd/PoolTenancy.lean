import Overfwd.PoolRuns

namespace Overfwd

open Text Outcome Dialogue Interleaving Custody

/-- The session was opened with the target and the login of the credential. -/
def OpenedWith (cred : MailboxCredential) (session : ImapSession) : Prop :=
  session.client.stream.tcp.target = cred.imap ∧ session.username = cred.username ∧
    session.password = cred.password

/-- An entry lies under the key of a credential its session was opened with. -/
def KeyOfOrigin (sha256 : Sha256) (calls : Set PoolCall) (e : Entry ImapSession) : Prop :=
  ∃ call ∈ calls, e.key = .fromCred sha256 call.cred ∧ OpenedWith call.cred e.conn

/-- No two passwords of the calls have the same digest. -/
def CollisionFree (sha256 : Sha256) (calls : Set PoolCall) : Prop :=
  ∀ call ∈ calls, ∀ call' ∈ calls,
    sha256 call.cred.password.toUTF8 = sha256 call'.cred.password.toUTF8 →
      call.cred.password = call'.cred.password

section Tenants

variable (sha256 : Sha256) (config : PoolConfig) (parse : MailParser)

/-- Equal keys come from the same IMAP target, username and password. -/
theorem fromCred_injective (calls : Set PoolCall) (hsha : CollisionFree sha256 calls)
    (call call' : PoolCall) (hcall : call ∈ calls) (hcall' : call' ∈ calls)
    (hkey : PoolKey.fromCred sha256 call.cred = .fromCred sha256 call'.cred) :
    call.cred.imap = call'.cred.imap ∧ call.cred.username = call'.cred.username ∧
      call.cred.password = call'.cred.password := by
  obtain ⟨hhost, hport, husername, hdigest⟩ := PoolKey.mk.inj hkey
  refine ⟨?_, husername, hsha call hcall call' hcall' hdigest⟩
  calc call.cred.imap = ⟨call.cred.imap.host, call.cred.imap.port⟩ := rfl
    _ = ⟨call'.cred.imap.host, call'.cred.imap.port⟩ := by rw [hhost, hport]
    _ = call'.cred.imap := rfl

theorem tenancy (calls : Set PoolCall) (hsha : CollisionFree sha256 calls) :
    Tenancy sha256 calls (fun call => OpenedWith call.cred) (KeyOfOrigin sha256 calls) where
  login := fun _ _ _ htarget husername hpassword => ⟨htarget, husername, hpassword⟩
  put := fun call hcall _ _ hown => ⟨call, hcall, rfl, hown⟩
  take := by
    intro call hcall e hfits hkey
    obtain ⟨call', hcall', hkey', htarget, husername, hpassword⟩ := hfits
    obtain ⟨himap, hname, hsecret⟩ :=
      fromCred_injective sha256 calls hsha call' call hcall' hcall (hkey'.symm.trans hkey)
    exact ⟨htarget.trans himap, husername.trans hname, hpassword.trans hsecret⟩

/-- Whatever the interleaving, a command of a call runs on a session that a login opened
with the IMAP host and port, the username and the password of that very call. -/
theorem session_serves_its_credential (clock₀ : ℕ)
    (c : Config PoolCall (Multiset ImapSession) ImapOp ImapOp.Answer PoolResult PoolState)
    (hsha : CollisionFree sha256 c.labels)
    (hreach : Reachable (poolSystem sha256 config parse) Set.univ (.start clock₀) c)
    (call : PoolCall) (g : Multiset ImapSession) (q : ImapOp)
    (k : q.Answer → ImapProg PoolResult) (session : ImapSession)
    (hthread : ⟨call, g, .ask q k⟩ ∈ c.threads) (hserving : q.serving? = some session) :
    session ∈ c.shared.opened ∧ session.client.stream.tcp.target.host = call.cred.imap.host ∧
      session.client.stream.tcp.target.port = call.cred.imap.port ∧
      session.username = call.cred.username ∧ session.password = call.cred.password := by
  -- Digests need to be distinct for the calls of this run only.
  have hmade := reachable_labels _ _ c.labels _ c hreach fun _ h => h
  have hinv := pool_invariant sha256 config parse c.labels _ _ (tenancy sha256 c.labels hsha) clock₀
  have hI := (reachable_keeps _ _ _ _ _ _ hinv c hmade).1
  obtain ⟨hholds, hserves, -⟩ := reachable_allowed _ _ _ _ _ _ hinv c hmade call g q k hthread
  obtain ⟨htarget, husername, hpassword⟩ := hserves session hserving
  have hmem : session ∈ g := hholds session (session_of_serving q session hserving)
  refine ⟨?_, congrArg HostPort.host htarget, congrArg HostPort.port htarget, husername, hpassword⟩
  exact mem_created _ _ _ hI.balanced call g (List.mem_map.mpr ⟨_, hthread, rfl⟩) session hmem

end Tenants

/-- The warm session of the sample run was opened with the rotated password. -/
theorem warm_session_serves_alice :
    ∃ (c : Config PoolCall (Multiset ImapSession) ImapOp ImapOp.Answer PoolResult PoolState)
      (g : Multiset ImapSession) (k : Except ImapError Unit → ImapProg PoolResult),
      Reachable (poolSystem sampleSha256 .default fun _ => none) Set.univ (.start 0) c ∧
        ⟨aliceCall "rotated", g, .ask (.select aliceSession DEFAULT_MAILBOX) k⟩ ∈ c.threads ∧
        aliceSession ∈ c.shared.opened ∧
        aliceSession.password = (aliceCall "rotated").cred.password := by
  obtain ⟨c, g, k, hreach, hthread, hlabels⟩ := warm_call_reachable
  have hne : sampleSha256 "s3cr3t".toUTF8 ≠ sampleSha256 "rotated".toUTF8 := by decide +kernel
  have hsha : CollisionFree sampleSha256 c.labels := by
    intro call hcall call' hcall' hdigest
    rcases hlabels call hcall with rfl | rfl
    · rcases hlabels call' hcall' with rfl | rfl
      · rfl
      · exact absurd hdigest hne
    · rcases hlabels call' hcall' with rfl | rfl
      · exact absurd hdigest.symm hne
      · rfl
  obtain ⟨hopened, -, -, -, hpassword⟩ := session_serves_its_credential sampleSha256 .default
    (fun _ => none) 0 c hsha hreach (aliceCall "rotated") g
    (.select aliceSession DEFAULT_MAILBOX) k aliceSession hthread rfl
  exact ⟨c, g, k, hreach, hthread, hopened, hpassword⟩

end Overfwd
