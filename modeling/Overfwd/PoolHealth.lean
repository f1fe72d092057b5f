import Overfwd.PoolWatch

/-! Which sessions stay warm. The code of the operation's error is all that `release` looks
at, and it is enough: no idle session is one whose last command failed under it. -/
namespace Overfwd

open Text Outcome Dialogue Interleaving

/-- The session was put into the pool. -/
def WasPut (session : ImapSession) (h : ImapHistory) : Prop :=
  ∃ key now ttl maxIdle x, ⟨.put key session now ttl maxIdle, x⟩ ∈ h

theorem not_wasPut {session : ImapSession} {h : ImapHistory} (hno : ∀ e ∈ h, e.1.isPut = false) :
    ¬ WasPut session h := by
  rintro ⟨key, now, ttl, maxIdle, x, hmem⟩
  have hput := hno _ hmem
  cases hput

theorem wasPut_append (session : ImapSession) (h h' : ImapHistory) :
    WasPut session (h ++ h') ↔ WasPut session h ∨ WasPut session h' := by
  unfold WasPut
  simp only [List.mem_append, exists_or]

section Release

variable (sha256 : Sha256) (config : PoolConfig) (cred : MailboxCredential) (session : ImapSession)

/-- A session given back is put into the pool, if there is one. -/
theorem wasPut_giveBack (h : ImapHistory)
    (hplays : Plays (giveBack sha256 config cred session) h ()) :
    WasPut session h ↔ config.isEnabled = true := by
  unfold giveBack at hplays
  cases henabled : config.isEnabled with
  | false =>
    rw [if_pos (by rw [henabled]; decide)] at hplays
    obtain rfl := (plays_call _ _).mp hplays
    refine iff_of_false (not_wasPut fun e he => ?_) (by decide)
    obtain rfl := List.mem_singleton.mp he
    rfl
  | true =>
    rw [if_neg (by rw [henabled]; decide)] at hplays
    obtain ⟨h₁, now, h', -, hrest, rfl⟩ := (plays_bind _ _ _).mp hplays
    obtain ⟨h₂, evicted, h₃, hput, -, rfl⟩ := (plays_bind _ _ _).mp hrest
    obtain rfl := (plays_call _ _).mp hput
    exact iff_of_true ⟨_, _, _, _, evicted, by simp⟩ rfl

/-- What `release` does under a transport error is not what `give_back` does. -/
theorem not_giveBack_of_logout : ¬ Plays (giveBack sha256 config cred session)
    [⟨.logout session none, ()⟩] () := by
  intro hplays
  unfold giveBack at hplays
  split_ifs at hplays
  · have hcall := (plays_call _ _).mp hplays
    cases hcall
  · obtain ⟨h₁, now, h', hnow, -, heq⟩ := (plays_bind _ _ _).mp hplays
    obtain rfl := (plays_call _ _).mp hnow
    cases heq

theorem plays_release {α : Type} (r : Except GatewayError α) (h : ImapHistory)
    (hplays : Plays (release sha256 config cred session r) h ()) :
    (Plays (giveBack sha256 config cred session) h () ∧ ¬ FailedInTransport r) ∨
      (h = [⟨.logout session none, ()⟩] ∧ FailedInTransport r) := by
  -- `release` reads nothing of the result but this.
  by_cases hlost : FailedInTransport r
  · rw [release_of_lost sha256 config cred session r hlost] at hplays
    exact Or.inr ⟨(plays_call _ _).mp hplays, hlost⟩
  · rw [release_of_kept sha256 config cred session r hlost] at hplays
    exact Or.inl ⟨hplays, hlost⟩

end Release

section Runs

variable (sha256 : Sha256) (config : PoolConfig) (parse : MailParser)

/-- The call had a session and ran its operation on it; the session is given back, and is put
into the pool if there is one, exactly when the operation ends in no transport error. -/
structure ReturnedUnlessLost (call : PoolCall) (session : ImapSession) (h : ImapHistory)
    (r : PoolResult) : Prop where
  operated : ∃ h₀ h₁ h₂, h = h₀ ++ (h₁ ++ h₂) ∧
    Plays (ExceptT.run (call.operation parse session)) h₁ r ∧
    (Plays (giveBack sha256 config call.cred session) h₂ () ↔ ¬ FailedInTransport r)
  pooled : WasPut session h ↔ config.isEnabled = true ∧ ¬ FailedInTransport r

theorem returned_unless_lost (call : PoolCall) (h : ImapHistory) (r : PoolResult)
    (hplays : Plays (call.body sha256 config parse) h r) :
    (∃ e, Plays (ExceptT.run (acquire sha256 config call.cred call.settings)) h (.error e) ∧
        r = .error e) ∨
      ∃ session, ReturnedUnlessLost sha256 config parse call session h r := by
  rw [body_eq] at hplays
  have hacquire := acquire_asks sha256 config call.cred call.settings
  rcases plays_onSession _ _ (release sha256 config call.cred) h r hplays with hfailed |
    ⟨session, h₁, h₂, h₃, hacquired, hrun, hreleased, rfl⟩
  · exact Or.inl hfailed
  · refine Or.inr ⟨session, ⟨h₁, h₂, h₃, rfl, hrun, ?_⟩, ?_⟩
    · rcases plays_release sha256 config call.cred session r h₃ hreleased with ⟨hgiven, hkept⟩ |
        ⟨rfl, hlost⟩
      · exact iff_of_true hgiven hkept
      · exact iff_of_false (not_giveBack_of_logout sha256 config call.cred session) fun h => h hlost
    · have hfirst : ¬ WasPut session h₁ :=
        not_wasPut fun e he => (asksOnly_plays hacquire hacquired e he).2
      have hsecond : ¬ WasPut session h₂ := by
        apply not_wasPut
        intro e he
        have hread := asksOnly_plays (operation_asks parse call session) hrun e he
        exact isPut_of_read session e.1 hread
      rw [wasPut_append, wasPut_append, or_iff_right hfirst, or_iff_right hsecond]
      rcases plays_release sha256 config call.cred session r h₃ hreleased with ⟨hgiven, hkept⟩ |
        ⟨rfl, hlost⟩
      · rw [wasPut_giveBack sha256 config call.cred session h₃ hgiven]
        exact (and_iff_left hkept).symm
      · refine iff_of_false (not_wasPut fun e he => ?_) fun h => h.2 hlost
        obtain rfl := List.mem_singleton.mp he
        rfl

/-- Whatever the interleaving, the last command on an idle session has not failed under it;
a session that was used is given back exactly when its operation ended in no transport error;
and a command that fails otherwise than by a rejection ends the call in one. -/
theorem idle_sessions_sound (clock₀ : ℕ)
    (c : Config PoolCall CallRecord ImapOp ImapOp.Answer PoolResult WatchedState)
    (hreach : Reachable (watchedSystem sha256 config parse) Set.univ (.start clock₀) c) :
    (∀ session ∈ c.shared.pool.reservoir.idle, LastSound session c.shared.log) ∧
      ∀ call g r, ⟨call, g, .ret r⟩ ∈ c.threads →
        ((∃ e, Plays (ExceptT.run (acquire sha256 config call.cred call.settings)) g.2
            (.error e) ∧ r = .error e) ∨
          ∃ session, ReturnedUnlessLost sha256 config parse call session g.2 r) ∧
        ∀ q err, CommandFailed g.2 q err → err.kind.isRejection = false → FailedInTransport r := by
  have hinv := watch_invariant sha256 config parse Set.univ clock₀
  obtain ⟨-, hwatch⟩ := (reachable_keeps _ _ _ _ _ _ hinv c hreach).1
  refine ⟨hwatch.idle, fun call g r hthread => ?_⟩
  obtain ⟨-, hplays⟩ := reachable_post _ _ _ _ _ _ hinv c hreach call g r hthread
  refine ⟨returned_unless_lost sha256 config parse call g.2 r hplays, ?_⟩
  intro q err hfailed hrejection
  obtain ⟨hr, -⟩ := failed_in_read sha256 config parse true call g.2 r hplays q err hfailed
  exact ⟨_, hr, transport_of_failure q err hrejection⟩

end Runs

/-- The answers of `PoolState.respond`, with the log kept. -/
def WatchedState.respond (s : WatchedState) (q : ImapOp) : q.Answer × WatchedState :=
  ((s.pool.respond q).1, ⟨(s.pool.respond q).2, record s.log q (s.pool.respond q).1⟩)

theorem watched_respond_act (sha256 : Sha256) (config : PoolConfig) (parse : MailParser)
    (s : WatchedState) (q : ImapOp) :
    (watchedSystem sha256 config parse).act s q (s.respond q).1 (s.respond q).2 :=
  ⟨respond_step s.pool q, rfl⟩

/-- After one call its session is idle, and its last command was answered. -/
theorem served_session_sound :
    ∃ (c : Config PoolCall CallRecord ImapOp ImapOp.Answer PoolResult WatchedState)
      (g : CallRecord) (r : PoolResult),
      Reachable (watchedSystem sampleSha256 .default fun _ => none) Set.univ (.start 0) c ∧
        ⟨aliceCall "rotated", g, .ret r⟩ ∈ c.threads ∧
        firstSession ∈ c.shared.pool.reservoir.idle ∧ LastSound firstSession c.shared.log := by
  obtain ⟨g, hreach⟩ := reachable_call WatchedState.respond _ Set.univ _
    (watched_respond_act sampleSha256 .default fun _ => none) [] (aliceCall "rotated") trivial _
    (Reachable.init : Reachable (watchedSystem sampleSha256 .default fun _ => none) Set.univ
      (.start 0) _)
  have hidle : firstSession ∈ (execute WatchedState.respond (.start 0)
      (aliceProg "rotated")).2.pool.reservoir.idle := by
    have honly : (execute WatchedState.respond (.start 0)
      (aliceProg "rotated")).2.pool.reservoir.idle = {firstSession} := rfl
    rw [honly]
    exact Multiset.mem_singleton_self firstSession
  exact ⟨_, g, _, hreach, List.mem_singleton_self _, hidle,
    (idle_sessions_sound sampleSha256 .default (fun _ => none) 0 _ hreach).1 firstSession hidle⟩

end Overfwd
