import Overfwd.SessionService

namespace Overfwd

open Text Outcome Dialogue Interleaving Custody

structure WatchedState where
  pool : PoolState
  log : ImapHistory

/-- Nothing has been exchanged. -/
def WatchedState.start (clock : ℕ) : WatchedState := { pool := .start clock, log := [] }

/-- What a call holds, and its history. -/
abbrev CallRecord := Multiset ImapSession × ImapHistory

/-- The runs of `poolSystem`, with everything written down. -/
@[reducible] def watchedSystem (sha256 : Sha256) (config : PoolConfig) (parse : MailParser) :
    System PoolCall CallRecord ImapOp ImapOp.Answer PoolResult WatchedState where
  body call := call.body sha256 config parse
  act s q x s' := s.pool.Step q x s'.pool ∧ s'.log = record s.log q x
  drift s s' := (poolSystem sha256 config parse).drift s.pool s'.pool ∧ s'.log = s.log
  start _ := (0, [])
  next g q x := (sessionLedger.next g.1 q x, record g.2 q x)

theorem watched_details (sha256 : Sha256) (config : PoolConfig) (parse : MailParser) :
    Details (watchedSystem sha256 config parse) (poolSystem sha256 config parse) WatchedState.pool
      Prod.fst where
  body := fun _ => rfl
  act := fun _ _ _ _ hact => hact.1
  drift := fun _ _ hdrift => hdrift.1
  start := fun _ => rfl
  next := fun _ _ _ => rfl

/-- The session was opened as the settings of a call under the key say. -/
def OpenedUnder (sha256 : Sha256) (calls : Set PoolCall) (key : PoolKey) (session : ImapSession) :
    Prop :=
  ∃ call ∈ calls, PoolKey.fromCred sha256 call.cred = key ∧
    session.client.OpenedFor call.cred call.settings

/-- What the log says of the idle sessions, and what it has in common with the histories. -/
structure WatchInvariant (sha256 : Sha256) (calls : Set PoolCall) (s : WatchedState)
    (rs : List (PoolCall × CallRecord)) : Prop where
  entries : ∀ e ∈ s.pool.reservoir.entries, OpenedUnder sha256 calls e.key e.conn
  idle : ∀ session ∈ s.pool.reservoir.idle, LastSound session s.log
  known : ∀ r ∈ rs, ∀ e ∈ r.2.2, ∀ session, e.1.serving? = some session → session ∈ s.pool.opened
  -- A session is no longer the call's to speak of once it has been put.
  agree : ∀ r ∈ rs, (∀ e ∈ r.2.2, e.1.isPut = false) → ∀ session ∈ r.2.1,
    mostRecent session r.2.2 = none ∨ mostRecent session r.2.2 = mostRecent session s.log

/-- A step of one call, in a state where both invariants hold. -/
structure WatchedStep (sha256 : Sha256) (config : PoolConfig) (calls : Set PoolCall)
    (s : WatchedState) (before after : List (PoolCall × CallRecord)) (call : PoolCall)
    (g : CallRecord) (q : ImapOp) (x : q.Answer) (s' : WatchedState) : Prop where
  pool : PoolInvariant config calls (fun _ => True) s.pool
    (plainRecords Prod.fst (before ++ (call, g) :: after))
  watch : WatchInvariant sha256 calls s (before ++ (call, g) :: after)
  allowed : (poolContract sha256 config call.cred fun _ => True).allowed g.1 q
  serves : (serviceContract call.cred call.settings
    (OpenedUnder sha256 calls (.fromCred sha256 call.cred))).allowed g.2 q
  step : s.pool.Step q x s'.pool
  log : s'.log = record s.log q x

namespace WatchedStep

variable {sha256 : Sha256} {config : PoolConfig} {calls : Set PoolCall} {s s' : WatchedState}
  {before after : List (PoolCall × CallRecord)} {call : PoolCall} {g : CallRecord} {q : ImapOp}
  {x : q.Answer} (h : WatchedStep sha256 config calls s before after call g q x s')

include h

/-- A session that the call holds is neither idle nor with another call. -/
theorem alone (session : ImapSession) (hmem : session ∈ g.1) :
    session ∈ s.pool.opened ∧ session ∉ s.pool.reservoir.idle ∧
      ∀ r ∈ before ++ after, session ∉ r.2.1 := by
  have hbalanced : sessionLedger.Balanced s.pool
      (plainRecords Prod.fst before ++ (call, g.1) :: plainRecords Prod.fst after) := by
    simpa [plainRecords] using h.pool.balanced
  obtain ⟨houtside, hothers⟩ := held_alone sessionLedger s.pool _ _ call g.1 hbalanced h.pool.nodup
    session hmem
  refine ⟨?_, ?_, ?_⟩
  · exact mem_created _ _ _ hbalanced call g.1 (by simp) session hmem
  · exact fun hidle => houtside (Multiset.mem_add.mpr (Or.inl hidle))
  · intro r hr
    apply hothers (r.1, r.2.1)
    have hplain : (r.1, r.2.1) ∈ plainRecords Prod.fst (before ++ after) :=
      List.mem_map.mpr ⟨r, hr, rfl⟩
    simpa [plainRecords] using hplain

/-- A command runs on a session that the call holds. -/
theorem holds (session : ImapSession) (hserving : q.serving? = some session) : session ∈ g.1 :=
  h.allowed.1 session (session_of_serving q session hserving)

/-- Of a session that is elsewhere the step tells nothing. -/
theorem mostRecent_elsewhere (session : ImapSession) (helsewhere : session ∉ g.1) :
    mostRecent session s'.log = mostRecent session s.log := by
  rw [h.log]
  apply mostRecent_record_other
  exact fun hserving => helsewhere (h.holds session hserving)

theorem entries (e : Entry ImapSession) (he : e ∈ s'.pool.reservoir.entries) :
    OpenedUnder sha256 calls e.key e.conn := by
  rcases step_entries h.step e he with he | ⟨ttl, maxIdle, rfl⟩
  · exact h.watch.entries e he
  · obtain ⟨-, -, hkey, -⟩ := h.allowed
    obtain ⟨-, hown, -⟩ := h.serves
    rw [hkey]
    exact hown

/-- A session that is put was sound for the call that held it, and so for everyone. -/
theorem idle (session : ImapSession) (hidle : session ∈ s'.pool.reservoir.idle) :
    LastSound session s'.log := by
  -- Either the call has just put the session, or the session was idle all along.
  by_cases hmem : session ∈ g.1
  · rcases step_idle h.step session hidle with hidle | ⟨key, now, ttl, maxIdle, rfl⟩
    · exact absurd hidle (h.alone session hmem).2.1
    · obtain ⟨-, -, hnoPut, e, hlast, hsound⟩ := h.serves
      have hagree := h.watch.agree (call, g) (by simp) hnoPut session hmem
      dsimp only at hagree
      refine ⟨e, ?_, hsound⟩
      rw [h.log, mostRecent_record_other session s.log _ x (fun hserving => (nomatch hserving))]
      rcases hagree with hnone | hsame
      · rw [hlast] at hnone
        cases hnone
      · exact hsame.symm.trans hlast
  · rcases step_idle h.step session hidle with hidle | ⟨key, now, ttl, maxIdle, rfl⟩
    · unfold LastSound
      rw [h.mostRecent_elsewhere session hmem]
      exact h.watch.idle session hidle
    · exact absurd (h.allowed.1 session rfl) hmem

/-- The commands of every call are on sessions that were opened. -/
theorem known (r : PoolCall × CallRecord)
    (hr : r ∈ before ++ (call, (sessionLedger.next g.1 q x, record g.2 q x)) :: after)
    (e : Exchange ImapOp ImapOp.Answer) (he : e ∈ r.2.2) (session : ImapSession)
    (hserving : e.1.serving? = some session) : session ∈ s'.pool.opened := by
  apply step_opened h.step
  rcases place_or_other _ hr with rfl | hr
  · rcases mem_record q x he with he | rfl
    · exact h.watch.known (call, g) (by simp) e he session hserving
    · exact (h.alone session (h.holds session hserving)).1
  · exact h.watch.known r (mem_of_other _ hr) e he session hserving

/-- What the call knows of its own sessions after the step. -/
theorem agree_self (hnoPut : ∀ e ∈ record g.2 q x, e.1.isPut = false) (session : ImapSession)
    (hmem : session ∈ sessionLedger.next g.1 q x) :
    mostRecent session (record g.2 q x) = none ∨
      mostRecent session (record g.2 q x) = mostRecent session s'.log := by
  have hold : ∀ e ∈ g.2, e.1.isPut = false := fun e he => hnoPut e (List.mem_append_left _ he)
  have hput : q.isPut = false := hnoPut ⟨q, x⟩ (by simp [record])
  rw [h.log]
  by_cases hserving : q.serving? = some session
  · rw [mostRecent_record_self session g.2 q x hserving,
      mostRecent_record_self session s.log q x hserving]
    exact Or.inr rfl
  · rw [mostRecent_record_other session g.2 q x hserving,
      mostRecent_record_other session s.log q x hserving]
    unfold Ledger.next at hmem
    rcases Multiset.mem_add.mp hmem with hkept | hgot
    · have hheld : session ∈ g.1 := Multiset.mem_of_le (Multiset.sub_le_self _ _) hkept
      exact h.watch.agree (call, g) (by simp) hold session hheld
    · apply Or.inl
      apply mostRecent_of_unserved
      intro e he hasked
      rcases step_gets h.step session hgot with hfresh | ⟨key, now, ttl, rfl⟩ |
        ⟨key, old, now, ttl, maxIdle, rfl⟩
      · exact hfresh (h.watch.known (call, g) (by simp) e he session hasked)
      · obtain ⟨-, hquiet⟩ := h.serves
        rw [hquiet e he] at hasked
        cases hasked
      · cases hput

theorem agree (r : PoolCall × CallRecord)
    (hr : r ∈ before ++ (call, (sessionLedger.next g.1 q x, record g.2 q x)) :: after)
    (hnoPut : ∀ e ∈ r.2.2, e.1.isPut = false) (session : ImapSession) (hmem : session ∈ r.2.1) :
    mostRecent session r.2.2 = none ∨ mostRecent session r.2.2 = mostRecent session s'.log := by
  rcases place_or_other _ hr with rfl | hr
  · exact h.agree_self hnoPut session hmem
  · have helsewhere : session ∉ g.1 := fun hheld => (h.alone session hheld).2.2 r hr hmem
    rw [h.mostRecent_elsewhere session helsewhere]
    exact h.watch.agree r (mem_of_other _ hr) hnoPut session hmem

/-- What a call may expect of the pool and of the network. -/
theorem expects : (serviceContract call.cred call.settings
    (OpenedUnder sha256 calls (.fromCred sha256 call.cred))).expects g.2 q x := by
  have hstep := h.step
  cases q with
  | tlsConnect tcp host insecure => exact hstep.2
  | login client username password =>
    intro session hsession
    obtain rfl := hsession
    exact hstep.1
  | take key now ttl =>
    intro session hsession
    obtain ⟨rfl, -⟩ := hstep
    obtain ⟨e, he, hkey, rfl⟩ := s.pool.reservoir.take_hit key now ttl session hsession
    obtain ⟨-, -, hterms⟩ := h.allowed
    have hentry := h.watch.entries e he
    rw [hkey, hterms] at hentry
    exact hentry
  | _ => trivial

end WatchedStep

section Invariance

variable (sha256 : Sha256) (config : PoolConfig) (parse : MailParser) (calls : Set PoolCall)

theorem watch_overlay (clock₀ : ℕ) : Overlay (watchedSystem sha256 config parse) calls
    (.start clock₀) WatchedState.pool Prod.fst
    (fun call => poolContract sha256 config call.cred fun _ => True)
    (PoolInvariant config calls fun _ => True)
    (fun call => (serviceContract call.cred call.settings
      (OpenedUnder sha256 calls (.fromCred sha256 call.cred))).along Prod.snd)
    (fun call r g => Plays (call.body sha256 config parse) g.2 r)
    (WatchInvariant sha256 calls) where
  init := by
    constructor
    · exact fun e he => (nomatch he)
    · exact fun session hidle => absurd hidle (Multiset.notMem_zero session)
    · simp
    · simp
  spawn := by
    intro s rs call _ hJ
    refine ⟨hJ.entries, hJ.idle, ?_, ?_⟩
    · apply List.forall_mem_append.mpr ⟨hJ.known, List.forall_mem_singleton.mpr ?_⟩
      intro e he
      cases he
    · apply List.forall_mem_append.mpr ⟨hJ.agree, List.forall_mem_singleton.mpr ?_⟩
      intro _ session hmem
      exact absurd hmem (Multiset.notMem_zero session)
  body := by
    intro call hcall
    have hserves : Keeps record (serviceContract call.cred call.settings
        (OpenedUnder sha256 calls (.fromCred sha256 call.cred))) (call.body sha256 config parse)
        (fun r h => Plays (call.body sha256 config parse) h r)
        ((watchedSystem sha256 config parse).start call).2 := by
      apply serves_body sha256 config _ parse call
      exact fun session hopened => ⟨call, hcall, rfl, hopened⟩
    exact keeps_along record _ Prod.snd (fun _ _ _ => rfl) _ hserves
  expects := by
    intro s before after call g q x s' hI hJ hallowed hserves hact
    exact WatchedStep.expects ⟨hI, hJ, hallowed, hserves, hact.1, hact.2⟩
  act := by
    intro s before after call g q x s' hI hJ hallowed hserves hact
    have hstep : WatchedStep sha256 config calls s before after call g q x s' :=
      ⟨hI, hJ, hallowed, hserves, hact.1, hact.2⟩
    exact ⟨hstep.entries, hstep.idle, hstep.known, hstep.agree⟩
  drift := by
    intro s rs s' hJ hdrift
    obtain ⟨⟨-, hreservoir, hopened, -⟩, hlog⟩ := hdrift
    constructor
    · rw [hreservoir]
      exact hJ.entries
    · rw [hreservoir, hlog]
      exact hJ.idle
    · rw [hopened]
      exact hJ.known
    · rw [hlog]
      exact hJ.agree

/-- The terms of a call, and those of its history. -/
def watchContract (call : PoolCall) : Contract ImapOp ImapOp.Answer CallRecord :=
  ((poolContract sha256 config call.cred fun _ => True).along Prod.fst).both
    ((serviceContract call.cred call.settings
      (OpenedUnder sha256 calls (.fromCred sha256 call.cred))).along Prod.snd)

/-- The invariant of the watched runs, over that of the plain ones. -/
theorem watch_invariant (clock₀ : ℕ) : Invariant (watchedSystem sha256 config parse) calls
    (.start clock₀) (watchContract sha256 config calls)
    (fun call r g => g.1 = 0 ∧ Plays (call.body sha256 config parse) g.2 r)
    (fun s rs => PoolInvariant config calls (fun _ => True) s.pool (plainRecords Prod.fst rs) ∧
      WatchInvariant sha256 calls s rs) :=
  overlay_invariant (watched_details sha256 config parse) calls (.start clock₀) _ _ _
    (pool_invariant sha256 config parse calls _ _ (anyone_tenancy sha256 calls) clock₀) _ _ _
    (watch_overlay sha256 config parse calls clock₀)

end Invariance

end Overfwd
