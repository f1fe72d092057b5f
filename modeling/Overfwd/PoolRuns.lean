import Mathlib.Algebra.Order.BigOperators.Group.List
import Mathlib.Algebra.Order.BigOperators.Group.Multiset
import Mathlib.Algebra.Order.Group.Nat
import Mathlib.Algebra.Order.Monoid.Canonical.Basic
import Overfwd.ReadOperation

namespace Overfwd

open Text Outcome Dialogue Interleaving Custody

/-- Any number of pooled calls at any times; a thread's record is what it holds. -/
@[reducible] def poolSystem (sha256 : Sha256) (config : PoolConfig) (parse : MailParser) :
    System PoolCall (Multiset ImapSession) ImapOp ImapOp.Answer PoolResult PoolState where
  body call := call.body sha256 config parse
  act s q x s' := s.Step q x s'
  drift s s' := s.clock ≤ s'.clock ∧ s'.reservoir = s.reservoir ∧ s'.opened = s.opened ∧
    s'.discarded = s.discarded
  start _ := 0
  next := sessionLedger.next

section Steps

variable {s s' : PoolState} {q : ImapOp} {x : q.Answer}

/-- Everything a step can do: nothing to the pool, a login, a logout, a take or a put. -/
theorem step_cases (hstep : s.Step q x s') :
    (q.gives = 0 ∧ q.gets x = 0 ∧ s' = s) ∨
      (∃ session, q.gives = 0 ∧ q.gets x = {session} ∧
        (∀ old ∈ s.opened, old.serial ≠ session.serial) ∧
        s' = { s with opened := session ::ₘ s.opened }) ∨
      (∃ session, q.gives = {session} ∧ q.gets x = 0 ∧
        s' = { s with discarded := session ::ₘ s.discarded }) ∨
      (∃ key now ttl, q = .take key now ttl ∧ q.gives = 0 ∧
        q.gets x = ((s.reservoir.take key now ttl).1.1.toList : Multiset ImapSession) +
          (s.reservoir.take key now ttl).1.2 ∧
        s' = { s with reservoir := (s.reservoir.take key now ttl).2 }) ∨
      ∃ key session now ttl maxIdle, q = .put key session now ttl maxIdle ∧
        q.gives = {session} ∧ q.gets x = (s.reservoir.put key session now ttl maxIdle).1 ∧
        s' = { s with reservoir := (s.reservoir.put key session now ttl maxIdle).2 } := by
  -- A login is the only way to a new handle; one that fails leaves the pool as it was.
  cases q with
  | login client username password =>
    cases x with
    | error e => exact .inl ⟨rfl, rfl, hstep⟩
    | ok session =>
      obtain ⟨-, -, -, hfresh, hs'⟩ := hstep
      exact .inr (.inl ⟨session, rfl, rfl, hfresh, hs'⟩)
  | logout session timeout => exact .inr (.inr (.inl ⟨session, rfl, rfl, hstep⟩))
  | take key now ttl =>
    obtain ⟨rfl, hs'⟩ := hstep
    exact .inr (.inr (.inr (.inl ⟨key, now, ttl, rfl, rfl, rfl, hs'⟩)))
  | put key session now ttl maxIdle =>
    obtain ⟨rfl, hs'⟩ := hstep
    exact .inr (.inr (.inr (.inr ⟨key, session, now, ttl, maxIdle, rfl, rfl, rfl, hs'⟩)))
  | tcpConnect target => exact .inl ⟨rfl, rfl, hstep.1⟩
  | tlsConnect tcp host insecure => exact .inl ⟨rfl, rfl, hstep.1⟩
  | now => exact .inl ⟨rfl, rfl, hstep.2⟩
  | _ => exact .inl ⟨rfl, rfl, hstep⟩

/-- A step of the pool moves sessions and neither makes nor loses any. -/
theorem step_moves (hstep : s.Step q x s') : sessionLedger.Moves s q x s' := by
  unfold Ledger.Moves sessionLedger
  dsimp only
  rcases step_cases hstep with ⟨hgives, hgets, rfl⟩ | ⟨session, hgives, hgets, -, rfl⟩ |
    ⟨session, hgives, hgets, rfl⟩ | ⟨key, now, ttl, -, hgives, hgets, rfl⟩ |
    ⟨key, session, now, ttl, maxIdle, -, hgives, hgets, rfl⟩
  · rw [hgives, hgets]
  · rw [hgives, hgets, ← Multiset.singleton_add]
    dsimp only
    abel
  · rw [hgives, hgets, ← Multiset.singleton_add]
    dsimp only
    abel
  · rw [hgives, hgets, ← s.reservoir.take_conserves key now ttl]
    abel
  · have hconserved := s.reservoir.put_conserves key now ttl maxIdle session
    rw [hgives, hgets]
    calc s.opened + ((s.reservoir.put key session now ttl maxIdle).2.idle + s.discarded) +
          ((s.reservoir.put key session now ttl maxIdle).1 : Multiset ImapSession)
        = s.opened + s.discarded +
          (((s.reservoir.put key session now ttl maxIdle).1 : Multiset ImapSession) +
            (s.reservoir.put key session now ttl maxIdle).2.idle) := by abel
      _ = s.opened + s.discarded + ({session} + s.reservoir.idle) := by
          rw [hconserved, Multiset.singleton_add]
      _ = s.opened + (s.reservoir.idle + s.discarded) + {session} := by abel

theorem step_nodup (hstep : s.Step q x s') (hnodup : s.opened.Nodup) : s'.opened.Nodup := by
  rcases step_cases hstep with ⟨-, -, rfl⟩ | ⟨session, -, -, hfresh, rfl⟩ | ⟨session, -, -, rfl⟩ |
    ⟨key, now, ttl, -, -, -, rfl⟩ | ⟨key, session, now, ttl, maxIdle, -, -, -, rfl⟩
  · exact hnodup
  · refine Multiset.nodup_cons.mpr ⟨fun hmem => ?_, hnodup⟩
    exact hfresh session hmem rfl
  · exact hnodup
  · exact hnodup
  · exact hnodup

/-- Whatever a step does, the reservoir stays bounded by the cap of a put. -/
theorem step_bounded (maxIdle : ℕ) (hstep : s.Step q x s') (hbounded : s.reservoir.len ≤ maxIdle)
    (hput : ∀ key session now ttl cap, q = .put key session now ttl cap → cap = maxIdle) :
    s'.reservoir.len ≤ maxIdle := by
  rcases step_cases hstep with ⟨-, -, rfl⟩ | ⟨session, -, -, -, rfl⟩ | ⟨session, -, -, rfl⟩ |
    ⟨key, now, ttl, -, -, -, rfl⟩ | ⟨key, session, now, ttl, cap, hq, -, -, rfl⟩
  · exact hbounded
  · exact hbounded
  · exact hbounded
  · exact (s.reservoir.take_length key now ttl).trans hbounded
  · obtain rfl := hput key session now ttl cap hq
    exact s.reservoir.put_length key now ttl cap session

/-- An entry was there before the step, or it is the one that was put. -/
theorem step_entries (hstep : s.Step q x s') (e : Entry ImapSession)
    (he : e ∈ s'.reservoir.entries) :
    e ∈ s.reservoir.entries ∨ ∃ ttl maxIdle, q = .put e.key e.conn e.storedAt ttl maxIdle := by
  rcases step_cases hstep with ⟨-, -, rfl⟩ | ⟨session, -, -, -, rfl⟩ | ⟨session, -, -, rfl⟩ |
    ⟨key, now, ttl, -, -, -, rfl⟩ | ⟨key, session, now, ttl, maxIdle, hq, -, -, rfl⟩
  · exact .inl he
  · exact .inl he
  · exact .inl he
  · exact .inl (s.reservoir.mem_take key now ttl e he)
  · rcases s.reservoir.mem_put key now ttl maxIdle session e he with he | rfl
    · exact .inl he
    · exact .inr ⟨ttl, maxIdle, hq⟩

/-- No session is forgotten. -/
theorem step_opened (hstep : s.Step q x s') (session : ImapSession) (h : session ∈ s.opened) :
    session ∈ s'.opened := by
  rcases step_cases hstep with ⟨-, -, rfl⟩ | ⟨new, -, -, -, rfl⟩ | ⟨old, -, -, rfl⟩ |
    ⟨key, now, ttl, -, -, -, rfl⟩ | ⟨key, old, now, ttl, maxIdle, -, -, -, rfl⟩
  · exact h
  · exact Multiset.mem_cons_of_mem h
  · exact h
  · exact h
  · exact h

/-- A session is idle after the step because it was before, or because it was put. -/
theorem step_idle (hstep : s.Step q x s') (session : ImapSession)
    (h : session ∈ s'.reservoir.idle) : session ∈ s.reservoir.idle ∨
      ∃ key now ttl maxIdle, q = .put key session now ttl maxIdle := by
  obtain ⟨e, he, rfl⟩ := List.mem_map.mp (Multiset.mem_coe.mp h)
  rcases step_entries hstep e he with he | ⟨ttl, maxIdle, hq⟩
  · exact .inl (Multiset.mem_coe.mpr (List.mem_map.mpr ⟨e, he, rfl⟩))
  · exact .inr ⟨e.key, e.storedAt, ttl, maxIdle, hq⟩

/-- A session is got by a login, which makes it, or from the pool. -/
theorem step_gets (hstep : s.Step q x s') (session : ImapSession) (h : session ∈ q.gets x) :
    session ∉ s.opened ∨ (∃ key now ttl, q = .take key now ttl) ∨
      ∃ key old now ttl maxIdle, q = .put key old now ttl maxIdle := by
  rcases step_cases hstep with ⟨-, hgets, -⟩ | ⟨new, -, hgets, hfresh, -⟩ | ⟨old, -, hgets, -⟩ |
    ⟨key, now, ttl, hq, -, -, -⟩ | ⟨key, old, now, ttl, maxIdle, hq, -, -, -⟩
  · rw [hgets] at h
    exact absurd h (Multiset.notMem_zero session)
  · rw [hgets] at h
    obtain rfl := Multiset.mem_singleton.mp h
    exact .inl fun hold => hfresh session hold rfl
  · rw [hgets] at h
    exact absurd h (Multiset.notMem_zero session)
  · exact .inr (.inl ⟨key, now, ttl, hq⟩)
  · exact .inr (.inr ⟨key, old, now, ttl, maxIdle, hq⟩)

end Steps

section Runs

variable (sha256 : Sha256) (config : PoolConfig) (parse : MailParser)

/-- Which sessions a call may be served on, and which entries may lie in the pool. -/
structure Tenancy (calls : Set PoolCall) (own : PoolCall → ImapSession → Prop)
    (fits : Entry ImapSession → Prop) : Prop where
  login : ∀ call ∈ calls, ∀ session, session.client.stream.tcp.target = call.cred.imap →
    session.username = call.cred.username → session.password = call.cred.password →
    own call session
  put : ∀ call ∈ calls, ∀ session now, own call session →
    fits ⟨.fromCred sha256 call.cred, session, now⟩
  take : ∀ call ∈ calls, ∀ e, fits e → e.key = .fromCred sha256 call.cred → own call e.conn

structure PoolInvariant (calls : Set PoolCall) (fits : Entry ImapSession → Prop) (s : PoolState)
    (rs : List (PoolCall × Multiset ImapSession)) : Prop where
  balanced : sessionLedger.Balanced s rs
  nodup : s.opened.Nodup
  bounded : s.reservoir.len ≤ config.maxIdle
  entries : ∀ e ∈ s.reservoir.entries, fits e
  calls : ∀ r ∈ rs, r.1 ∈ calls

section Step

variable {calls : Set PoolCall} {own : PoolCall → ImapSession → Prop}
  {fits : Entry ImapSession → Prop} {s s' : PoolState}
  {before after : List (PoolCall × Multiset ImapSession)} {call : PoolCall}
  {g : Multiset ImapSession} {q : ImapOp} {x : q.Answer}

/-- A call keeps to its terms from start to end, and holds nothing when it is done. -/
theorem keeps_body (call : PoolCall) (own : ImapSession → Prop) (g : Multiset ImapSession) :
    Keeps sessionLedger.next (poolContract sha256 config call.cred own)
      (call.body sha256 config parse) (fun _ g' => g' = g) g := by
  rw [body_eq]
  exact keeps_onPooledSession sha256 config call.cred own call.settings _
    (operation_asks parse call) g

theorem pool_expects (h : Tenancy sha256 calls own fits)
    (hI : PoolInvariant config calls fits s (before ++ (call, g) :: after))
    (hallowed : (poolContract sha256 config call.cred (own call)).allowed g q)
    (hstep : s.Step q x s') : (poolContract sha256 config call.cred (own call)).expects g q x := by
  have hcall : call ∈ calls := hI.calls (call, g) (by simp)
  obtain ⟨-, -, hterms⟩ := hallowed
  cases q with
  | tcpConnect target => exact hstep.2
  | tlsConnect tcp host insecure =>
    intro stream hstream
    rw [hstep.2 stream hstream]
  | login client username password =>
    intro session hsession
    obtain rfl := hsession
    obtain ⟨hclient, husername, hpassword, -⟩ := hstep
    obtain ⟨htarget, rfl, rfl⟩ := hterms
    apply h.login call hcall session
    · rw [hclient]
      exact htarget
    · exact husername
    · exact hpassword
  | take key now ttl =>
    intro session hsession
    obtain ⟨rfl, -⟩ := hstep
    obtain ⟨e, he, hkey, rfl⟩ := s.reservoir.take_hit key now ttl session hsession
    exact h.take call hcall e (hI.entries e he) (hkey.trans hterms)
  | _ => trivial

/-- What is handed over was held: both ways of parting with a session name one. -/
theorem gives_le_held (hallowed : (poolContract sha256 config call.cred (own call)).allowed g q) :
    q.gives ≤ g := by
  obtain ⟨hholds, -, -⟩ := hallowed
  cases q with
  | logout session timeout => exact Multiset.singleton_le.mpr (hholds session rfl)
  | put key session now ttl maxIdle => exact Multiset.singleton_le.mpr (hholds session rfl)
  | _ => exact Multiset.zero_le g

/-- A new entry is one that the call may leave in the pool. -/
theorem fits_of_step (h : Tenancy sha256 calls own fits)
    (hI : PoolInvariant config calls fits s (before ++ (call, g) :: after))
    (hallowed : (poolContract sha256 config call.cred (own call)).allowed g q)
    (hstep : s.Step q x s') (e : Entry ImapSession) (he : e ∈ s'.reservoir.entries) : fits e := by
  rcases step_entries hstep e he with he | ⟨ttl, maxIdle, rfl⟩
  · exact hI.entries e he
  · have hcall : call ∈ calls := hI.calls (call, g) (by simp)
    obtain ⟨-, -, hkey, hown, -⟩ := hallowed
    have hfits := h.put call hcall e.conn e.storedAt hown
    rw [← hkey] at hfits
    exact hfits

theorem pool_act (h : Tenancy sha256 calls own fits)
    (hI : PoolInvariant config calls fits s (before ++ (call, g) :: after))
    (hallowed : (poolContract sha256 config call.cred (own call)).allowed g q)
    (hstep : s.Step q x s') :
    PoolInvariant config calls fits s' (before ++ (call, sessionLedger.next g q x) :: after) where
  balanced := balanced_act _ s s' before after call g q x hI.balanced
    (gives_le_held sha256 config hallowed) (step_moves hstep)
  nodup := step_nodup hstep hI.nodup
  bounded := by
    apply step_bounded config.maxIdle hstep hI.bounded
    rintro key session now ttl cap rfl
    obtain ⟨-, -, -, -, hcap⟩ := hallowed
    exact hcap
  entries := fits_of_step sha256 config h hI hallowed hstep
  calls := by
    intro r hr
    rcases place_or_other _ hr with rfl | hr
    · exact hI.calls (call, g) (by simp)
    · exact hI.calls r (mem_of_other _ hr)

/-- Time that passes moves no session. -/
theorem pool_drift {rs : List (PoolCall × Multiset ImapSession)}
    (hI : PoolInvariant config calls fits s rs) (hreservoir : s'.reservoir = s.reservoir)
    (hopened : s'.opened = s.opened) (hdiscarded : s'.discarded = s.discarded) :
    PoolInvariant config calls fits s' rs where
  balanced := by
    change s'.opened = s'.reservoir.idle + s'.discarded + held rs
    rw [hreservoir, hopened, hdiscarded]
    exact hI.balanced
  nodup := by
    rw [hopened]
    exact hI.nodup
  bounded := by
    rw [hreservoir]
    exact hI.bounded
  entries := by
    rw [hreservoir]
    exact hI.entries
  calls := hI.calls

end Step

theorem pool_invariant (calls : Set PoolCall) (own : PoolCall → ImapSession → Prop)
    (fits : Entry ImapSession → Prop) (h : Tenancy sha256 calls own fits) (clock₀ : ℕ) :
    Invariant (poolSystem sha256 config parse) calls (.start clock₀)
      (fun call => poolContract sha256 config call.cred (own call)) (fun _ _ g => g = 0)
      (PoolInvariant config calls fits) where
  init := by
    constructor
    · rfl
    · exact Multiset.nodup_zero
    · exact Nat.zero_le _
    · intro e he
      cases he
    · simp
  spawn := by
    intro s rs call hcall hI
    refine ⟨balanced_spawn _ s rs call hI.balanced, hI.nodup, hI.bounded, hI.entries, ?_⟩
    exact List.forall_mem_append.mpr ⟨hI.calls, List.forall_mem_singleton.mpr hcall⟩
  body := by
    intro call hcall
    exact keeps_body sha256 config parse call (own call) 0
  expects := by
    intro s before after call g q x s' hI hallowed hstep
    exact pool_expects sha256 config h hI hallowed hstep
  act := by
    intro s before after call g q x s' hI hallowed hstep
    exact pool_act sha256 config h hI hallowed hstep
  drift := by
    intro s rs s' hI hdrift
    obtain ⟨-, hreservoir, hopened, hdiscarded⟩ := hdrift
    exact pool_drift config hI hreservoir hopened hdiscarded

/-- With no say in who is served: any call may use any session. -/
theorem anyone_tenancy (calls : Set PoolCall) :
    Tenancy sha256 calls (fun _ _ => True) (fun _ : Entry ImapSession => True) :=
  ⟨fun _ _ _ _ _ _ => trivial, fun _ _ _ _ _ => trivial, fun _ _ _ _ _ => trivial⟩

/-- The balance of the ledger, read off for one session at a time. -/
theorem counted_once
    (c : Config PoolCall (Multiset ImapSession) ImapOp ImapOp.Answer PoolResult PoolState)
    (hbalanced : sessionLedger.Balanced c.shared c.records) (hnodup : c.shared.opened.Nodup)
    (session : ImapSession) :
    c.shared.reservoir.idle.count session + (c.threads.map fun t => t.ghost.count session).sum +
        c.shared.discarded.count session =
      if session ∈ c.shared.opened then 1 else 0 := by
  have hplace := balanced_count _ _ _ hbalanced hnodup session
  have hrecords : c.records.map (fun r => r.2.count session) =
      c.threads.map fun t => t.ghost.count session := by
    unfold Config.records
    rw [List.map_map]
    rfl
  have houtside : (sessionLedger.outside c.shared).count session =
      c.shared.reservoir.idle.count session + c.shared.discarded.count session :=
    Multiset.count_add session _ _
  rw [hrecords, houtside] at hplace
  refine Eq.trans ?_ hplace
  omega

/-- In any run every session that was ever opened is in one place: idle in one entry,
held by one call, or discarded. A session is used, given back or closed only by the call
that holds it, a finished call holds none, and the pool keeps within its cap. -/
theorem sessions_in_one_place (clock₀ : ℕ)
    (c : Config PoolCall (Multiset ImapSession) ImapOp ImapOp.Answer PoolResult PoolState)
    (hreach : Reachable (poolSystem sha256 config parse) Set.univ (.start clock₀) c) :
    (∀ session, c.shared.reservoir.idle.count session +
        (c.threads.map fun t => t.ghost.count session).sum + c.shared.discarded.count session =
      if session ∈ c.shared.opened then 1 else 0) ∧
      c.shared.reservoir.len ≤ config.maxIdle ∧
      (∀ call g q k session, ⟨call, g, .ask q k⟩ ∈ c.threads → q.session? = some session →
        session ∈ g ∧ session ∉ c.shared.reservoir.idle ∧ session ∉ c.shared.discarded) ∧
      ∀ call g r, ⟨call, g, .ret r⟩ ∈ c.threads → g = 0 := by
  have hinv := pool_invariant sha256 config parse Set.univ _ _ (anyone_tenancy sha256 _) clock₀
  have hI := (reachable_keeps _ _ _ _ _ _ hinv c hreach).1
  refine ⟨counted_once c hI.balanced hI.nodup, hI.bounded, ?_, ?_⟩
  · intro call g q k session hthread habout
    obtain ⟨hholds, -, -⟩ := reachable_allowed _ _ _ _ _ _ hinv c hreach call g q k hthread
    have hmem : session ∈ g := hholds session habout
    have hrecord : (call, g) ∈ c.records := List.mem_map.mpr ⟨_, hthread, rfl⟩
    obtain ⟨before, after, hsplit⟩ := List.append_of_mem hrecord
    have hbalanced := hI.balanced
    rw [hsplit] at hbalanced
    have houtside : session ∉ c.shared.reservoir.idle + c.shared.discarded :=
      (held_alone _ _ before after call g hbalanced hI.nodup session hmem).1
    rw [Multiset.mem_add, not_or] at houtside
    exact ⟨hmem, houtside⟩
  · intro call g r hthread
    exact reachable_post _ _ _ _ _ _ hinv c hreach call g r hthread

end Runs

/-- A serial number above all that were given out. -/
def PoolState.nextSerial (s : PoolState) : ℕ := (s.opened.map ImapSession.serial).sum + 1

/-- A network where everything succeeds and no mailbox has a message. -/
def PoolState.respond (s : PoolState) : (q : ImapOp) → q.Answer × PoolState
  | .tcpConnect target => (.ok ⟨target⟩, s)
  | .tlsConnect tcp host insecure => (.ok ⟨tcp, host, insecure⟩, s)
  | .readResponse _ => (some (.ok ()), s)
  | .login client username password =>
    (.ok ⟨s.nextSerial, client, username, password⟩,
      { s with opened := ⟨s.nextSerial, client, username, password⟩ ::ₘ s.opened })
  | .select _ _ => (.ok (), s)
  | .uidSearch _ _ => (.ok ⟨[], List.nodup_nil⟩, s)
  | .uidFetch _ _ _ => (.ok [], s)
  | .noop _ _ => (some (.ok ()), s)
  | .logout session _ => ((), { s with discarded := session ::ₘ s.discarded })
  | .now => (s.clock, s)
  | .take key now ttl =>
    ((s.reservoir.take key now ttl).1, { s with reservoir := (s.reservoir.take key now ttl).2 })
  | .put key session now ttl maxIdle =>
    ((s.reservoir.put key session now ttl maxIdle).1,
      { s with reservoir := (s.reservoir.put key session now ttl maxIdle).2 })

theorem respond_step (s : PoolState) (q : ImapOp) : s.Step q (s.respond q).1 (s.respond q).2 := by
  cases q with
  | login client username password =>
    refine ⟨rfl, rfl, rfl, fun old hold => ?_, rfl⟩
    have hle : old.serial ≤ (s.opened.map ImapSession.serial).sum :=
      Multiset.le_sum_of_mem (Multiset.mem_map_of_mem _ hold)
    change old.serial ≠ (s.opened.map ImapSession.serial).sum + 1
    omega
  | tcpConnect target =>
    refine ⟨rfl, fun tcp h => ?_⟩
    cases h
    rfl
  | tlsConnect tcp host insecure =>
    refine ⟨rfl, fun stream h => ?_⟩
    cases h
    rfl
  | now => exact ⟨rfl, rfl⟩
  | take key now ttl => exact ⟨rfl, rfl⟩
  | put key session now ttl maxIdle => exact ⟨rfl, rfl⟩
  | _ => rfl

def aliceCall (password : String) : PoolCall :=
  { cred :=
      { username := "alice", password := password, imap := ⟨"mail.example.com", 3143⟩,
        smtp := ⟨"mail.example.com", 3025⟩ }
    settings := ⟨false⟩
    mailbox := DEFAULT_MAILBOX
    action := .search "ALL" 10 }

/-- SHA-256 at the passwords of the sample calls. -/
def sampleSha256 : Sha256 := fun bytes =>
  if bytes.data = "s3cr3t".toUTF8.data then
    #v[78, 115, 140, 165, 86, 60, 6, 207, 208, 1, 130, 153, 147, 61, 88, 219, 29, 216,
      191, 151, 246, 151, 61, 201, 155, 246, 205, 198, 75, 85, 80, 189]
  else if bytes.data = "rotated".toUTF8.data then
    #v[244, 37, 70, 213, 236, 221, 69, 37, 9, 128, 139, 45, 109, 4, 19, 181, 167, 56,
      199, 10, 121, 59, 153, 204, 248, 237, 111, 66, 58, 172, 131, 211]
  else Vector.replicate 32 0

/-- The session of the second login of a run. -/
def aliceSession : ImapSession :=
  ⟨2, ⟨.plain ⟨(aliceCall "rotated").cred.imap⟩⟩, "alice", "rotated"⟩

def aliceProg (password : String) : ImapProg PoolResult :=
  (aliceCall password).body sampleSha256 .default fun _ => none

/-- The pool once both sample calls have been served, one after the other. -/
def warmState : PoolState :=
  (execute PoolState.respond (execute PoolState.respond (.start 0) (aliceProg "s3cr3t")).2
    (aliceProg "rotated")).2

theorem warm_next : (advance PoolState.respond 3 warmState (aliceProg "rotated")).1.next? =
    some (.select aliceSession DEFAULT_MAILBOX) := by
  rfl

/-- A call before and one after a password is rotated, and the second made again up to
its SELECT. -/
theorem warm_call_reachable :
    ∃ (c : Config PoolCall (Multiset ImapSession) ImapOp ImapOp.Answer PoolResult PoolState)
      (g : Multiset ImapSession) (k : Except ImapError Unit → ImapProg PoolResult),
      Reachable (poolSystem sampleSha256 .default fun _ => none) Set.univ (.start 0) c ∧
        ⟨aliceCall "rotated", g, .ask (.select aliceSession DEFAULT_MAILBOX) k⟩ ∈ c.threads ∧
        ∀ call ∈ c.labels, call = aliceCall "s3cr3t" ∨ call = aliceCall "rotated" := by
  obtain ⟨_, hfirst⟩ := reachable_call PoolState.respond _ Set.univ _ respond_step []
    (aliceCall "s3cr3t") trivial _
    (Reachable.init : Reachable (poolSystem sampleSha256 .default fun _ => none) Set.univ
      (.start 0) _)
  obtain ⟨_, hsecond⟩ := reachable_call PoolState.respond _ Set.univ _ respond_step _
    (aliceCall "rotated") trivial _ hfirst
  obtain ⟨g, k, hthird⟩ := reachable_stopped PoolState.respond _ Set.univ _ respond_step _
    (aliceCall "rotated") trivial _ hsecond 3 _ warm_next
  refine ⟨_, g, k, hthird, List.mem_append_right _ (List.mem_singleton.mpr rfl), ?_⟩
  intro call hcall
  obtain ⟨t, ht, rfl⟩ := hcall
  simp only [List.mem_append, List.mem_singleton, List.not_mem_nil, false_or] at ht
  rcases ht with (rfl | rfl) | rfl
  · exact .inl rfl
  · exact .inr rfl
  · exact .inr rfl

/-- The warm session of the sample run is with the third call alone. -/
theorem warm_session_in_one_place :
    ∃ (c : Config PoolCall (Multiset ImapSession) ImapOp ImapOp.Answer PoolResult PoolState)
      (g : Multiset ImapSession) (k : Except ImapError Unit → ImapProg PoolResult),
      Reachable (poolSystem sampleSha256 .default fun _ => none) Set.univ (.start 0) c ∧
        ⟨aliceCall "rotated", g, .ask (.select aliceSession DEFAULT_MAILBOX) k⟩ ∈ c.threads ∧
        aliceSession ∈ g ∧ c.shared.reservoir.idle.count aliceSession = 0 ∧
        c.shared.reservoir.len ≤ 32 := by
  obtain ⟨c, g, k, hreach, hthread, -⟩ := warm_call_reachable
  obtain ⟨-, hbounded, hheld, -⟩ :=
    sessions_in_one_place sampleSha256 .default (fun _ => none) 0 c hreach
  obtain ⟨hmem, hidle, -⟩ := hheld (aliceCall "rotated") g
    (.select aliceSession DEFAULT_MAILBOX) k aliceSession hthread rfl
  exact ⟨c, g, k, hreach, hthread, hmem, Multiset.count_eq_zero.mpr hidle, hbounded⟩

end Overfwd
