import Overfwd.Imap

/-! `pool.rs` and the pooled entry points of `imap.rs`: taking a warm session, giving
it back, and what is served on it. -/
namespace Overfwd

open Text Outcome Dialogue

/-- `Duration::from_secs`; the clock counts nanoseconds. -/
def fromSecs (secs : ℕ) : ℕ := secs * 10^9

def DEFAULT_MAX_IDLE : ℕ := 32

def DEFAULT_IDLE_TTL_SECS : ℕ := 60

def IO_TIMEOUT : ℕ := fromSecs 5

structure PoolConfig where
  maxIdle : ℕ
  idleTtl : ℕ

/-- `parse_env` for a number of 64 bits, given the value of the variable. -/
def parseEnv (value : Option String) (default : ℕ) : ℕ :=
  match value with
  | some raw => (parseUnsigned (2^64) (trim raw)).getD default
  | none => default

namespace PoolConfig

/-- `from_env`, given the values of its two variables. -/
def fromEnv (maxIdle idleTtlSecs : Option String) : PoolConfig :=
  { maxIdle := parseEnv maxIdle DEFAULT_MAX_IDLE
    idleTtl := fromSecs (parseEnv idleTtlSecs DEFAULT_IDLE_TTL_SECS) }

def disabled : PoolConfig := { maxIdle := 0, idleTtl := 0 }

def default : PoolConfig :=
  { maxIdle := DEFAULT_MAX_IDLE, idleTtl := fromSecs DEFAULT_IDLE_TTL_SECS }

/-- `is_enabled`. -/
def isEnabled (config : PoolConfig) : Bool := 0 < config.maxIdle

end PoolConfig

/-- `close`. -/
def close (session : ImapSession) : ImapProg Unit := ask (.logout session (some IO_TIMEOUT))

/-- `close_all`. -/
def closeAll : List ImapSession → ImapProg Unit
  | [] => pure ()
  | session :: sessions => do
    close session
    closeAll sessions

/-- The liveness check of `take_warm`: only a NOOP that succeeds in time counts. -/
def checkLive : Option ImapSession → ImapProg (Option ImapSession)
  | none => pure none
  | some session => do
    match ← ask (.noop session IO_TIMEOUT) with
    | some (.ok ()) => pure (some session)
    -- A refusal, a lost connection and a timeout alike.
    | _ => do
      close session
      pure none

/-- Whether the connection under an error can still be trusted. -/
def isTransportError : GatewayError → Bool
  | .hostUnreachable _ => true
  | .tlsFailure _ => true
  | _ => false

section Pool

variable (sha256 : Sha256) (config : PoolConfig) (cred : MailboxCredential)

/-- `take_warm`. -/
def takeWarm : ImapProg (Option ImapSession) :=
  if !config.isEnabled then pure none
  else do
    -- The clock is read before the lock is taken.
    let now ← ask .now
    let (candidate, expired) ← ask (.take (.fromCred sha256 cred) now config.idleTtl)
    closeAll expired
    checkLive candidate

/-- `give_back`. -/
def giveBack (session : ImapSession) : ImapProg Unit :=
  if !config.isEnabled then close session
  else do
    let now ← ask .now
    let evicted ← ask (.put (.fromCred sha256 cred) session now config.idleTtl config.maxIdle)
    closeAll evicted

/-- `acquire`. -/
def acquire (settings : ImapSettings) : ImapAction ImapSession := do
  match ← liftM (takeWarm sha256 config cred) with
  | some session => pure session
  | none => connectAndLogin cred settings

/-- `release`. -/
def release {α : Type} (session : ImapSession) (result : Except GatewayError α) :
    ImapProg Unit :=
  match result with
  | .error e => if isTransportError e then logout session else giveBack sha256 config cred session
  | .ok _ => giveBack sha256 config cred session

/-- Run an operation on a session of the pool and decide the fate of the session. -/
def onPooledSession {α : Type} (settings : ImapSettings)
    (operation : ImapSession → ImapAction α) : ImapAction α := do
  let session ← acquire sha256 config cred settings
  let result ← liftM (operation session).run
  liftM (release sha256 config cred session result)
  result

variable (parse : MailParser)

/-- `search_pooled`. -/
def searchPooled (settings : ImapSettings) (mailbox query : String) (limit : ℕ) :
    ImapAction SearchResults :=
  onPooledSession sha256 config cred settings fun session =>
    searchOn parse session mailbox query limit

/-- `get_pooled`. -/
def getPooled (settings : ImapSettings) (mailbox : String) (uid : Uid) : ImapAction FullMessage :=
  onPooledSession sha256 config cred settings fun session => getOn parse session mailbox uid

end Pool

inductive ReadAction
  | search (query : String) (limit : ℕ)
  | get (uid : Uid)

/-- One call of `search_pooled` or `get_pooled`. -/
structure PoolCall where
  cred : MailboxCredential
  settings : ImapSettings
  mailbox : String
  action : ReadAction

abbrev PoolResult := Except GatewayError (SearchResults ⊕ FullMessage)

def PoolCall.body (sha256 : Sha256) (config : PoolConfig) (parse : MailParser)
    (call : PoolCall) : ImapProg PoolResult :=
  ExceptT.run do
    match call.action with
    | .search query limit =>
      let results ← searchPooled sha256 config call.cred parse call.settings call.mailbox query limit
      pure (.inl results)
    | .get uid =>
      let message ← getPooled sha256 config call.cred parse call.settings call.mailbox uid
      pure (.inr message)

/-- The pool and the sessions that were opened and closed around it. -/
structure PoolState where
  clock : ℕ
  reservoir : Reservoir ImapSession
  opened : Multiset ImapSession
  discarded : Multiset ImapSession

/-- An empty pool. -/
def PoolState.start (clock : ℕ) : PoolState :=
  { clock := clock, reservoir := .new, opened := 0, discarded := 0 }

/-- What may be answered, and what the answer does. The network may answer anything; a
handle it hands out is the one that was asked for. -/
def PoolState.Step (s : PoolState) : (q : ImapOp) → q.Answer → PoolState → Prop
  | .tcpConnect target, x, s' => s' = s ∧ ∀ tcp, x = .ok tcp → tcp.target = target
  | .tlsConnect tcp host insecure, x, s' =>
    s' = s ∧ ∀ stream, x = .ok stream → stream = ⟨tcp, host, insecure⟩
  | .login client username password, x, s' =>
    match x with
    | .ok session => session.client = client ∧ session.username = username ∧
        session.password = password ∧ (∀ old ∈ s.opened, old.serial ≠ session.serial) ∧
        s' = { s with opened := session ::ₘ s.opened }
    | .error _ => s' = s
  | .logout session _, _, s' => s' = { s with discarded := session ::ₘ s.discarded }
  | .now, x, s' => x = s.clock ∧ s' = s
  | .take key now ttl, x, s' =>
    x = (s.reservoir.take key now ttl).1 ∧
      s' = { s with reservoir := (s.reservoir.take key now ttl).2 }
  | .put key session now ttl maxIdle, x, s' =>
    x = (s.reservoir.put key session now ttl maxIdle).1 ∧
      s' = { s with reservoir := (s.reservoir.put key session now ttl maxIdle).2 }
  | .readResponse _, _, s' => s' = s
  | .select _ _, _, s' => s' = s
  | .uidSearch _ _, _, s' => s' = s
  | .uidFetch _ _ _, _, s' => s' = s
  | .noop _ _, _, s' => s' = s

end Overfwd
