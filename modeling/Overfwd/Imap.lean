import Overfwd.Lib.Newest
import Overfwd.Mail
import Overfwd.Reservoir

namespace Overfwd

open Text Outcome Dialogue Newest

def DEFAULT_MAILBOX : String := "INBOX"

def FETCH_RAW_QUERY : String := "(UID BODY.PEEK[])"

structure ImapSettings where
  tlsInsecure : Bool
  deriving DecidableEq

/-- `ImapSettings::from_env`, given the value of `MAIL_TLS_INSECURE`. -/
def ImapSettings.fromEnv (value : Option String) : ImapSettings :=
  { tlsInsecure := value.any fun v =>
      ["1", "true", "yes", "on"].contains (toAsciiLowercase (trim v)) }

inductive TlsMode
  | plain
  | implicitTls
  deriving DecidableEq

/-- `TlsMode::for_port`. -/
def TlsMode.forPort (port : UInt16) : TlsMode :=
  if port = 993 ∨ port = 3993 then .implicitTls else .plain

/-- A handle remembers how it was opened; no program below reads it. -/
structure TcpStream where
  target : HostPort
  deriving DecidableEq

structure TlsStream where
  tcp : TcpStream
  host : String
  insecure : Bool
  deriving DecidableEq

inductive MaybeTlsStream
  | plain (tcp : TcpStream)
  | tls (stream : TlsStream)
  deriving DecidableEq

def MaybeTlsStream.tcp : MaybeTlsStream → TcpStream
  | .plain tcp => tcp
  | .tls stream => stream.tcp

structure ImapClient where
  stream : MaybeTlsStream
  deriving DecidableEq

/-- An authenticated session; no two have the same serial number. -/
structure ImapSession where
  serial : ℕ
  client : ImapClient
  username : String
  password : String
  deriving DecidableEq

/-- What an error of the IMAP client says, by kind. -/
inductive ImapErrorKind
  | io (e : String)
  | bad (m : String)
  | no (m : String)
  | connectionLost
  | parse
  | validate (e : String)
  | append

structure ImapError where
  kind : ImapErrorKind
  display : String

/-- The step of a TLS connection that failed. -/
inductive TlsError
  | config (e : String)
  | serverName (e : String)
  | handshake (e : String)

/-- A `HashSet` of UIDs in the order it is iterated in. -/
structure UidSet where
  iter : List Uid
  nodup : iter.Nodup

def UidSet.toFinset (s : UidSet) : Finset Uid := s.iter.toFinset

/-- One message of a FETCH response. -/
structure Fetch where
  uid : Option Uid
  body : Option (List UInt8)

/-- `take` and `put` are the pool's critical sections; the times and the cap are read
outside of them. -/
inductive ImapOp
  | tcpConnect (target : HostPort)
  | tlsConnect (tcp : TcpStream) (host : String) (insecure : Bool)
  | readResponse (client : ImapClient)
  | login (client : ImapClient) (username password : String)
  | select (session : ImapSession) (mailbox : String)
  | uidSearch (session : ImapSession) (query : String)
  | uidFetch (session : ImapSession) (set query : String)
  | noop (session : ImapSession) (timeout : ℕ)
  | logout (session : ImapSession) (timeout : Option ℕ)
  | now
  | take (key : PoolKey) (now ttl : ℕ)
  | put (key : PoolKey) (session : ImapSession) (now ttl maxIdle : ℕ)

/-- A NOOP that times out answers `none`. What LOGOUT answers is never looked at. -/
@[reducible] def ImapOp.Answer : ImapOp → Type
  | .tcpConnect _ => Except String TcpStream
  | .tlsConnect _ _ _ => Except TlsError TlsStream
  | .readResponse _ => Option (Except String Unit)
  | .login _ _ _ => Except ImapError ImapSession
  | .select _ _ => Except ImapError Unit
  | .uidSearch _ _ => Except ImapError UidSet
  | .uidFetch _ _ _ => Except ImapError (List Fetch)
  | .noop _ _ => Option (Except ImapError Unit)
  | .logout _ _ => Unit
  | .now => ℕ
  | .take _ _ _ => Option ImapSession × List ImapSession
  | .put _ _ _ _ _ => List ImapSession

abbrev ImapProg := Prog ImapOp ImapOp.Answer

abbrev ImapAction := Fallible GatewayError ImapOp ImapOp.Answer

abbrev ask (op : ImapOp) : ImapProg op.Answer := call op

/-- `map_login_err`. -/
def mapLoginErr (err : ImapError) : GatewayError :=
  match err.kind with
  | .io e => .hostUnreachable ("IMAP connection lost during login: " ++ e)
  | .connectionLost => .hostUnreachable "IMAP connection lost during login"
  | _ => .authFailure "IMAP login rejected"

/-- `map_select_err`. -/
def mapSelectErr (mailbox : String) (err : ImapError) : GatewayError :=
  match err.kind with
  | .no _ => .notFound ("mailbox '" ++ mailbox ++ "' not found")
  | .io e => .hostUnreachable ("IMAP error selecting '" ++ mailbox ++ "': " ++ e)
  | .connectionLost => .hostUnreachable "IMAP connection lost"
  | _ => .hostUnreachable ("IMAP error selecting '" ++ mailbox ++ "': " ++ err.display)

/-- `map_command_err`. -/
def mapCommandErr (err : ImapError) : GatewayError :=
  match err.kind with
  | .no m => .badRequest ("IMAP rejected the command: " ++ m)
  | .bad m => .badRequest ("IMAP rejected the command: " ++ m)
  | .validate e => .badRequest ("invalid character in IMAP command: " ++ e)
  | .io e => .hostUnreachable ("IMAP command failed: " ++ e)
  | .connectionLost => .hostUnreachable "IMAP connection lost"
  | _ => .hostUnreachable ("IMAP command failed: " ++ err.display)

def mapTlsErr (host : String) : TlsError → GatewayError
  | .config e => .tlsFailure ("TLS configuration failed: " ++ e)
  | .serverName e => .tlsFailure ("invalid TLS server name '" ++ host ++ "': " ++ e)
  | .handshake e => .tlsFailure ("TLS handshake with " ++ host ++ " failed: " ++ e)

/-- `tls_handshake`. -/
def tlsHandshake (tcp : TcpStream) (host : String) (insecure : Bool) : ImapAction TlsStream :=
  attempt (mapTlsErr host) (ask (.tlsConnect tcp host insecure))

def openStream (tcp : TcpStream) (tls : TlsMode) (host : String) (tlsInsecure : Bool) :
    ImapAction MaybeTlsStream :=
  match tls with
  | .plain => pure (.plain tcp)
  | .implicitTls => do
    let stream ← tlsHandshake tcp host tlsInsecure
    pure (.tls stream)

/-- The greeting is consumed before any command. -/
def readGreeting (client : ImapClient) : ImapAction Unit := do
  let response ← okOr (GatewayError.hostUnreachable "IMAP server closed before greeting")
    (← liftM (ask (.readResponse client)))
  response.mapError fun e => GatewayError.hostUnreachable ("IMAP greeting failed: " ++ e)

/-- `connect`. -/
def connect (target : HostPort) (tls : TlsMode) (tlsInsecure : Bool) : ImapAction ImapClient := do
  let tcp ← attempt (fun e => .hostUnreachable ("cannot reach IMAP " ++ target.host ++ ":" ++
    toString target.port ++ ": " ++ e)) (ask (.tcpConnect target))
  let stream ← openStream tcp tls target.host tlsInsecure
  readGreeting { stream := stream }
  pure { stream := stream }

/-- `login`. -/
def login (client : ImapClient) (username password : String) : ImapAction ImapSession :=
  attempt mapLoginErr (ask (.login client username password))

/-- `connect_and_login`. -/
def connectAndLogin (cred : MailboxCredential) (settings : ImapSettings) :
    ImapAction ImapSession := do
  let client ← connect cred.imap (TlsMode.forPort cred.imap.port) settings.tlsInsecure
  login client cred.username cred.password

/-- `select`. -/
def select (session : ImapSession) (mailbox : String) : ImapAction Unit :=
  attempt (mapSelectErr mailbox) (ask (.select session mailbox))

/-- `uid_search`. -/
def uidSearch (session : ImapSession) (query : String) : ImapAction (List Uid) := do
  let uids ← attempt mapCommandErr (ask (.uidSearch session query))
  pure uids.iter

/-- A fetched message counts when it has a UID and a body. -/
def Fetch.raw? (f : Fetch) : Option RawMessage :=
  match f.uid, f.body with
  | some uid, some body => some { uid := uid, raw := body }
  | _, _ => none

/-- A set of UIDs as FETCH takes it. -/
def uidSetText (uids : List Uid) : String := join "," (uids.map toString)

/-- `uid_fetch_raw`. -/
def uidFetchRaw (session : ImapSession) (uids : List Uid) : ImapAction (List RawMessage) :=
  if uids.isEmpty then pure []
  else do
    let fetches ← attempt mapCommandErr
      (ask (.uidFetch session (uidSetText uids) FETCH_RAW_QUERY))
    pure (fetches.filterMap Fetch.raw?)

/-- The best-effort `logout`. -/
def logout (session : ImapSession) : ImapProg Unit := ask (.logout session none)

/-- `select_newest`: how many there were, and the newest `limit` of them. -/
def selectNewest (uids : List Uid) (limit : ℕ) : ℕ × List Uid := (uids.length, newest id limit uids)

section Parsed

variable (parse : MailParser)

/-- Newest first again, whatever order FETCH answered in. -/
def summarise (raws : List RawMessage) : List MessageSummary :=
  newestFirst MessageSummary.uid (raws.map fun m => parseSummary parse m.uid m.raw)

/-- The rest of `search_on` once it is decided what to fetch. -/
def fetchSelected (session : ImapSession) (total : ℕ) (uids : List Uid) :
    ImapAction SearchResults :=
  if uids.isEmpty then pure { summaries := [], total := total }
  else do
    let raws ← uidFetchRaw session uids
    pure { summaries := summarise parse raws, total := total }

/-- `search_on`. -/
def searchOn (session : ImapSession) (mailbox query : String) (limit : ℕ) :
    ImapAction SearchResults := do
  select session mailbox
  let uids ← uidSearch session query
  -- The total is counted before the cut.
  let (total, uids) := selectNewest uids limit
  fetchSelected parse session total uids

/-- `get_on`. -/
def getOn (session : ImapSession) (mailbox : String) (uid : Uid) : ImapAction FullMessage := do
  select session mailbox
  let raws ← uidFetchRaw session [uid]
  let msg ← okOr (GatewayError.notFound ("no message with uid " ++ toString uid)) raws.head?
  pure (parseFull parse msg.uid msg.raw)

/-- Run an operation on a fresh session and log out, whatever came of it. -/
def onFreshSession {α : Type} (cred : MailboxCredential) (settings : ImapSettings)
    (operation : ImapSession → ImapAction α) : ImapAction α := do
  let session ← connectAndLogin cred settings
  -- The result is kept while the session is closed.
  let result ← liftM (operation session).run
  liftM (logout session)
  result

/-- `search`. -/
def search (cred : MailboxCredential) (settings : ImapSettings) (mailbox query : String)
    (limit : ℕ) : ImapAction SearchResults :=
  onFreshSession cred settings fun session => searchOn parse session mailbox query limit

/-- `get`. -/
def get (cred : MailboxCredential) (settings : ImapSettings) (mailbox : String) (uid : Uid) :
    ImapAction FullMessage :=
  onFreshSession cred settings fun session => getOn parse session mailbox uid

end Parsed

end Overfwd
