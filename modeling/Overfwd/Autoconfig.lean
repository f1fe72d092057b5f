import Overfwd.PublicDomain

namespace Overfwd

open Text Dialogue

namespace MailServers

/-- `MailServers::default`. -/
def default : MailServers := { imap := none, smtp := none }

def isComplete (s : MailServers) : Bool := s.imap.isSome && s.smtp.isSome

def isEmpty (s : MailServers) : Bool := s.imap.isNone && s.smtp.isNone

/-- `merge_from`: the first source to name a side wins. -/
def mergeFrom (s other : MailServers) : MailServers :=
  { imap := s.imap.or other.imap, smtp := s.smtp.or other.smtp }

end MailServers

structure SrvRecord where
  host : String
  port : UInt16
  deriving DecidableEq

structure CacheEntry where
  expires : ℕ
  value : Option MailServers
  deriving DecidableEq

/-- Times to live, in the unit of the clock. -/
structure AutoconfigSettings where
  posTtl : ℕ
  negTtl : ℕ

/-- What resolving a domain asks: the two network backends, the cache under its
lock (a lookup compares `expires` with the clock inside it) and the clock. -/
inductive ResolverOp
  | get (url : String)
  | srv (name : String)
  | mx (domain : String)
  | cacheGet (domain : String)
  | now
  | cacheInsert (domain : String) (entry : CacheEntry)
  deriving DecidableEq

@[reducible] def ResolverOp.Answer : ResolverOp → Type
  | .get _ => Except GatewayError (Option String)
  | .srv _ => List SrvRecord
  | .mx _ => List String
  | .cacheGet _ => Option (Option MailServers)
  | .now => ℕ
  | .cacheInsert _ _ => Unit

abbrev ResolverProg := Prog ResolverOp ResolverOp.Answer

def httpGet (url : String) : ResolverProg (Except GatewayError (Option String)) :=
  call (ResolverOp.get url)

def srvRecords (name : String) : ResolverProg (List SrvRecord) := call (ResolverOp.srv name)

def mxExchangers (domain : String) : ResolverProg (List String) := call (ResolverOp.mx domain)

def cacheGet (domain : String) : ResolverProg (Option (Option MailServers)) :=
  call (ResolverOp.cacheGet domain)

def instantNow : ResolverProg ℕ := call ResolverOp.now

def cacheInsert (domain : String) (entry : CacheEntry) : ResolverProg Unit :=
  call (ResolverOp.cacheInsert domain entry)

structure XmlServer where
  kind : String
  hostname : Option String
  port : Option UInt16
  socketType : Option String
  deriving DecidableEq

structure EmailProvider where
  incoming : List XmlServer
  outgoing : List XmlServer
  deriving DecidableEq

structure ClientConfig where
  emailProvider : EmailProvider
  deriving DecidableEq

/-- `quick_xml::de::from_str` into a `clientConfig`, `none` when it fails. -/
abbrev XmlReader := String → Option ClientConfig

/-- `pick_server`: the first usable entry of the kind with `SSL`, else the first usable one. -/
def pickServer (servers : List XmlServer) (kind : String) : Option HostPort :=
  -- A usable entry has a hostname that is not empty and a port.
  let candidates := (servers.filter fun s => eqIgnoreAsciiCase s.kind kind).filter fun s =>
    s.hostname.any (fun h => !isEmpty h) && s.port.isSome
  let ssl := candidates.find? fun s => s.socketType.any fun t => eqIgnoreAsciiCase t "SSL"
  let chosen := match ssl with
    | some s => some s
    | none => candidates.head?
  chosen.bind fun s => do
    let host ← s.hostname
    let port ← s.port
    some { host := host, port := port }

/-- `parse_autoconfig`. -/
def parseAutoconfig (fromStr : XmlReader) (xml : String) : Option MailServers := do
  let config ← fromStr xml
  let servers : MailServers :=
    { imap := pickServer config.emailProvider.incoming "imap",
      smtp := pickServer config.emailProvider.outgoing "smtp" }
  if servers.isEmpty then none else some servers

def ISPDB_BASE : String := "https://autoconfig.thunderbird.net/v1.1"

/-- `?emailaddress=`, for an address that has an `@`. -/
def emailQuery (email : Option String) : String :=
  match email.filter (contains '@') with
  | some e => "?emailaddress=" ++ e
  | none => ""

def providerUrl (domain : String) (email : Option String) : String :=
  "https://autoconfig." ++ domain ++ "/mail/config-v1.1.xml" ++ emailQuery email

def wellKnownUrl (domain : String) (email : Option String) : String :=
  "https://" ++ domain ++ "/.well-known/autoconfig/mail/config-v1.1.xml" ++ emailQuery email

def ispdbUrl (domain : String) : String := ISPDB_BASE ++ "/" ++ domain

/-- `http_config_urls`. -/
def httpConfigUrls (domain : String) (email : Option String) : List String :=
  [providerUrl domain email, wellKnownUrl domain email, ispdbUrl domain]

/-- The loop of `http_ladder` with its accumulator. -/
def httpLadderFrom (fromStr : XmlReader) (acc : MailServers) :
    List String → ResolverProg MailServers
  | [] => pure acc
  | url :: urls =>
    -- Checked before each fetch: once both sides are known no further URL is asked.
    if acc.isComplete then pure acc
    else do
      match ← httpGet url with
      | .ok (some body) =>
        match parseAutoconfig fromStr body with
        | some found => httpLadderFrom fromStr (acc.mergeFrom found) urls
        | none => httpLadderFrom fromStr acc urls
      -- A status other than 2xx and a transport failure both mean the next rung.
      | .ok none => httpLadderFrom fromStr acc urls
      | .error _ => httpLadderFrom fromStr acc urls

def httpLadder (fromStr : XmlReader) (urls : List String) : ResolverProg MailServers :=
  httpLadderFrom fromStr .default urls

def SrvRecord.target (r : SrvRecord) : HostPort := { host := r.host, port := r.port }

/-- One side of `srv_lookup`: the implicit-TLS service, then the other one. -/
def srvSide (implicitTls starttls domain : String) : ResolverProg (Option HostPort) := do
  match (← srvRecords (implicitTls ++ domain)).head? with
  | some r => pure (some r.target)
  | none =>
    let records ← srvRecords (starttls ++ domain)
    pure (records.head?.map SrvRecord.target)

/-- `srv_lookup`. -/
def srvLookup (domain : String) : ResolverProg MailServers := do
  let imap ← srvSide "_imaps._tcp." "_imap._tcp." domain
  let smtp ← srvSide "_submissions._tcp." "_submission._tcp." domain
  pure { imap := imap, smtp := smtp }

/-- The exchanger's domain adds nothing, or may not be fetched from. -/
def skipsExchanger (domain mxDomain : String) : Bool :=
  mxDomain = domain || !isPublicDomain mxDomain

/-- `mx_autoconfig`: the provider is asked without the mailbox address. -/
def mxAutoconfig (fromStr : XmlReader) (domain : String) : ResolverProg MailServers := do
  match (← mxExchangers domain).head? with
  | none => pure .default
  | some exchanger =>
    let mxDomain := registrableDomain exchanger
    if skipsExchanger domain mxDomain then pure .default
    else httpLadder fromStr (httpConfigUrls mxDomain none)

/-- A later rung runs only while a side is missing. -/
def rung (acc : MailServers) (next : ResolverProg MailServers) : ResolverProg MailServers :=
  if acc.isComplete then pure acc
  else do
    let found ← next
    pure (acc.mergeFrom found)

/-- `run_ladder`. -/
def runLadder (fromStr : XmlReader) (domain : String) (email : Option String) :
    ResolverProg MailServers := do
  let http ← httpLadder fromStr (httpConfigUrls domain email)
  let acc ← rung (MailServers.default.mergeFrom http) (srvLookup domain)
  rung acc (mxAutoconfig fromStr domain)

/-- `cache_put`: the expiry is computed before the lock is taken. -/
def cachePut (settings : AutoconfigSettings) (domain : String) (value : Option MailServers) :
    ResolverProg Unit := do
  let ttl := if value.isSome then settings.posTtl else settings.negTtl
  let now ← instantNow
  cacheInsert domain { expires := now + ttl, value := value }

def normaliseDomain (domain : String) : String :=
  toAsciiLowercase (trimEndMatches '.' (trim domain))

def autoconfigMiss (domain : String) : GatewayError :=
  .autoconfigFailed ("no mail autoconfiguration found for domain '" ++ domain ++
    "'; supply X-Mailbox-Imap/-Smtp explicitly")

def okOrMiss (domain : String) (value : Option MailServers) : Except GatewayError MailServers :=
  Outcome.okOr (autoconfigMiss domain) value

/-- A ladder's outcome as it is cached: an empty one is a negative entry. -/
def ladderValue (resolved : MailServers) : Option MailServers :=
  if resolved.isEmpty then none else some resolved

/-- `Autoconfig::resolve` past the domain check: the cache, else the ladder. -/
def resolveCached (fromStr : XmlReader) (settings : AutoconfigSettings) (domain : String)
    (email : Option String) : ResolverProg (Except GatewayError MailServers) := do
  match ← cacheGet domain with
  | some hit => pure (okOrMiss domain hit)
  | none =>
    -- The lock is not held here: two calls of one domain may both run the ladder.
    let resolved ← runLadder fromStr domain email
    let value := ladderValue resolved
    cachePut settings domain value
    pure (okOrMiss domain value)

def notPublic (domain : String) : GatewayError :=
  .autoconfigFailed ("'" ++ domain ++ "' is not a resolvable public mail domain")

/-- `Autoconfig::resolve`. -/
def resolve (fromStr : XmlReader) (settings : AutoconfigSettings) (domain : String)
    (email : Option String) : ResolverProg (Except GatewayError MailServers) :=
  let domain := normaliseDomain domain
  if !isPublicDomain domain then pure (.error (notPublic domain))
  else resolveCached fromStr settings domain email

theorem resolve_of_public (fromStr : XmlReader) (settings : AutoconfigSettings) (domain : String)
    (email : Option String) (h : isPublicDomain (normaliseDomain domain) = true) :
    resolve fromStr settings domain email =
      resolveCached fromStr settings (normaliseDomain domain) email := by
  unfold resolve
  simp only [h, Bool.not_true, Bool.false_eq_true, if_false]

theorem resolve_of_not_public (fromStr : XmlReader) (settings : AutoconfigSettings)
    (domain : String) (email : Option String)
    (h : isPublicDomain (normaliseDomain domain) = false) :
    resolve fromStr settings domain email = pure (.error (notPublic (normaliseDomain domain))) := by
  unfold resolve
  simp only [h, Bool.not_false, if_true]

end Overfwd
