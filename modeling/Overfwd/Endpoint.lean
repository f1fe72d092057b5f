import Overfwd.HostPort
import Overfwd.Lib.Dialogue
import Overfwd.Lib.Ip

namespace Overfwd

open Text Outcome Net Dialogue

def isForbiddenV4 (v4 : Ipv4Addr) : Bool :=
  v4.isLoopback || v4.isPrivate || v4.isLinkLocal || v4.isUnspecified || v4.isBroadcast ||
    v4.isMulticast || v4.isDocumentation || (v4.a == 100 && v4.b &&& 0xc0 == 0x40) || v4.a == 0

/-- `is_forbidden_ip`. -/
def isForbiddenIp : IpAddr → Bool
  | .v4 v4 => isForbiddenV4 v4
  | .v6 v6 =>
    match v6.toIpv4Mapped with
    | some v4 => isForbiddenV4 v4
    | none => v6.isLoopback || v6.isUnspecified || v6.isMulticast ||
        v6.s0 &&& 0xfe00 == 0xfc00 || v6.s0 &&& 0xffc0 == 0xfe80

/-- Names that never denote a public host, in lower case. -/
def isReservedName (lower : String) : Bool :=
  lower == "localhost" || endsWith ".localhost" lower || endsWith ".local" lower ||
    endsWith ".internal" lower

/-- What turning headers into a credential asks of the network: an autoconfiguration
and the addresses of a name, or the text of the I/O error. -/
inductive CredentialOp
  | resolve (domain : String) (email : Option String)
  | lookup (host : String)

@[reducible] def CredentialOp.Answer : CredentialOp → Type
  | .resolve _ _ => Except GatewayError MailServers
  | .lookup _ => Except String (List IpAddr)

/-- A network that answers as a fixed function of the question. -/
structure FixedNetwork where
  resolve : String → Option String → Except GatewayError MailServers
  lookup : String → Except String (List IpAddr)

abbrev CredentialProg := Fallible GatewayError CredentialOp CredentialOp.Answer

/-- `AddrResolver::lookup`. -/
def lookupAddrs (host : String) : CredentialProg (Except String (List IpAddr)) :=
  liftM (call (CredentialOp.lookup host) : Prog CredentialOp CredentialOp.Answer _)

/-- `Autoconfig::resolve`. -/
def resolveServers (domain : String) (email : Option String) :
    CredentialProg (Except GatewayError MailServers) :=
  liftM (call (CredentialOp.resolve domain email) : Prog CredentialOp CredentialOp.Answer _)

def FixedNetwork.answer (net : FixedNetwork) : (q : CredentialOp) → q.Answer
  | .resolve domain email => net.resolve domain email
  | .lookup host => net.lookup host

@[simp] theorem runE_lookupAddrs (net : FixedNetwork) (host : String) :
    runE net.answer (lookupAddrs host) = .ok (net.lookup host) := runE_lift _ _

@[simp] theorem runE_resolveServers (net : FixedNetwork) (domain : String)
    (email : Option String) :
    runE net.answer (resolveServers domain email) = .ok (net.resolve domain email) :=
  runE_lift _ _

def blocked (source host : String) : GatewayError :=
  .badRequest (source ++ " host '" ++ host ++ "' is not a public address; this gateway refuses " ++
    "loopback, private, link-local, and CGNAT endpoints (OVERFWD_BLOCK_PRIVATE_ENDPOINTS)")

/-- The host as the guard reports it. -/
def shownHost (host : String) : String := trimEndMatches '.' (trim host)

/-- The host as the guard judges it: also without enclosing brackets. -/
def bareHost (host : String) : String :=
  ((stripPrefix "[" (shownHost host)).bind (stripSuffix "]")).getD (shownHost host)

/-- `EndpointGuard::check`. -/
def endpointCheck (enabled : Bool) (source : String) (target : HostPort) :
    CredentialProg Unit :=
  if !enabled then pure ()
  else
    let host := shownHost target.host
    let bare := bareHost target.host
    match parseIp bare with
    | some ip => if isForbiddenIp ip then throw (blocked source host) else pure ()
    | none =>
      if isReservedName (toAsciiLowercase bare) then throw (blocked source host)
      else do
        match ← lookupAddrs bare with
        | .error e => throw (.hostUnreachable
            ("cannot resolve " ++ source ++ " host '" ++ host ++ "': " ++ e))
        | .ok addrs =>
          if addrs.isEmpty then throw (.hostUnreachable
            (source ++ " host '" ++ host ++ "' has no addresses"))
          else if addrs.any isForbiddenIp then throw (blocked source host)
          else pure ()

/-- Refused without a lookup: a forbidden literal or a reserved name. -/
def refusedOutright (host : String) : Bool :=
  match parseIp (bareHost host) with
  | some ip => isForbiddenIp ip
  | none => isReservedName (toAsciiLowercase (bareHost host))

/-- The looked-up name has addresses and all of them are public. -/
def PublicName (lookup : String → Except String (List IpAddr)) (name : String) : Prop :=
  ∃ addrs, lookup name = .ok addrs ∧ addrs ≠ [] ∧ ∀ ip ∈ addrs, isForbiddenIp ip = false

theorem endpointCheck_eq_ok_iff (net : FixedNetwork) (source : String) (target : HostPort) :
    runE net.answer (endpointCheck true source target) = .ok () ↔
      refusedOutright target.host = false ∧
        (parseIp (bareHost target.host) = none → PublicName net.lookup (bareHost target.host)) := by
  unfold endpointCheck refusedOutright PublicName
  cases hip : parseIp (bareHost target.host) with
  | some ip =>
    by_cases hforbidden : isForbiddenIp ip = true
    · simp [hip, hforbidden]
    · simp [hip, hforbidden]
  | none =>
    by_cases hreserved : isReservedName (toAsciiLowercase (bareHost target.host)) = true
    · simp [hip, hreserved]
    · cases hlookup : net.lookup (bareHost target.host) with
      | error e => simp [hip, hreserved, hlookup]
      | ok addrs =>
        by_cases hempty : addrs = []
        · simp [hip, hreserved, hlookup, hempty]
        · by_cases hforbidden : ∃ ip ∈ addrs, isForbiddenIp ip = true
          · simp [hip, hreserved, hlookup, hempty, hforbidden]
          · have hpublic : ∀ ip ∈ addrs, isForbiddenIp ip = false := by simpa using hforbidden
            simpa [hip, hreserved, hlookup, hempty, hforbidden] using hpublic

end Overfwd
