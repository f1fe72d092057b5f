import Overfwd.Autoconfig
import Overfwd.Credential
import Overfwd.Lib.AsciiCase
import Overfwd.Lib.Base64
import Overfwd.Lib.History

namespace Overfwd

open Text Outcome Dialogue

def H_MAILBOX_AUTH : String := "X-Mailbox-Auth"

/-- Headers by lower-case name, with their values' bytes. -/
structure HeaderMap where
  entries : List (String × List UInt8)
  deriving DecidableEq

/-- `HeaderMap::get`: the first value of a name, whatever its case. -/
def HeaderMap.get (headers : HeaderMap) (name : String) : Option (List UInt8) :=
  headers.entries.lookup (toAsciiLowercase name)

/-- `HeaderValue::to_str`: visible ASCII and tabs. -/
def headerToStr (value : List UInt8) : Option String :=
  if value.all fun b => (32 ≤ b && b < 127) || b = 9 then
    some (String.ofList (value.map fun b => Char.ofNat b.toNat))
  else none

/-- A character that header text may hold: a visible one, a blank or a tab. -/
def IsHeaderChar (c : Char) : Prop := c = '\t' ∨ (32 ≤ c.toNat ∧ c.toNat < 127)

theorem isHeaderChar_iff (c : Char) :
    IsHeaderChar c ↔ c.toNat = 9 ∨ (32 ≤ c.toNat ∧ c.toNat < 127) := by
  have htab : c = '\t' ↔ c.toNat = 9 := char_eq_iff c '\t'
  rw [IsHeaderChar, htab]

theorem isHeaderChar_ascii (c : Char) (h : IsHeaderChar c) : c.toNat < 128 := by
  have hrange := (isHeaderChar_iff c).mp h
  omega

/-- The bytes that are let through are those of header characters. -/
theorem visible_byte_iff (b : UInt8) :
    ((32 ≤ b && b < 127) || decide (b = 9)) = true ↔
      b.toNat < 128 ∧ IsHeaderChar (Char.ofNat b.toNat) := by
  have hbyte : ((32 ≤ b && b < 127) || decide (b = 9)) = true ↔
      (32 ≤ b.toNat ∧ b.toNat < 127) ∨ b.toNat = 9 := by
    simp only [Bool.or_eq_true, Bool.and_eq_true, decide_eq_true_eq, UInt8.le_iff_toNat_le,
      UInt8.lt_iff_toNat_lt, ← UInt8.toNat_inj]
    rfl
  rw [hbyte, isHeaderChar_iff]
  constructor
  · intro h
    have hascii : b.toNat < 128 := by omega
    rw [toNat_ofNat_of_ascii _ hascii]
    exact ⟨hascii, h.symm⟩
  · intro ⟨hascii, h⟩
    rw [toNat_ofNat_of_ascii _ hascii] at h
    exact h.symm

/-- The text of a header is given by its bytes, and holds nothing but header characters. -/
theorem headerToStr_eq_some_iff (value : List UInt8) (text : String) :
    headerToStr value = some text ↔ value = bytes text ∧ ∀ c ∈ text.toList, IsHeaderChar c := by
  unfold headerToStr
  constructor
  · intro h
    split_ifs at h with hall
    cases h
    have hvisible (b : UInt8) (hb : b ∈ value) :=
      (visible_byte_iff b).mp (List.all_eq_true.mp hall b hb)
    refine ⟨(bytes_ofNat value fun b hb => (hvisible b hb).1).symm, ?_⟩
    intro c hc
    rw [String.toList_ofList] at hc
    obtain ⟨b, hb, rfl⟩ := List.mem_map.mp hc
    exact (hvisible b hb).2
  · rintro ⟨rfl, htext⟩
    have hascii : ∀ c ∈ text.toList, c.toNat < 128 := fun c hc => isHeaderChar_ascii c (htext c hc)
    have hall : (bytes text).all (fun b => (32 ≤ b && b < 127) || b = 9) = true := by
      rw [List.all_eq_true, bytes_of_ascii text hascii]
      intro b hb
      obtain ⟨c, hc, rfl⟩ := List.mem_map.mp hb
      have hc256 : c.toNat < 256 := (hascii c hc).trans (by decide)
      rw [visible_byte_iff, UInt8.toNat_ofNat_of_lt' hc256, Char.ofNat_toNat]
      exact ⟨hascii c hc, htext c hc⟩
    rw [if_pos hall, ofNat_bytes text hascii]

/-- A header's value as text. -/
def asciiStr (name : String) (value : List UInt8) : Except GatewayError String :=
  okOr (.badRequest (name ++ " is not valid ASCII")) (headerToStr value)

/-- `required_str`. -/
def requiredStr (headers : HeaderMap) (name : String) : Except GatewayError String := do
  let value ← okOr (.badRequest ("missing " ++ name ++ " header")) (headers.get name)
  asciiStr name value

/-- `optional_str`. -/
def optionalStr (headers : HeaderMap) (name : String) : Except GatewayError (Option String) :=
  match headers.get name with
  | none => .ok none
  | some value => do
    let s ← asciiStr name value
    .ok (some s)

/-- `optional_host_port`. -/
def optionalHostPort (headers : HeaderMap) (name : String) :
    Except GatewayError (Option HostPort) := do
  match ← optionalStr headers name with
  | none => .ok none
  | some raw =>
    let target ← HostPort.parse name raw
    .ok (some target)

/-- The one error of every credential that cannot be read. -/
def malformedAuth : GatewayError := .badRequest (H_MAILBOX_AUTH ++ " is malformed")

/-- `parse_basic`: the username and the password of a `Basic` value. -/
def parseBasic (value : String) : Except GatewayError (String × String) := do
  let b64 ← okOr malformedAuth ((stripPrefix "Basic " value).or (stripPrefix "basic " value))
  let decoded ← okOr malformedAuth (Base64.decode (bytes (trim b64)))
  let decoded ← okOr malformedAuth (fromUtf8 decoded)
  -- Line breaks at the end are no part of a credential; blanks may be.
  let (user, pass) ← okOr malformedAuth (splitOnce ':' (trimEndMatchesAny ['\r', '\n'] decoded))
  if isEmpty user then .error malformedAuth else .ok (user, pass)

/-- What `X-Mailbox-Auth` holds. -/
def mailboxAuth (headers : HeaderMap) : Except GatewayError (String × String) := do
  let auth ← requiredStr headers H_MAILBOX_AUTH
  parseBasic auth

/-- `InlineHeaders::parse`. -/
def InlineHeaders.parse (headers : HeaderMap) : Except GatewayError InlineHeaders := do
  let (username, password) ← mailboxAuth headers
  let imap ← optionalHostPort headers H_MAILBOX_IMAP
  let smtp ← optionalHostPort headers H_MAILBOX_SMTP
  let domain ← optionalStr headers H_MAILBOX_DOMAIN
  .ok { username := username, password := password, imap := imap, smtp := smtp,
        domain := (domain.map fun s => toAsciiLowercase (trim s)).filter fun s => !isEmpty s }

/-- What reading a request's credential asks of its surroundings: what the resolver asks,
and the addresses of the names that the guard checks. -/
inductive RequestOp
  | resolver (q : ResolverOp)
  | lookup (host : String)

@[reducible] def RequestOp.Answer : RequestOp → Type
  | .resolver q => q.Answer
  | .lookup _ => Except String (List Net.IpAddr)

abbrev RequestProg := Fallible GatewayError RequestOp RequestOp.Answer

/-- An autoconfiguration is the resolver's own program. -/
def answerCredential (fromStr : XmlReader) (settings : AutoconfigSettings) :
    (q : CredentialOp) → Prog RequestOp RequestOp.Answer q.Answer
  | .resolve domain email =>
    (resolve fromStr settings domain email).handle fun q => call (RequestOp.resolver q)
  | .lookup host => call (RequestOp.lookup host)

/-- `InlineHeaders::parse` and `into_credential`. -/
def requestCredential (fromStr : XmlReader) (settings : AutoconfigSettings)
    (autoconfigEnabled guardEnabled : Bool) (headers : HeaderMap) :
    RequestProg MailboxCredential := do
  let inline ← InlineHeaders.parse headers
  ExceptT.mk ((inline.intoCredential autoconfigEnabled guardEnabled).run.handle
    (answerCredential fromStr settings))

end Overfwd
