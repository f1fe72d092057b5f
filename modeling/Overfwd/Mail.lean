import Mathlib.Data.Nat.Notation
import Overfwd.Lib.Text

namespace Overfwd

open Text

instance uidNeZero : NeZero (2 ^ 32 : ℕ) := ⟨by decide⟩

abbrev Uid := Fin (2 ^ 32)

structure RawMessage where
  uid : Uid
  raw : List UInt8
  deriving DecidableEq

structure MessageSummary where
  uid : Uid
  «from» : Option String
  «to» : Option String
  subject : Option String
  date : Option String
  snippet : Option String
  deriving DecidableEq

structure SearchResults where
  summaries : List MessageSummary
  total : ℕ
  deriving DecidableEq

structure FullMessage where
  uid : Uid
  «from» : Option String
  «to» : Option String
  subject : Option String
  date : Option String
  textBody : Option String
  htmlBody : Option String
  raw : List UInt8
  deriving DecidableEq

/-- One entry of an address header, its groups flattened. -/
structure Addr where
  name : Option String
  address : Option String

inductive PartType
  | text (contents : String)
  | html (contents : String)
  | other

/-- What is read of a message of the mail parser: the date in RFC 3339 and the body
preview of 200 bytes. -/
structure ParsedMessage where
  «from» : Option (List Addr)
  «to» : Option (List Addr)
  subject : Option String
  date : Option String
  bodyPreview : Option String
  parts : List PartType

/-- `MessageParser::default().parse`. -/
abbrev MailParser := List UInt8 → Option ParsedMessage

/-- `Name <addr>` when there is a name, otherwise the bare address. -/
def Addr.render (a : Addr) : Option String :=
  a.address.map fun email =>
    match a.name with
    | some name => if isEmpty (trim name) then email else trim name ++ " <" ++ email ++ ">"
    | none => email

/-- `render_address`. -/
def renderAddress (addr : List Addr) : Option String :=
  let parts := addr.filterMap Addr.render
  if parts.isEmpty then none else some (join ", " parts)

def PartType.text? : PartType → Option String
  | .text t => some t
  | _ => none

def PartType.html? : PartType → Option String
  | .html h => some h
  | _ => none

def firstPartText (m : ParsedMessage) : Option String := m.parts.findSome? PartType.text?

def firstPartHtml (m : ParsedMessage) : Option String := m.parts.findSome? PartType.html?

variable (parse : MailParser)

/-- `parse_summary`. -/
def parseSummary (uid : Uid) (raw : List UInt8) : MessageSummary :=
  match parse raw with
  | some msg =>
    { uid := uid
      «from» := msg.from.bind renderAddress
      «to» := msg.to.bind renderAddress
      subject := msg.subject
      date := msg.date
      snippet := (msg.bodyPreview.map trim).filter fun s => !isEmpty s }
  | none =>
    { uid := uid, «from» := none, «to» := none, subject := none, date := none, snippet := none }

/-- `parse_full`. -/
def parseFull (uid : Uid) (raw : List UInt8) : FullMessage :=
  match parse raw with
  | some msg =>
    { uid := uid
      «from» := msg.from.bind renderAddress
      «to» := msg.to.bind renderAddress
      subject := msg.subject
      date := msg.date
      -- Genuine parts only: the parser's body views convert between text and HTML.
      textBody := firstPartText msg
      htmlBody := firstPartHtml msg
      raw := raw }
  | none =>
    { uid := uid, «from» := none, «to» := none, subject := none, date := none, textBody := none,
      htmlBody := none, raw := raw }

@[simp] theorem parseSummary_uid (uid : Uid) (raw : List UInt8) :
    (parseSummary parse uid raw).uid = uid := by
  unfold parseSummary
  cases parse raw with
  | none => rfl
  | some msg => rfl

@[simp] theorem parseFull_uid (uid : Uid) (raw : List UInt8) :
    (parseFull parse uid raw).uid = uid := by
  unfold parseFull
  cases parse raw with
  | none => rfl
  | some msg => rfl

@[simp] theorem parseFull_raw (uid : Uid) (raw : List UInt8) :
    (parseFull parse uid raw).raw = raw := by
  unfold parseFull
  cases parse raw with
  | none => rfl
  | some msg => rfl

end Overfwd
