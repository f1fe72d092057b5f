import Overfwd.Lib.Serde
import Overfwd.Search
import Overfwd.Send

namespace Overfwd

open Text Outcome Serde

section Requests

/-- A field that is `None` when absent or `null`. -/
def optionField {α : Type} (name : String) (aliases : List String)
    (read : Value → Except Error α) : StructField (Option α) :=
  { name := name, aliases := aliases, default := some none, read := readOption read }

def requiredField {α : Type} (name : String) (read : Value → Except Error α) : StructField α :=
  { name := name, aliases := [], default := none, read := read }

def defaultField {α : Type} (name : String) (default : α) (read : Value → Except Error α) :
    StructField α :=
  { name := name, aliases := [], default := some default, read := read }

theorem get_requiredField_string (members : List (String × Value)) (name s : String)
    (h : Source.get (.members members) (requiredField name readString) = .ok s) :
    members.lookup name = some (.string s) := by
  cases hv : members.lookup name with
  | none =>
    rw [get_absent members (requiredField name readString) rfl hv] at h
    cases h
  | some v =>
    rw [get_present members (requiredField name readString) rfl v hv] at h
    exact congrArg some ((readString_eq_ok_iff v s).mp h)

/-- An absent field and a `null` one read alike. -/
theorem get_optionField_value (members : List (String × Value)) (name : String)
    (o : Option Value)
    (h : Source.get (.members members) (optionField name [] readValue) = .ok o) :
    o = (members.lookup name).bind Value.nonNull := by
  cases hv : members.lookup name with
  | none =>
    rw [get_absent members (optionField name [] readValue) rfl hv] at h
    cases h
    rfl
  | some v =>
    rw [get_present members (optionField name [] readValue) rfl v hv] at h
    change readOption readValue v = .ok o at h
    rw [readOption_readValue] at h
    cases h
    rfl

def SearchRequest.fromValue (v : Value) : Except Error SearchRequest := do
  let folder := optionField "folder" [] readString
  let fromField := optionField "from" [] readString
  let subject := optionField "subject" [] readString
  let text := optionField "text" [] readString
  let since := optionField "since" [] readString
  let query := optionField "query" ["criteria"] readString
  let limit := optionField "limit" [] (readUnsigned (2^64) "usize")
  let source ← readStruct "SearchRequest" [folder.spec, fromField.spec, subject.spec, text.spec,
    since.spec, query.spec, limit.spec] v
  .ok
    { folder := ← source.get folder
      «from» := ← source.get fromField
      subject := ← source.get subject
      text := ← source.get text
      since := ← source.get since
      query := ← source.get query
      limit := ← source.get limit }

def GetRequest.fromValue (v : Value) : Except Error GetRequest := do
  let folder := optionField "folder" [] readString
  let uid := requiredField "uid" (readUnsigned (2^32) "u32")
  let source ← readStruct "GetRequest" [folder.spec, uid.spec] v
  .ok { folder := ← source.get folder, uid := Fin.ofNat (2^32) (← source.get uid) }

def Attachment.fromValue (v : Value) : Except Error Attachment := do
  let filename := requiredField "filename" readString
  let contentType := requiredField "content_type" readString
  let contentBase64 := requiredField "content_base64" readString
  let source ← readStruct "Attachment" [filename.spec, contentType.spec, contentBase64.spec] v
  .ok
    { filename := ← source.get filename
      contentType := ← source.get contentType
      contentBase64 := ← source.get contentBase64 }

/-- `de_recipients`: one string is split at its commas, an array is taken as it is. -/
def readRecipients : Value → Except Error (List String)
  | .string line => .ok (((split ',' line).map trim).filter fun address => !isEmpty address)
  -- Neither form fits: what was wrong with each of them is not told.
  | v => (readList readString v).mapError fun _ =>
      .custom "data did not match any variant of untagged enum OneOrMany"

def SendRequest.fromValue (v : Value) : Except Error SendRequest := do
  let fromField := requiredField "from" readString
  let toField := requiredField "to" readRecipients
  let cc := defaultField "cc" [] readRecipients
  let bcc := defaultField "bcc" [] readRecipients
  let subject := requiredField "subject" readString
  let text := optionField "text" [] readString
  let html := optionField "html" [] readString
  let attachments := defaultField "attachments" [] (readList Attachment.fromValue)
  let source ← readStruct "SendRequest" [fromField.spec, toField.spec, cc.spec, bcc.spec,
    subject.spec, text.spec, html.spec, attachments.spec] v
  .ok
    { «from» := ← source.get fromField
      «to» := ← source.get toField
      cc := ← source.get cc
      bcc := ← source.get bcc
      subject := ← source.get subject
      text := ← source.get text
      html := ← source.get html
      attachments := ← source.get attachments }

end Requests

section Responses

-- The members of an object come out sorted by key.

def optionValue : Option String → Value
  | some s => .string s
  | none => .null

def natValue (n : ℕ) : Value := .number (.posInt n)

def MessageSummary.toValue (m : MessageSummary) : Value :=
  .object [("date", optionValue m.date), ("from", optionValue m.from),
    ("snippet", optionValue m.snippet), ("subject", optionValue m.subject),
    ("to", optionValue m.to), ("uid", natValue m.uid.val)]

def SearchResponse.toValue (r : SearchResponse) : Value :=
  .object [("results", .array (r.results.map MessageSummary.toValue)), ("total", natValue r.total),
    ("truncated", .bool r.truncated)]

/-- The raw message is skipped. -/
def FullMessage.toValue (m : FullMessage) : Value :=
  .object [("date", optionValue m.date), ("from", optionValue m.from),
    ("html_body", optionValue m.htmlBody), ("subject", optionValue m.subject),
    ("text_body", optionValue m.textBody), ("to", optionValue m.to), ("uid", natValue m.uid.val)]

def AttachmentDisclosure.toValue (a : AttachmentDisclosure) : Value :=
  .object [("filename", .string a.filename), ("size_bytes", natValue a.sizeBytes)]

def SendDisclosure.toValue (d : SendDisclosure) : Value :=
  .object [("attachments", .array (d.attachments.map AttachmentDisclosure.toValue)),
    ("body_preview", .string d.bodyPreview), ("from", .string d.from),
    ("subject", .string d.subject), ("to", .array (d.to.map Value.string))]

def SendResponse.toValue (r : SendResponse) : Value :=
  .object [("disclosure", r.disclosure.toValue), ("sent", .bool r.sent)]

end Responses

end Overfwd
