import Overfwd.DomainPolicy
import Overfwd.Lib.Views

namespace Overfwd

open Text Outcome Dialogue

def MAX_BODY : ℕ := 256*1024

/-- What the HTTP client hands over of a response. The body comes in chunks and may break off;
the client's timeout sees to it that it ends. -/
structure HttpResponse where
  status : ℕ
  contentLength : Option ℕ
  chunks : List (List UInt8)
  broken : Option String

def HttpResponse.isSuccess (response : HttpResponse) : Bool :=
  200 ≤ response.status && response.status < 300

/-- The loop of `get` over the chunks, with its buffer. -/
def readChunks (broken : Option String) (body : List UInt8) :
    List (List UInt8) → Except GatewayError (Option String)
  | [] =>
    match broken with
    | some e => .error (.autoconfigFailed ("read failed: " ++ e))
    | none => .ok (fromUtf8 body)
  | chunk :: chunks =>
    -- The rest is not read.
    if MAX_BODY < body.length + chunk.length then .ok none
    else readChunks broken (body ++ chunk) chunks

/-- `get` once the request is sent. -/
def readResponse (response : HttpResponse) : Except GatewayError (Option String) :=
  if !response.isSuccess then .ok none
  else if response.contentLength.any (MAX_BODY < ·) then .ok none
  else readChunks response.broken [] response.chunks

/-- What the resolver asks over the live fetcher: requests go to the HTTP client. -/
inductive LiveOp
  | send (url : String)
  | other (q : ResolverOp)

@[reducible] def LiveOp.Answer : LiveOp → Type
  | .send _ => Except String HttpResponse
  | .other q => q.Answer

/-- `SafeHttpFetcher::get`; the client may have failed to build. -/
def SafeHttpFetcher.get (available : Bool) (url : String) :
    Prog LiveOp LiveOp.Answer (Except GatewayError (Option String)) :=
  if !available then pure (.error (.autoconfigFailed "autoconfig HTTP client unavailable"))
  else do
    match ← call (LiveOp.send url) with
    | .error e => pure (.error (.autoconfigFailed ("fetch failed: " ++ e)))
    | .ok response => pure (readResponse response)

def answerFetch (available : Bool) : (q : ResolverOp) → Prog LiveOp LiveOp.Answer q.Answer
  | .get url => SafeHttpFetcher.get available url
  | .srv name => call (LiveOp.other (.srv name))
  | .mx domain => call (LiveOp.other (.mx domain))
  | .cacheGet domain => call (LiveOp.other (.cacheGet domain))
  | .now => call (LiveOp.other .now)
  | .cacheInsert domain entry => call (LiveOp.other (.cacheInsert domain entry))

/-- `Autoconfig::resolve` over the live fetcher. -/
def liveResolve (fromStr : XmlReader) (settings : AutoconfigSettings) (available : Bool)
    (domain : String) (email : Option String) :
    Prog LiveOp LiveOp.Answer (Except GatewayError MailServers) :=
  (resolve fromStr settings domain email).handle (answerFetch available)

section Documents

def HttpResponse.content (response : HttpResponse) : List UInt8 := response.chunks.flatten

/-- The document that a response brings: its whole content as text, when it is a success of
ordinary size that did not break off. -/
def HttpResponse.document (response : HttpResponse) : Option String :=
  if response.isSuccess ∧ (∀ len, response.contentLength = some len → len ≤ MAX_BODY) ∧
      response.broken = none ∧ response.content.length ≤ MAX_BODY then
    fromUtf8 response.content
  else none

/-- What a rung learns from a fetch. -/
def fetchedText : Except GatewayError (Option String) → Option String
  | .ok text => text
  | .error _ => none

/-- However the body is cut: it is read to its end when all of it fits. -/
theorem readChunks_eq (broken : Option String) (chunks : List (List UInt8)) (body : List UInt8)
    (hbody : body.length ≤ MAX_BODY) :
    readChunks broken body chunks =
      if (body ++ chunks.flatten).length ≤ MAX_BODY then
        readChunks broken (body ++ chunks.flatten) []
      else .ok none := by
  induction chunks generalizing body with
  | nil => rw [List.flatten_nil, List.append_nil, if_pos hbody]
  | cons chunk chunks ih =>
    rw [List.flatten_cons, ← List.append_assoc]
    unfold readChunks
    split_ifs with hover hfits
    · rw [List.length_append, List.length_append] at hfits
      omega
    · rfl
    · rw [ih _ (by rw [List.length_append]; omega), if_pos (by assumption)]
      rfl
    · rw [ih _ (by rw [List.length_append]; omega), if_neg (by assumption)]

theorem fetchedText_readChunks (response : HttpResponse) :
    fetchedText (readChunks response.broken [] response.chunks) =
      if response.broken = none ∧ response.content.length ≤ MAX_BODY then
        fromUtf8 response.content
      else none := by
  rw [readChunks_eq _ _ _ (Nat.zero_le _), List.nil_append]
  change fetchedText (if response.content.length ≤ MAX_BODY then
    readChunks response.broken response.content [] else .ok none) = _
  by_cases hfits : response.content.length ≤ MAX_BODY
  · rw [if_pos hfits]
    cases hbroken : response.broken with
    | none => exact (if_pos ⟨rfl, hfits⟩).symm
    | some e => exact (if_neg fun h => nomatch h.1).symm
  · rw [if_neg hfits, if_neg fun h => hfits h.2]
    rfl

theorem any_over_iff (contentLength : Option ℕ) :
    contentLength.any (MAX_BODY < ·) = true ↔ ¬∀ len, contentLength = some len → len ≤ MAX_BODY := by
  cases contentLength with
  | none => simp
  | some len => simp

theorem fetchedText_readResponse (response : HttpResponse) :
    fetchedText (readResponse response) = response.document := by
  unfold readResponse HttpResponse.document
  by_cases hsuccess : response.isSuccess = true
  · rw [if_neg (by rw [hsuccess]; decide)]
    by_cases hlength : ∀ len, response.contentLength = some len → len ≤ MAX_BODY
    · rw [if_neg fun hover => (any_over_iff _).mp hover hlength, fetchedText_readChunks]
      exact if_congr ⟨fun h => ⟨hsuccess, hlength, h⟩, fun h => h.2.2⟩ rfl rfl
    · rw [if_pos ((any_over_iff _).mpr hlength)]
      exact (if_neg fun h => hlength h.2.1).symm
  · rw [if_pos (by simpa using hsuccess)]
    exact (if_neg fun h => hsuccess h.1).symm

/-- A response brings a document exactly when it is all there. -/
theorem document_eq_some_iff (response : HttpResponse) (text : String) :
    response.document = some text ↔ response.isSuccess = true ∧
      (∀ len, response.contentLength = some len → len ≤ MAX_BODY) ∧ response.broken = none ∧
      response.content.length ≤ MAX_BODY ∧ response.content = bytes text := by
  unfold HttpResponse.document
  constructor
  · intro h
    split_ifs at h with hall
    exact ⟨hall.1, hall.2.1, hall.2.2.1, hall.2.2.2, (fromUtf8_eq_some_iff _ _).mp h⟩
  · rintro ⟨hsuccess, hlength, hbroken, hfits, htext⟩
    rw [if_pos ⟨hsuccess, hlength, hbroken, hfits⟩]
    exact (fromUtf8_eq_some_iff _ _).mpr htext

end Documents

section Views

/-- What shows of an answer to the resolver: of a fetch, its text. -/
def ResolverOp.Shown : ResolverOp → Type
  | .get _ => Option String
  | q => q.Answer

def ResolverOp.shown : (q : ResolverOp) → q.Answer → q.Shown
  | .get _, x => fetchedText x
  | .srv _, x => x
  | .mx _, x => x
  | .cacheGet _, x => x
  | .now, x => x
  | .cacheInsert _ _, x => x

/-- What shows of an answer from the network: of a response, its document. -/
def LiveOp.Shown : LiveOp → Type
  | .send _ => Option String
  | .other q => q.Answer

def LiveOp.shown : (q : LiveOp) → q.Answer → q.Shown
  | .send _, .ok response => response.document
  | .send _, .error _ => none
  | .other _, x => x

/-- Everything else shows as it is. -/
theorem shown_injective (q : ResolverOp) (hq : ∀ url, q ≠ .get url) :
    Function.Injective q.shown := by
  cases q with
  | get url => exact absurd rfl (hq url)
  | _ => exact fun x y hxy => hxy

variable (fromStr : XmlReader)

theorem alike_httpLadderFrom (urls : List String) (acc : MailServers) :
    Alike ResolverOp.shown Eq (httpLadderFrom fromStr acc urls) (httpLadderFrom fromStr acc urls) := by
  induction urls generalizing acc with
  | nil => exact alike_pure rfl
  | cons url urls ih =>
    unfold httpLadderFrom
    split_ifs
    · exact alike_pure rfl
    · refine alike_bind (alike_call (ResolverOp.get url)) fun x y hxy => ?_
      change fetchedText x = fetchedText y at hxy
      -- A fetch that fails and one that brings no text both leave the ladder where it is.
      rcases x with e | (_ | body)
      · rcases y with e' | (_ | body')
        · exact ih acc
        · exact ih acc
        · cases hxy
      · rcases y with e' | (_ | body')
        · exact ih acc
        · exact ih acc
        · cases hxy
      · rcases y with e' | (_ | body')
        · cases hxy
        · cases hxy
        · cases hxy
          dsimp only
          cases parseAutoconfig fromStr body with
          | none => exact ih acc
          | some found => exact ih (acc.mergeFrom found)

theorem alike_other {α : Type} {p : ResolverProg α}
    (hp : AsksOnly (fun q => ∀ url, q ≠ .get url) p) : Alike ResolverOp.shown Eq p p :=
  alike_self hp shown_injective

theorem alike_rung (acc : MailServers) (next : ResolverProg MailServers)
    (hnext : Alike ResolverOp.shown Eq next next) :
    Alike ResolverOp.shown Eq (rung acc next) (rung acc next) := by
  unfold rung
  split_ifs
  · exact alike_pure rfl
  · refine alike_bind hnext fun found found' hfound => ?_
    rw [hfound]
    exact alike_pure rfl

theorem alike_runLadder (domain : String) (email : Option String) :
    Alike ResolverOp.shown Eq (runLadder fromStr domain email) (runLadder fromStr domain email) := by
  have hsrv : AsksOnly (fun q : ResolverOp => ∀ url, q ≠ .get url) (srvLookup domain) :=
    srvLookup_asks (fun _ _ h => nomatch h) domain
  have hmx : Alike ResolverOp.shown Eq (mxAutoconfig fromStr domain) (mxAutoconfig fromStr domain) := by
    unfold mxAutoconfig
    refine alike_bind (alike_call (ResolverOp.mx domain)) fun x y hxy => ?_
    obtain rfl : x = y := hxy
    cases x.head? with
    | none => exact alike_pure rfl
    | some exchanger =>
      dsimp only
      split_ifs
      · exact alike_pure rfl
      · exact alike_httpLadderFrom fromStr _ _
  refine alike_bind (alike_httpLadderFrom fromStr _ _) fun http http' hhttp => ?_
  obtain rfl := hhttp
  refine alike_bind (alike_rung _ _ (alike_other hsrv)) fun acc acc' hacc => ?_
  obtain rfl := hacc
  exact alike_rung _ _ hmx

theorem alike_resolve (settings : AutoconfigSettings) (domain : String) (email : Option String) :
    Alike ResolverOp.shown Eq (resolve fromStr settings domain email)
      (resolve fromStr settings domain email) := by
  unfold resolve
  dsimp only
  split_ifs
  · exact alike_pure rfl
  · refine alike_bind (alike_call (ResolverOp.cacheGet _)) fun x y hxy => ?_
    obtain rfl : x = y := hxy
    cases x with
    | some hit => exact alike_pure rfl
    | none =>
      refine alike_bind (alike_runLadder fromStr _ _) fun servers servers' hservers => ?_
      obtain rfl := hservers
      refine alike_bind (alike_other ?_) fun _ _ _ => alike_pure rfl
      refine asksOnly_bind (asksOnly_call fun _ h => nomatch h) fun now => ?_
      exact asksOnly_call fun _ h => nomatch h

theorem alike_answerFetch (available : Bool) (q : ResolverOp) :
    Alike LiveOp.shown (fun x y => q.shown x = q.shown y) (answerFetch available q)
      (answerFetch available q) := by
  cases q with
  | get url =>
    change Alike _ _ (SafeHttpFetcher.get available url) (SafeHttpFetcher.get available url)
    unfold SafeHttpFetcher.get
    split_ifs
    · exact alike_pure rfl
    · refine alike_bind (alike_call (LiveOp.send url)) fun x y hxy => ?_
      cases x with
      | error e =>
        cases y with
        | error e' => exact alike_pure rfl
        | ok response => exact alike_pure (hxy.trans (fetchedText_readResponse response).symm)
      | ok response =>
        have hx := fetchedText_readResponse response
        cases y with
        | error e => exact alike_pure (hx.trans hxy)
        | ok response' =>
          exact alike_pure (hx.trans (hxy.trans (fetchedText_readResponse response').symm))
  | srv name => exact alike_call (LiveOp.other (.srv name))
  | mx domain => exact alike_call (LiveOp.other (.mx domain))
  | cacheGet domain => exact alike_call (LiveOp.other (.cacheGet domain))
  | now => exact alike_call (LiveOp.other .now)
  | cacheInsert domain entry => exact alike_call (LiveOp.other (.cacheInsert domain entry))

end Views

/-- Autoconfiguration goes by the documents that it is served: however their transfer is cut
into chunks, and whatever keeps a URL from serving one, a resolution with the same documents,
records and cache has the same outcome. -/
theorem resolve_goes_by_documents (fromStr : XmlReader) (settings : AutoconfigSettings)
    (available : Bool) (domain : String) (email : Option String)
    (h h' : List (Exchange LiveOp LiveOp.Answer)) (hsame : seen LiveOp.shown h = seen LiveOp.shown h')
    (r : Except GatewayError MailServers) :
    Plays (liveResolve fromStr settings available domain email) h r ↔
      Plays (liveResolve fromStr settings available domain email) h' r := by
  have halike : Alike LiveOp.shown Eq (liveResolve fromStr settings available domain email)
      (liveResolve fromStr settings available domain email) :=
    alike_handle (alike_resolve fromStr settings domain email) (alike_answerFetch available)
  constructor
  · intro hplays
    obtain ⟨_, rfl, hplays⟩ := plays_alike halike hsame hplays
    exact hplays
  · intro hplays
    obtain ⟨_, rfl, hplays⟩ := plays_alike halike hsame.symm hplays
    exact hplays

/-- A web that serves one document everywhere, in these chunks. -/
def webAnswer (contentLength : Option ℕ) (chunks : List String) : (q : LiveOp) → q.Answer
  | .send _ => .ok ⟨200, contentLength, chunks.map bytes, none⟩
  | .other (.get _) => .ok none
  | .other (.srv _) => []
  | .other (.mx _) => []
  | .other (.cacheGet _) => none
  | .other .now => 0
  | .other (.cacheInsert _ _) => ()

/-- A reader of documents that say nothing but the one thing. -/
def hostReader : XmlReader := fun xml =>
  if xml = "mail.example.com" then
    some ⟨[⟨"imap", some xml, some 993, some "SSL"⟩], [⟨"smtp", some xml, some 465, some "SSL"⟩]⟩
  else none

theorem cut_document_resolves_alike :
    let whole := webAnswer none ["mail.example.com"]
    let cut := webAnswer (some 16) ["mail.", "example", ".com"]
    let p := liveResolve hostReader ⟨3600, 300⟩ true "example.com" none
    p.run whole = .ok ⟨some ⟨"mail.example.com", 993⟩, some ⟨"mail.example.com", 465⟩⟩ ∧
      Plays p ((p.asked whole).map fun q => ⟨q, cut q⟩) (p.run whole) := by
  intro whole cut p
  refine ⟨by decide +kernel, ?_⟩
  refine (resolve_goes_by_documents hostReader _ true _ _ _ _ ?_ _).mp (plays_run whole p)
  unfold seen
  rw [List.map_map, List.map_map]
  apply List.map_congr_left
  intro q _
  cases q with
  | send url =>
    have hdocument : (LiveOp.send url).shown (whole (.send url)) =
        (LiveOp.send url).shown (cut (.send url)) := by
      change HttpResponse.document _ = HttpResponse.document _
      decide +kernel
    exact congrArg (Sigma.mk (LiveOp.send url)) hdocument
  | other q =>
    cases q with
    | _ => rfl

end Overfwd
