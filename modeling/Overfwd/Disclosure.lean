import Overfwd.AttachmentPolicy
import Overfwd.Submission

namespace Overfwd

open Text Outcome Dialogue

/-- The body the preview is taken from: the text part if there is one. -/
def SendRequest.previewed (request : SendRequest) : Option String := request.text.or request.html

/-- As much of a body as the preview shows, and whether there is more. -/
def shownOf (body : String) : List Char × Bool :=
  (body.toList.take BODY_PREVIEW_LIMIT, decide (BODY_PREVIEW_LIMIT < body.toList.length))

/-- The name and the decoded size of a file. -/
def Attachment.shown (a : Attachment) : String × Option ℕ :=
  (sanitizeFilename a.filename, (decodeBase64 a.contentBase64).map List.length)

/-- Requests that agree on what is shown of them. -/
structure SendRequest.ShownAlike (request request' : SendRequest) : Prop where
  «from» : request.from = request'.from
  «to» : request.to = request'.to
  subject : request.subject = request'.subject
  preview : request.previewed.map shownOf = request'.previewed.map shownOf
  attachments : request.attachments.map Attachment.shown = request'.attachments.map Attachment.shown

theorem clampPreview_eq (body : String) :
    clampPreview body = String.ofList ((shownOf body).1 ++ if (shownOf body).2 then ['…'] else []) := by
  have hmore : (body.toList[BODY_PREVIEW_LIMIT]?).isSome =
      decide (BODY_PREVIEW_LIMIT < body.toList.length) := by
    by_cases hlong : BODY_PREVIEW_LIMIT < body.toList.length
    · simp [hlong]
    · simp [hlong]
  unfold clampPreview shownOf
  dsimp only
  rw [hmore, String.ofList_append]
  split_ifs with hlong
  · rfl
  · exact (String.append_empty).symm

theorem previewSource_of_body (request : SendRequest) (body : OutgoingBody)
    (h : request.body = some body) : request.previewed = some (previewSource body) := by
  obtain ⟨_, _, _, _, _, text, html, _⟩ := request
  rcases text with _ | text
  · rcases html with _ | html
    · cases h
    · cases h
      rfl
  · rcases html with _ | html
    · cases h
      rfl
    · cases h
      rfl

/-- The files are disclosed by what is shown of the attachments. -/
theorem disclosed_of_becomes (attachments : List Attachment) (decoded : List OutgoingAttachment)
    (h : List.Forall₂ Attachment.Becomes attachments decoded) :
    attachments.map Attachment.shown =
      decoded.map fun o => (o.filename, some o.bytes.length) := by
  induction h with
  | nil => rfl
  | @cons a o _ _ hbecomes _ ih =>
    have hpayload : decodeBase64 a.contentBase64 = some o.bytes :=
      (decodeBase64_eq_some_iff _ _).mpr hbecomes.bytes
    rw [List.map_cons, List.map_cons, ih, Attachment.shown, hpayload, ← hbecomes.filename]
    rfl

/-- The disclosure of an accepted message, from the fields of the request alone. -/
theorem disclosure_of_message (request : SendRequest) (limits : AttachmentLimits)
    (message : OutgoingMessage) (h : request.intoMessage limits = .ok message) :
    request.previewed = some (previewSource message.body) ∧
      request.attachments.map Attachment.shown =
        message.attachments.map (fun o => (o.filename, some o.bytes.length)) ∧
      SendDisclosure.forMessage message =
        ⟨request.from, request.to, request.subject, clampPreview (previewSource message.body),
          message.attachments.map fun o => ⟨o.filename, o.bytes.length⟩⟩ := by
  obtain ⟨-, hbody, hattachments, hfields⟩ := intoMessage_eq_ok request limits message h
  obtain ⟨-, hbecomes, -⟩ := (decodeAttachments_eq_ok_iff _ _ _).mp hattachments
  refine ⟨previewSource_of_body request message.body hbody, disclosed_of_becomes _ _ hbecomes, ?_⟩
  rw [hfields]
  rfl

theorem disclosure_congr (request request' : SendRequest) (limits : AttachmentLimits)
    (message message' : OutgoingMessage) (halike : request.ShownAlike request')
    (h : request.intoMessage limits = .ok message)
    (h' : request'.intoMessage limits = .ok message') :
    SendDisclosure.forMessage message = SendDisclosure.forMessage message' := by
  obtain ⟨hbody, hfiles, hdisclosure⟩ := disclosure_of_message request limits message h
  obtain ⟨hbody', hfiles', hdisclosure'⟩ := disclosure_of_message request' limits message' h'
  have hpreview : clampPreview (previewSource message.body) =
      clampPreview (previewSource message'.body) := by
    have hshown := halike.preview
    rw [hbody, hbody'] at hshown
    rw [clampPreview_eq, clampPreview_eq, Option.some.inj hshown]
  have hattachments := halike.attachments
  rw [hfiles, hfiles'] at hattachments
  have hentries := congrArg (List.map fun p : String × Option ℕ =>
    (⟨p.1, p.2.getD 0⟩ : AttachmentDisclosure)) hattachments
  rw [List.map_map, List.map_map] at hentries
  rw [hdisclosure, hdisclosure', halike.from, halike.to, halike.subject, hpreview]
  exact congrArg _ hentries

section Action

variable {Address : Type} (lettre : Lettre Address) (builder : MailBuilder)
  (limits : AttachmentLimits)

/-- On success the response and the audit line are made of the disclosure alone. -/
theorem accepted_outcome (tlsInsecure : Option String) (stamp : MimeStamp)
    (credential : MailboxCredential) (request : SendRequest) (h : SendHistory Address)
    (response : SendResponse)
    (hplays : Plays (doSend lettre builder tlsInsecure stamp credential request limits).run h
      (.ok response)) :
    ∃ message, request.intoMessage limits = .ok message ∧
      response = .accepted (.forMessage message) ∧
      audits h = [(SendDisclosure.forMessage message).audit] := by
  rcases plays_doSend _ _ _ _ _ _ _ _ _ hplays with ⟨e, -, -, hr⟩ |
    ⟨message, hmessage, ⟨e, -, -, hr⟩ | ⟨s, hs, ⟨err, -, hr⟩ | ⟨rfl, hr⟩⟩⟩
  · cases hr
  · cases hr
  · cases hr
  · exact ⟨message, hmessage, Except.ok.inj hr, rfl⟩

/-- Accepted requests that are shown alike have the same response and the same audit line,
whatever the credential, the blind and carbon copies, the rest of the body and the files
are. The preview is a prefix of the previewed body, and says when there is more. -/
theorem response_shows_no_more :
    (∀ tlsInsecure tlsInsecure' stamp stamp' credential credential' request request' h h'
        response response', SendRequest.ShownAlike request request' →
      Plays (doSend lettre builder tlsInsecure stamp credential request limits).run h (.ok response) →
      Plays (doSend lettre builder tlsInsecure' stamp' credential' request' limits).run h'
        (.ok response') →
      response = response' ∧ audits h = audits h') ∧
      ∀ tlsInsecure stamp credential request h response,
        Plays (doSend lettre builder tlsInsecure stamp credential request limits).run h (.ok response) →
        ∃ body shown, request.previewed = some body ∧ shown <+: body.toList ∧
          shown.length = min BODY_PREVIEW_LIMIT body.toList.length ∧
          response.disclosure.bodyPreview.toList =
            shown ++ if BODY_PREVIEW_LIMIT < body.toList.length then ['…'] else [] := by
  constructor
  · intro _ _ _ _ _ _ request request' h h' response response' halike hplays hplays'
    obtain ⟨message, hmessage, rfl, haudit⟩ := accepted_outcome _ _ _ _ _ _ _ _ _ hplays
    obtain ⟨message', hmessage', rfl, haudit'⟩ := accepted_outcome _ _ _ _ _ _ _ _ _ hplays'
    have hsame := disclosure_congr request request' limits message message' halike hmessage hmessage'
    rw [haudit, haudit', hsame]
    exact ⟨rfl, rfl⟩
  · intro _ _ _ request h response hplays
    obtain ⟨message, hmessage, rfl, -⟩ := accepted_outcome _ _ _ _ _ _ _ _ _ hplays
    obtain ⟨hbody, -, -⟩ := disclosure_of_message request limits message hmessage
    refine ⟨_, _, hbody, List.take_prefix BODY_PREVIEW_LIMIT _, List.length_take, ?_⟩
    change (clampPreview (previewSource message.body)).toList = _
    rw [clampPreview_eq, String.toList_ofList]
    simp [shownOf]

end Action

/-- The mail to Bob with a body that the preview cuts. -/
def longMail (bcc : List String) (rest : String) : SendRequest :=
  { bobMail bcc with
    text := some (String.ofList (List.replicate BODY_PREVIEW_LIMIT 'a') ++ rest) }

def longSend (credential : MailboxCredential) (bcc : List String) (rest : String) :
    SendProg String SendResponse :=
  doSend atLettre blankBuilder none ⟨"", "", ""⟩ credential (longMail bcc rest)
    (.withMaxTotalBytes 1000)

/-- Two such mails by two users, with other blind recipients and other ends, have one
response. -/
theorem long_mails_answered_alike : ∃ h h' response response',
    Plays (longSend ⟨"alice", "s3cr3t", ⟨"imap.example.com", 993⟩, ⟨"smtp.example.com", 465⟩⟩ []
      "b").run h (.ok response) ∧
    Plays (longSend ⟨"eve", "other", ⟨"imap.example.com", 993⟩, ⟨"smtp.example.com", 465⟩⟩
      ["dan@example.com"] "secret").run h' (.ok response') ∧
    response = response' ∧ audits h = audits h' := by
  have hplays := plays_run acceptAll (longSend
    ⟨"alice", "s3cr3t", ⟨"imap.example.com", 993⟩, ⟨"smtp.example.com", 465⟩⟩ [] "b").run
  have hplays' := plays_run acceptAll (longSend
    ⟨"eve", "other", ⟨"imap.example.com", 993⟩, ⟨"smtp.example.com", 465⟩⟩
    ["dan@example.com"] "secret").run
  have halike : (longMail [] "b").ShownAlike (longMail ["dan@example.com"] "secret") :=
    ⟨rfl, rfl, rfl, by simp [SendRequest.previewed, longMail, shownOf], rfl⟩
  exact ⟨_, _, _, _, hplays, hplays', (response_shows_no_more atLettre blankBuilder
    (.withMaxTotalBytes 1000)).1 _ _ _ _ _ _ _ _ _ _ _ _ halike hplays hplays'⟩

end Overfwd
