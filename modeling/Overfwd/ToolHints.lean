import Overfwd.Conversation

namespace Overfwd

open Text Outcome Dialogue Serde

/-- The list of tools has an entry with this name and this hint. -/
def Advertised (schemas : ToolSchemas) (name : String) (readOnly : Bool) : Prop :=
  ∃ entries entry, (toolsList schemas).pointer ["tools"] = some (.array entries) ∧ entry ∈ entries ∧
    entry.pointer ["name"] = some (.string name) ∧
    entry.pointer ["annotations", "readOnlyHint"] = some (.bool readOnly)

/-- What a client reads off an entry. -/
theorem toolEntry_reads (name name' description : String) (inputSchema : Value)
    (hint readOnly : Bool) :
    ((toolEntry name description inputSchema hint).pointer ["name"] = some (.string name') ∧
      (toolEntry name description inputSchema hint).pointer ["annotations", "readOnlyHint"] =
        some (.bool readOnly)) ↔ name = name' ∧ hint = readOnly := by
  have hname : (toolEntry name description inputSchema hint).pointer ["name"] =
      some (.string name) := rfl
  have hhint : (toolEntry name description inputSchema hint).pointer
      ["annotations", "readOnlyHint"] = some (.bool hint) := rfl
  rw [hname, hhint]
  simp

theorem advertised_iff (schemas : ToolSchemas) (tool : Tool) (readOnly : Bool) :
    Advertised schemas tool.name readOnly ↔ readOnly = decide (tool ≠ .send) := by
  have hlist : (toolsList schemas).pointer ["tools"] = some (.array
      [toolEntry "email_search" EMAIL_SEARCH_DESCRIPTION schemas.search true,
        toolEntry "email_get" EMAIL_GET_DESCRIPTION schemas.get true,
        toolEntry "email_send" EMAIL_SEND_DESCRIPTION schemas.send false]) := rfl
  unfold Advertised
  rw [hlist]
  constructor
  · rintro ⟨entries, entry, hentries, hmem, hfields⟩
    cases hentries
    simp only [List.mem_cons, List.not_mem_nil, or_false] at hmem
    rcases hmem with rfl | rfl | rfl
    · obtain ⟨hname, rfl⟩ := (toolEntry_reads _ _ _ _ _ _).mp hfields
      rw [← Tool.name_injective .search tool hname]
      rfl
    · obtain ⟨hname, rfl⟩ := (toolEntry_reads _ _ _ _ _ _).mp hfields
      rw [← Tool.name_injective .get tool hname]
      rfl
    · obtain ⟨hname, rfl⟩ := (toolEntry_reads _ _ _ _ _ _).mp hfields
      rw [← Tool.name_injective .send tool hname]
      rfl
  · rintro rfl
    cases tool with
    | search =>
      exact ⟨_, _, rfl, List.mem_cons_self, (toolEntry_reads _ _ _ _ _ _).mpr ⟨rfl, rfl⟩⟩
    | get =>
      exact ⟨_, _, rfl, List.mem_cons_of_mem _ List.mem_cons_self,
        (toolEntry_reads _ _ _ _ _ _).mpr ⟨rfl, rfl⟩⟩
    | send =>
      exact ⟨_, _, rfl, List.mem_cons_of_mem _ (List.mem_cons_of_mem _ List.mem_cons_self),
        (toolEntry_reads _ _ _ _ _ _).mpr ⟨rfl, rfl⟩⟩

/-- What leaves a mailbox as it was: nothing is stored, moved or appended, a message is fetched
without being marked as seen, and the text of a SEARCH holds no other command. -/
def ImapOp.LeavesMailbox : ImapOp → Prop
  | .uidFetch _ _ items => items = FETCH_RAW_QUERY
  | .uidSearch _ query => OneCommand query
  | .tcpConnect _ | .tlsConnect _ _ _ | .readResponse _ | .login _ _ _ | .select _ _
  | .logout _ _ => True
  | _ => False

/-- What reads at most: lookups for the credential, and IMAP without a trace. -/
def NetOp.ReadsOnly {Address : Type} : NetOp Address → Prop
  | .credential _ => True
  | .imap q => q.LeavesMailbox
  | .stamp | .smtp _ => False

section Actions

theorem leaves_of_opening (q : ImapOp) (h : q.IsOpening) : q.LeavesMailbox := by
  cases q with
  | tcpConnect target => trivial
  | tlsConnect tcp host insecure => trivial
  | readResponse client => trivial
  | login client username password => trivial
  | _ => exact h.elim

theorem leaves_of_peeks (session : ImapSession) (q : ImapOp) (h : q.Peeks session OneCommand) :
    q.LeavesMailbox := by
  cases q with
  | uidSearch session' query => exact h.2
  | uidFetch session' set items => exact h.2
  | _ => exact h.elim

theorem onFreshSession_leaves {α : Type} (cred : MailboxCredential) (settings : ImapSettings)
    (mailbox : String) (rest : ImapSession → ImapAction α)
    (hrest : ∀ session, AsksOnly (ImapOp.Peeks session OneCommand) (ExceptT.run (rest session))) :
    AsksOnly ImapOp.LeavesMailbox (ExceptT.run (onFreshSession cred settings fun session => do
      select session mailbox
      rest session)) := by
  apply asksOnly_fallible_bind
    (asksOnly_mono (connectAndLogin_asks cred settings) leaves_of_opening)
  intro session
  have hoperation : AsksOnly ImapOp.LeavesMailbox (ExceptT.run (do
      select session mailbox
      rest session)) := by
    apply asksOnly_fallible_bind (asksOnly_attempt _ (asksOnly_call trivial))
    exact fun _ => asksOnly_mono (hrest session) (leaves_of_peeks session)
  apply asksOnly_fallible_bind (asksOnly_lift hoperation)
  intro result
  apply asksOnly_fallible_bind (asksOnly_lift (asksOnly_call trivial))
  exact fun _ => asksOnly_except result

variable {Address : Type} (crates : Crates Address) (env : Env) (state : AppState)

theorem read_action_reads (cred : MailboxCredential) (maxAttachmentBytes : ℕ) (action : Action)
    (hread : action.tool ≠ .send)
    (hsafe : ∀ request, action = .search request → RawQuerySafe request) :
    AsksOnly NetOp.ReadsOnly (answerMcp crates env state (action.op maxAttachmentBytes cred)) := by
  have hlift {α : Type} (p : ImapProg α) (hp : AsksOnly ImapOp.LeavesMailbox p) :
      AsksOnly NetOp.ReadsOnly (p.handle fun q => (call (NetOp.imap q) : NetProg Address _)) :=
    asksOnly_handle _ hp fun q hq => asksOnly_call hq
  cases action with
  | search request =>
    apply hlift
    unfold doSearch search
    apply asksOnly_except_bind
    intro key hkey
    have hone := one_command_of_safe crates.escapes request (hsafe request rfl) key hkey
    refine asksOnly_fallible_bind ?_ fun found => asksOnly_pure _
    apply onFreshSession_leaves
    intro session
    apply asksOnly_fallible_bind (uidSearch_peeks session key hone)
    exact fun uids => fetchSelected_peeks session crates.mail _ _
  | get request =>
    apply hlift
    unfold doGet get
    apply onFreshSession_leaves
    intro session
    apply asksOnly_fallible_bind (uidFetchRaw_peeks session _)
    exact fun raws => asksOnly_fallible_bind (asksOnly_except _) fun msg => asksOnly_pure _
  | send request => exact absurd rfl hread

end Actions

section Requests

variable {Address : Type} (crates : Crates Address) (env : Env) (state : AppState)

theorem netCredential_reads (headers : HeaderMap) :
    AsksOnly NetOp.ReadsOnly (netCredential crates state headers) :=
  asksOnly_handle _ (asksOnly_true _) fun _ _ => asksOnly_call trivial

/-- A request whose searches are safe does more than read only when it asks for a send. -/
theorem sends_only_when_asked (incoming : Incoming)
    (hsafe : ∀ request, incoming.request.Asks crates.json (.search request) → RawQuerySafe request)
    (H : NetHistory Address) (hbegins : Begins (serve crates env state incoming) H)
    (e : Exchange (NetOp Address) NetOp.Answer) (he : e ∈ H) :
    e.1.ReadsOnly ∨ incoming.request.Uses crates.json .send := by
  obtain ⟨H', reply, hplays⟩ := hbegins
  obtain ⟨V, hvisit, he, -⟩ := pieces_mem (serve_visits crates env state incoming _ reply hplays) e
    (List.mem_append_left _ he)
  cases hvisit with
  | credential _ r hresolved =>
    exact .inl (asksOnly_plays (netCredential_reads crates state incoming.headers) hresolved e he)
  | acted H₁ H₂ cred action hasks x hresolved hacted =>
    rcases List.mem_append.mp he with he | he
    · exact .inl (asksOnly_plays (netCredential_reads crates state incoming.headers) hresolved e he)
    · by_cases hsend : action.tool = .send
      · have huses := uses_of_asks crates.json incoming.request action hasks
        rw [hsend] at huses
        exact .inr huses
      · refine .inl (asksOnly_plays (read_action_reads crates env state cred _ action hsend ?_) hacted
          e he)
        rintro request rfl
        exact hsafe request hasks

/-- A request that asks for nothing but tools which are advertised as read-only, and for no
search with an unsafe raw query, sends nothing and leaves every mailbox as it was, whatever it is
answered. -/
theorem read_only_hints_hold (incoming : Incoming)
    (hhints : ∀ tool, incoming.request.Uses crates.json tool →
      Advertised crates.schemas tool.name true)
    (hsafe : ∀ request, incoming.request.Asks crates.json (.search request) → RawQuerySafe request)
    (H : NetHistory Address) (hbegins : Begins (serve crates env state incoming) H) :
    ∀ e ∈ H, e.1.ReadsOnly := by
  intro e he
  rcases sends_only_when_asked crates env state incoming hsafe H hbegins e he with hreads | huses
  · exact hreads
  · have hhint := (advertised_iff crates.schemas .send true).mp (hhints .send huses)
    cases hhint

end Requests

/-- A search that dials, logs in, selects and searches. -/
theorem search_reads_only : ¬ ∃ q ∈ (serve plainCrates (fun _ => none) plainApp
    searchIncoming).asked plainAnswer, ¬ q.ReadsOnly := by
  rintro ⟨q, hq, hchanges⟩
  apply hchanges
  apply read_only_hints_hold plainCrates (fun _ => none) plainApp searchIncoming _ _ _
    (begins_of_plays (plays_run plainAnswer _)) ⟨q, plainAnswer q⟩
  · exact List.mem_map_of_mem hq
  · rintro tool rfl
    exact (advertised_iff plainCrates.schemas .search true).mpr rfl
  · rintro request ⟨_, ⟨⟩, ⟨⟩⟩ - query hquery
    cases hquery

end Overfwd
