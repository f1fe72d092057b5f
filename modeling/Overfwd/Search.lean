import Overfwd.Imap
import Overfwd.SearchKey

namespace Overfwd

open Text Outcome Dialogue Newest

structure SearchResponse where
  results : List MessageSummary
  total : ℕ
  truncated : Bool
  deriving DecidableEq

/-- `SearchResponse::from_results`. -/
def SearchResponse.fromResults (found : SearchResults) : SearchResponse :=
  { results := found.summaries
    total := found.total
    truncated := found.summaries.length < found.total }

structure GetRequest where
  folder : Option String
  uid : Uid
  deriving DecidableEq

section Actions

variable (parse : MailParser) (esc : UnicodeEscapes) (settings : ImapSettings)
  (cred : MailboxCredential)

/-- `do_search`. -/
def doSearch (request : SearchRequest) : ImapAction SearchResponse := do
  let key ← request.searchKey esc
  let found ← search parse cred settings (request.folder.getD DEFAULT_MAILBOX) key
    request.effectiveLimit
  pure (.fromResults found)

/-- `do_get`. -/
def doGet (request : GetRequest) : ImapAction FullMessage :=
  get parse cred settings (request.folder.getD DEFAULT_MAILBOX) request.uid

end Actions

/-- The set and the data items a question fetches, if it is a FETCH. -/
def ImapOp.fetch? : ImapOp → Option (String × String)
  | .uidFetch _ set query => some (set, query)
  | _ => none

/-- What a program fetches when every question has a fixed answer. -/
def fetchRequests {α : Type} (answer : (q : ImapOp) → q.Answer) (p : ImapAction α) :
    List (String × String) :=
  (Prog.asked answer (ExceptT.run p)).filterMap ImapOp.fetch?

/-- The messages of a FETCH reply that count. -/
def fetched (reply : List Fetch) : List RawMessage := reply.filterMap Fetch.raw?

section Opening

/-- What is asked until there is a session. -/
def ImapOp.IsOpening : ImapOp → Prop
  | .tcpConnect _ | .tlsConnect _ _ _ | .readResponse _ | .login _ _ _ => True
  | _ => False

theorem connect_asks (target : HostPort) (tls : TlsMode) (tlsInsecure : Bool) :
    AsksOnly ImapOp.IsOpening (ExceptT.run (connect target tls tlsInsecure)) := by
  apply asksOnly_fallible_bind
  · exact asksOnly_attempt _ (asksOnly_call trivial)
  · intro tcp
    apply asksOnly_fallible_bind
    · cases tls with
      | plain => exact asksOnly_pure _
      | implicitTls =>
        apply asksOnly_fallible_bind
        · exact asksOnly_attempt _ (asksOnly_call trivial)
        · exact fun stream => asksOnly_pure _
    · intro stream
      apply asksOnly_fallible_bind
      · apply asksOnly_fallible_bind
        · exact asksOnly_lift (asksOnly_call trivial)
        · intro response
          apply asksOnly_fallible_bind
          · exact asksOnly_except _
          · exact fun greeting => asksOnly_except _
      · exact fun _ => asksOnly_pure _

theorem connectAndLogin_asks (cred : MailboxCredential) (settings : ImapSettings) :
    AsksOnly ImapOp.IsOpening (ExceptT.run (connectAndLogin cred settings)) := by
  apply asksOnly_fallible_bind
  · exact connect_asks _ _ _
  · exact fun client => asksOnly_attempt _ (asksOnly_call trivial)

theorem fetchRequests_connectAndLogin (answer : (q : ImapOp) → q.Answer)
    (cred : MailboxCredential) (settings : ImapSettings) :
    fetchRequests answer (connectAndLogin cred settings) = [] := by
  apply List.filterMap_eq_nil_iff.mpr
  intro q hq
  have hopening := asksOnly_asked (connectAndLogin_asks cred settings) answer q hq
  cases q with
  | uidFetch session set query => exact hopening.elim
  | _ => rfl

end Opening

section FetchRequests

variable {α β : Type} (answer : (q : ImapOp) → q.Answer)

@[simp] theorem fetchRequests_pure (a : α) :
    fetchRequests answer (pure a : ImapAction α) = [] := rfl

@[simp] theorem fetchRequests_except (x : Except GatewayError α) :
    fetchRequests answer (liftM x : ImapAction α) = [] := rfl

theorem fetchRequests_bind (p : ImapAction α) (f : α → ImapAction β) :
    fetchRequests answer (p >>= f) = fetchRequests answer p ++ match runE answer p with
      | .ok a => fetchRequests answer (f a)
      | .error _ => [] := by
  unfold fetchRequests
  rw [asked_fallible_bind, List.filterMap_append]
  cases runE answer p with
  | error e => rfl
  | ok a => rfl

@[simp] theorem fetchRequests_attempt {δ : Type} (mapErr : δ → GatewayError)
    (p : ImapProg (Except δ α)) :
    fetchRequests answer (attempt mapErr p) = (p.asked answer).filterMap ImapOp.fetch? := by
  unfold fetchRequests
  rw [asked_attempt]

@[simp] theorem fetchRequests_lift (p : ImapProg α) :
    fetchRequests answer (liftM p : ImapAction α) = (p.asked answer).filterMap ImapOp.fetch? := by
  unfold fetchRequests
  rw [asked_lift]

end FetchRequests

section FreshSession

variable {α : Type} {answer : (q : ImapOp) → q.Answer} {cred : MailboxCredential}
  {settings : ImapSettings} {session : ImapSession}

theorem runE_onFreshSession (hlogin : runE answer (connectAndLogin cred settings) = .ok session)
    (operation : ImapSession → ImapAction α) :
    runE answer (onFreshSession cred settings operation) = runE answer (operation session) := by
  unfold onFreshSession
  simp only [runE_bind, hlogin, ok_bind, runE_lift, runE_except]
  rfl

theorem fetchRequests_onFreshSession
    (hlogin : runE answer (connectAndLogin cred settings) = .ok session)
    (operation : ImapSession → ImapAction α) :
    fetchRequests answer (onFreshSession cred settings operation) =
      fetchRequests answer (operation session) := by
  unfold onFreshSession
  simp only [fetchRequests_bind, fetchRequests_connectAndLogin, hlogin, List.nil_append,
    fetchRequests_lift, runE_lift, fetchRequests_except, List.append_nil]
  have hlogout : (Prog.asked answer (logout session)).filterMap ImapOp.fetch? = [] := rfl
  rw [hlogout, List.append_nil]
  rfl

end FreshSession

section Served

variable (parse : MailParser) (esc : UnicodeEscapes) (settings : ImapSettings)
  (cred : MailboxCredential)

/-- A server that answers a search: from the login on, each question succeeds. -/
structure Served (answer : (q : ImapOp) → q.Answer) (folder key : String)
    (session : ImapSession) (found : UidSet) (reply : List Fetch) : Prop where
  login : runE answer (connectAndLogin cred settings) = .ok session
  select : answer (.select session folder) = .ok ()
  search : answer (.uidSearch session key) = .ok found
  fetch : ∀ set, answer (.uidFetch session set FETCH_RAW_QUERY) = .ok reply

variable {answer : (q : ImapOp) → q.Answer} {folder key : String} {session : ImapSession}
  {found : UidSet} {reply : List Fetch}

theorem runE_select (hserved : Served settings cred answer folder key session found reply) :
    runE answer (Overfwd.select session folder) = .ok () := by
  unfold Overfwd.select
  rw [runE_attempt, run_call, hserved.select]
  rfl

theorem runE_uidSearch (hserved : Served settings cred answer folder key session found reply) :
    runE answer (uidSearch session key) = .ok found.iter := by
  unfold uidSearch
  rw [runE_bind, runE_attempt, run_call, hserved.search]
  rfl

theorem runE_uidFetchRaw (hserved : Served settings cred answer folder key session found reply)
    (uids : List Uid) (huids : uids ≠ []) :
    runE answer (uidFetchRaw session uids) = .ok (fetched reply) := by
  unfold uidFetchRaw
  rw [if_neg (by simpa using huids), runE_bind, runE_attempt, run_call, hserved.fetch]
  rfl

theorem fetchRequests_uidFetchRaw
    (hserved : Served settings cred answer folder key session found reply)
    (uids : List Uid) (huids : uids ≠ []) :
    fetchRequests answer (uidFetchRaw session uids) = [(uidSetText uids, FETCH_RAW_QUERY)] := by
  unfold uidFetchRaw
  rw [if_neg (by simpa using huids), fetchRequests_bind, fetchRequests_attempt, runE_attempt,
    run_call, hserved.fetch, asked_call]
  rfl

/-- When nothing is requested, a reply without unrequested messages has none at all. -/
theorem runE_fetchSelected (hserved : Served settings cred answer folder key session found reply)
    (total : ℕ) (uids : List Uid) (hrequested : ∀ m ∈ fetched reply, m.uid ∈ uids) :
    runE answer (fetchSelected parse session total uids) =
      .ok { summaries := summarise parse (fetched reply), total := total } := by
  unfold fetchSelected
  cases uids with
  | nil =>
    have hnone : fetched reply = [] := by
      apply List.eq_nil_iff_forall_not_mem.mpr
      intro m hm
      exact List.not_mem_nil (hrequested m hm)
    rw [hnone]
    rfl
  | cons uid uids =>
    rw [if_neg (by simp), runE_bind,
      runE_uidFetchRaw settings cred hserved _ (List.cons_ne_nil uid uids)]
    rfl

theorem fetchRequests_fetchSelected
    (hserved : Served settings cred answer folder key session found reply)
    (total : ℕ) (uids : List Uid) :
    fetchRequests answer (fetchSelected parse session total uids) =
      if uids = [] then [] else [(uidSetText uids, FETCH_RAW_QUERY)] := by
  unfold fetchSelected
  cases uids with
  | nil => rfl
  | cons uid uids =>
    have hne := List.cons_ne_nil uid uids
    rw [if_neg (by simp), if_neg hne, fetchRequests_bind,
      fetchRequests_uidFetchRaw settings cred hserved _ hne,
      runE_uidFetchRaw settings cred hserved _ hne]
    rfl

theorem runE_searchOn (hserved : Served settings cred answer folder key session found reply)
    (limit : ℕ) (hrequested : ∀ m ∈ fetched reply, m.uid ∈ newest id limit found.iter) :
    runE answer (searchOn parse session folder key limit) =
      .ok { summaries := summarise parse (fetched reply), total := found.iter.length } := by
  unfold searchOn
  rw [runE_bind, runE_select settings cred hserved, ok_bind, runE_bind,
    runE_uidSearch settings cred hserved, ok_bind]
  exact runE_fetchSelected parse settings cred hserved _ _ hrequested

theorem fetchRequests_searchOn
    (hserved : Served settings cred answer folder key session found reply) (limit : ℕ) :
    fetchRequests answer (searchOn parse session folder key limit) =
      if newest id limit found.iter = [] then []
      else [(uidSetText (newest id limit found.iter), FETCH_RAW_QUERY)] := by
  have hselect : fetchRequests answer (Overfwd.select session folder) = [] := by
    unfold Overfwd.select
    rw [fetchRequests_attempt, asked_call]
    rfl
  have hsearch : fetchRequests answer (uidSearch session key) = [] := by
    unfold uidSearch
    rw [fetchRequests_bind, fetchRequests_attempt, runE_attempt, run_call, hserved.search,
      asked_call]
    rfl
  unfold searchOn
  rw [fetchRequests_bind, hselect, runE_select settings cred hserved, List.nil_append]
  dsimp only
  rw [fetchRequests_bind, hsearch, runE_uidSearch settings cred hserved, List.nil_append]
  exact fetchRequests_fetchSelected parse settings cred hserved _ _

end Served

section SearchResult

variable (parse : MailParser) (esc : UnicodeEscapes) (settings : ImapSettings)
  (cred : MailboxCredential) (request : SearchRequest)
  {answer : (q : ImapOp) → q.Answer} {key : String} {session : ImapSession}
  {found : UidSet} {reply : List Fetch}

theorem runE_doSearch (hkey : request.searchKey esc = .ok key)
    (hserved : Served settings cred answer (request.folder.getD DEFAULT_MAILBOX) key session
      found reply)
    (hrequested : ∀ m ∈ fetched reply, m.uid ∈ newest id request.effectiveLimit found.iter) :
    runE answer (doSearch parse esc settings cred request) =
      .ok (.fromResults
        { summaries := summarise parse (fetched reply), total := found.iter.length }) := by
  unfold doSearch search
  simp only [runE_bind, runE_except, hkey, ok_bind, runE_onFreshSession hserved.login,
    runE_searchOn parse settings cred hserved _ hrequested, runE_pure]

theorem fetchRequests_doSearch (hkey : request.searchKey esc = .ok key)
    (hserved : Served settings cred answer (request.folder.getD DEFAULT_MAILBOX) key session
      found reply)
    (hrequested : ∀ m ∈ fetched reply, m.uid ∈ newest id request.effectiveLimit found.iter) :
    fetchRequests answer (doSearch parse esc settings cred request) =
      if newest id request.effectiveLimit found.iter = [] then []
      else [(uidSetText (newest id request.effectiveLimit found.iter), FETCH_RAW_QUERY)] := by
  unfold doSearch search
  simp only [fetchRequests_bind, fetchRequests_except, runE_except, hkey, List.nil_append,
    fetchRequests_onFreshSession hserved.login, runE_onFreshSession hserved.login,
    fetchRequests_searchOn parse settings cred hserved,
    runE_searchOn parse settings cred hserved _ hrequested, fetchRequests_pure, List.append_nil]

/-- The summaries are those of the fetched messages, largest UID first. -/
theorem summarise_perm (raws : List RawMessage) :
    (summarise parse raws).Perm (raws.map fun m => parseSummary parse m.uid m.raw) :=
  newestFirst_perm _ _

theorem summary_uids (raws : List RawMessage) :
    (raws.map fun m => parseSummary parse m.uid m.raw).map MessageSummary.uid =
      raws.map RawMessage.uid := by
  rw [List.map_map]
  apply List.map_congr_left
  exact fun m _ => parseSummary_uid parse m.uid m.raw

theorem summarise_descending (raws : List RawMessage) (hdistinct : (raws.map RawMessage.uid).Nodup) :
    (summarise parse raws).Pairwise fun a b => b.uid < a.uid := by
  apply newestFirst_strict
  rwa [summary_uids]

theorem summarise_eq_of_perm (raws raws' : List RawMessage)
    (hdistinct : (raws.map RawMessage.uid).Nodup) (hperm : raws'.Perm raws) :
    summarise parse raws' = summarise parse raws := by
  apply newestFirst_eq_of_perm
  · rwa [summary_uids]
  · exact hperm.map _

/-- Nothing is missing exactly when there are as many results as matches. -/
theorem truncated_eq_false_iff (raws : List RawMessage)
    (hdistinct : (raws.map RawMessage.uid).Nodup) (hfound : ∀ m ∈ raws, m.uid ∈ found.iter) :
    (SearchResponse.fromResults
        { summaries := summarise parse raws, total := found.iter.length }).truncated = false ↔
      ∀ uid ∈ found.toFinset, uid ∈ (summarise parse raws).map MessageSummary.uid := by
  have hperm : ((summarise parse raws).map MessageSummary.uid).Perm (raws.map RawMessage.uid) := by
    rw [← summary_uids parse]
    exact (summarise_perm parse raws).map _
  have hnodup := hperm.nodup_iff.mpr hdistinct
  have hsubset : (summarise parse raws).map MessageSummary.uid ⊆ found.iter := by
    intro uid huid
    obtain ⟨m, hm, rfl⟩ := List.mem_map.mp (hperm.subset huid)
    exact hfound m hm
  have hlength : (summarise parse raws).length =
      ((summarise parse raws).map MessageSummary.uid).length := by rw [List.length_map]
  unfold SearchResponse.fromResults UidSet.toFinset
  simp only [decide_eq_false_iff_not, not_lt, List.mem_toFinset]
  constructor
  · -- A sublist up to order that is as long as the whole is the whole.
    intro hle uid huid
    have hsub := List.subperm_of_subset hnodup hsubset
    have hall := hsub.perm_of_length_le (by omega)
    exact hall.symm.subset huid
  · intro hall
    have hsub : found.iter.Subperm ((summarise parse raws).map MessageSummary.uid) :=
      List.subperm_of_subset found.nodup hall
    have hle := hsub.length_le
    omega

/-- The cut sorts before it takes and the summaries are sorted, so neither the order of the
matches nor that of the reply shows. -/
theorem doSearch_congr (hkey : request.searchKey esc = .ok key)
    (hserved : Served settings cred answer (request.folder.getD DEFAULT_MAILBOX) key session
      found reply)
    (hdistinct : ((fetched reply).map RawMessage.uid).Nodup)
    (hrequested : ∀ m ∈ fetched reply, m.uid ∈ newest id request.effectiveLimit found.iter)
    (answer' : (q : ImapOp) → q.Answer) (session' : ImapSession) (found' : UidSet)
    (reply' : List Fetch)
    (hserved' : Served settings cred answer' (request.folder.getD DEFAULT_MAILBOX) key session'
      found' reply')
    (hsame : found'.toFinset = found.toFinset) (hperm : (fetched reply').Perm (fetched reply)) :
    runE answer' (doSearch parse esc settings cred request) =
        runE answer (doSearch parse esc settings cred request) ∧
      fetchRequests answer' (doSearch parse esc settings cred request) =
        fetchRequests answer (doSearch parse esc settings cred request) := by
  -- Without repetitions, the same set of matches is the same list up to order.
  have hiter : found'.iter.Perm found.iter :=
    List.perm_of_nodup_nodup_toFinset_eq found'.nodup found.nodup hsame
  have hcut : newest id request.effectiveLimit found'.iter =
      newest id request.effectiveLimit found.iter := by
    apply newest_eq_of_perm id _ found.iter found'.iter _ hiter
    rw [List.map_id]
    exact found.nodup
  have hrequested' : ∀ m ∈ fetched reply',
      m.uid ∈ newest id request.effectiveLimit found'.iter := by
    intro m hm
    rw [hcut]
    exact hrequested m (hperm.subset hm)
  constructor
  · rw [runE_doSearch parse esc settings cred request hkey hserved' hrequested',
      runE_doSearch parse esc settings cred request hkey hserved hrequested, hiter.length_eq,
      summarise_eq_of_perm parse _ _ hdistinct hperm]
  · rw [fetchRequests_doSearch parse esc settings cred request hkey hserved' hrequested',
      fetchRequests_doSearch parse esc settings cred request hkey hserved hrequested, hcut]

/-- For any match set, limit and lossy, unordered FETCH reply: the newest matches are
requested, what came of them is returned newest first with the full count, and no order
the server or the hash set chose shows in the response. -/
theorem search_returns_newest (hkey : request.searchKey esc = .ok key)
    (hserved : Served settings cred answer (request.folder.getD DEFAULT_MAILBOX) key session
      found reply)
    (hdistinct : ((fetched reply).map RawMessage.uid).Nodup)
    (hrequested : ∀ m ∈ fetched reply,
      m.uid ∈ newest id (min (request.limit.getD 10) 50) found.iter) :
    IsNewest found.toFinset (min (request.limit.getD 10) 50)
        (newest id (min (request.limit.getD 10) 50) found.iter) ∧
      fetchRequests answer (doSearch parse esc settings cred request) =
        (if newest id (min (request.limit.getD 10) 50) found.iter = [] then []
        else [(uidSetText (newest id (min (request.limit.getD 10) 50) found.iter),
          FETCH_RAW_QUERY)]) ∧
      ∃ response, runE answer (doSearch parse esc settings cred request) = .ok response ∧
        (response.results.Pairwise fun a b => b.uid < a.uid) ∧
        response.results.Perm ((fetched reply).map fun m => parseSummary parse m.uid m.raw) ∧
        response.total = found.toFinset.card ∧
        (response.truncated = false ↔
          ∀ uid ∈ found.toFinset, uid ∈ response.results.map MessageSummary.uid) ∧
        ∀ answer' session' found' reply',
          Served settings cred answer' (request.folder.getD DEFAULT_MAILBOX) key session'
            found' reply' →
          found'.toFinset = found.toFinset → (fetched reply').Perm (fetched reply) →
          runE answer' (doSearch parse esc settings cred request) = .ok response ∧
            fetchRequests answer' (doSearch parse esc settings cred request) =
              fetchRequests answer (doSearch parse esc settings cred request) := by
  have hnewest := newest_isNewest (min (request.limit.getD 10) 50) found.iter found.nodup
  have hfound : ∀ m ∈ fetched reply, m.uid ∈ found.iter := by
    intro m hm
    exact List.mem_toFinset.mp (hnewest.subset m.uid (hrequested m hm))
  have hfetch := fetchRequests_doSearch parse esc settings cred request hkey hserved hrequested
  have hrun := runE_doSearch parse esc settings cred request hkey hserved hrequested
  refine ⟨hnewest, hfetch, _, hrun,
    summarise_descending parse _ hdistinct, summarise_perm parse _,
    (List.toFinset_card_of_nodup found.nodup).symm,
    truncated_eq_false_iff parse _ hdistinct hfound, ?_⟩
  intro answer' session' found' reply' hserved' hsame hperm
  rw [← hrun]
  exact doSearch_congr parse esc settings cred request hkey hserved hdistinct hrequested answer'
    session' found' reply' hserved' hsame hperm

end SearchResult

def aliceCred : MailboxCredential :=
  { username := "alice", password := "s3cr3t", imap := ⟨"mail.example.com", 3143⟩,
    smtp := ⟨"mail.example.com", 3025⟩ }

def newestTwo : SearchRequest :=
  { folder := none, «from» := none, subject := none, text := none, since := none, query := none,
    limit := some 2 }

/-- Three matches, the newest of which is gone when it is fetched. -/
def expungedAnswer : (q : ImapOp) → q.Answer
  | .tcpConnect target => .ok ⟨target⟩
  | .tlsConnect tcp host insecure => .ok ⟨tcp, host, insecure⟩
  | .readResponse _ => some (.ok ())
  | .login client username password => .ok ⟨0, client, username, password⟩
  | .select _ _ => .ok ()
  | .uidSearch _ _ => .ok ⟨[3, 9, 1], by decide⟩
  | .uidFetch _ _ _ => .ok [⟨none, some []⟩, ⟨some 3, some []⟩]
  | .noop _ _ => some (.ok ())
  | .logout _ _ => ()
  | .now => 0
  | .take _ _ _ => (none, [])
  | .put _ _ _ _ _ => []

theorem expunged_search_returns_newest :
    fetchRequests expungedAnswer
        (doSearch (fun _ => none) (fun _ => false) ⟨false⟩ aliceCred newestTwo) =
      [("9,3", "(UID BODY.PEEK[])")] ∧
      ∃ response, runE expungedAnswer
          (doSearch (fun _ => none) (fun _ => false) ⟨false⟩ aliceCred newestTwo) = .ok response ∧
        response.results.map MessageSummary.uid = [3] ∧ response.total = 3 ∧
        response.truncated = true := by
  have hkey : newestTwo.searchKey (fun _ => false) = .ok "ALL" := by decide +kernel
  have hserved : Served ⟨false⟩ aliceCred expungedAnswer "INBOX" "ALL"
      ⟨0, ⟨.plain ⟨aliceCred.imap⟩⟩, "alice", "s3cr3t"⟩ ⟨[3, 9, 1], by decide⟩
      [⟨none, some []⟩, ⟨some 3, some []⟩] := by
    constructor
    · rfl
    · rfl
    · rfl
    · exact fun _ => rfl
  obtain ⟨-, hfetch, response, hrun, -, hperm, htotal, htruncated, -⟩ :=
    search_returns_newest (fun _ => none) (fun _ => false) ⟨false⟩ aliceCred newestTwo
      hkey hserved (by decide) (by decide)
  have hresults : response.results.map MessageSummary.uid = [3] := by
    have huids := hperm.map MessageSummary.uid
    exact List.perm_singleton.mp huids
  refine ⟨?_, response, hrun, hresults, htotal, ?_⟩
  · rw [hfetch]
    decide +kernel
  · rw [hresults] at htruncated
    have hmissing : ¬ ∀ uid ∈ UidSet.toFinset ⟨[3, 9, 1], by decide⟩, uid ∈ ([3] : List Uid) := by
      intro hall
      have hnine : (9 : Uid) ∈ ([3] : List Uid) := hall 9 (List.mem_toFinset.mpr (by simp))
      exact absurd hnine (by decide)
    exact Bool.eq_true_of_not_eq_false fun h => hmissing (htruncated.mp h)

end Overfwd
