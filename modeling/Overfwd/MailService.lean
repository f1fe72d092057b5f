import Mathlib.Data.Finset.Sort
import Overfwd.ReadOperation
import Overfwd.SearchLine

namespace Overfwd

open Text Outcome Dialogue Newest

/-- The messages of a mailbox by their UIDs, and what SEARCH finds in it. -/
structure Mailbox where
  message : Uid → Option (List UInt8)
  found : String → Finset Uid

/-- The mailboxes at a target, of a user, by name. -/
abbrev Mailboxes := HostPort → String → String → Option Mailbox

/-- What a client may see of a mailbox, if there is one. SEARCH and FETCH end without an error
also where the server refuses them or the connection is cut, with what has arrived by then; only
where they are `complete` is the whole mailbox seen. -/
structure Mailbox.SeenOf (seen : Mailbox) (complete : Prop) (box? : Option Mailbox) : Prop where
  message : ∀ uid raw, seen.message uid = some raw →
    ∃ box, box? = some box ∧ box.message uid = some raw
  found : ∀ query, ∀ uid ∈ seen.found query, ∃ box, box? = some box ∧ uid ∈ box.found query
  whole : complete → box? = some seen

theorem seenOf_self (box : Mailbox) (complete : Prop) : box.SeenOf complete (some box) :=
  ⟨fun _ _ h => ⟨box, rfl, h⟩, fun _ _ h => ⟨box, rfl, h⟩, fun _ => rfl⟩

/-- What may be seen of a mailbox of the credential's account, while the provider is in `worlds`
and the servers in `complete` complete every SEARCH and FETCH. -/
def MailboxCredential.views (cred : MailboxCredential) (complete : Set HostPort) (mailbox : String)
    (worlds : Set Mailboxes) : Set Mailbox :=
  {seen | ∃ world ∈ worlds,
    seen.SeenOf (cred.imap ∈ complete) (world cred.imap cred.username mailbox)}

section Peeking

variable (session : ImapSession) {asked : String → Prop}

/-- SEARCH for what was asked, and FETCH without setting a flag. -/
def ImapOp.Peeks (asked : String → Prop) : ImapOp → Prop
  | .uidSearch session' query => session' = session ∧ asked query
  | .uidFetch session' _ items => session' = session ∧ items = FETCH_RAW_QUERY
  | _ => False

theorem uidFetchRaw_peeks (uids : List Uid) :
    AsksOnly (ImapOp.Peeks session asked) (ExceptT.run (uidFetchRaw session uids)) := by
  unfold uidFetchRaw
  split_ifs
  · exact asksOnly_pure _
  · refine asksOnly_fallible_bind (asksOnly_attempt _ (asksOnly_call ⟨rfl, rfl⟩)) fun fetches => ?_
    exact asksOnly_pure _

theorem fetchSelected_peeks (parse : MailParser) (total : ℕ) (uids : List Uid) :
    AsksOnly (ImapOp.Peeks session asked)
      (ExceptT.run (fetchSelected parse session total uids)) := by
  unfold fetchSelected
  split_ifs
  · exact asksOnly_pure _
  · exact asksOnly_fallible_bind (uidFetchRaw_peeks session uids) fun raws => asksOnly_pure _

theorem uidSearch_peeks (query : String) (hasked : asked query) :
    AsksOnly (ImapOp.Peeks session asked) (ExceptT.run (uidSearch session query)) :=
  asksOnly_fallible_bind (asksOnly_attempt _ (asksOnly_call ⟨rfl, hasked⟩)) fun _ =>
    asksOnly_pure _

end Peeking

section Results

variable (parse : MailParser)

/-- What a search should give: the matches are counted in the mailbox as it is searched, and
the newest of them are summed up as far as they are there when they are fetched. -/
def Mailbox.searched (box box' : Mailbox) (query : String) (limit : ℕ) : SearchResults :=
  { summaries := (((box.found query).sort (· ≥ ·)).take limit).filterMap fun uid =>
      (box'.message uid).map (parseSummary parse uid)
    total := (box.found query).card }

/-- The result is right for what was seen of the mailbox. A message that is said to be missing
was not seen; other errors say nothing of the mailbox. -/
def ReadAction.Right (views : Set Mailbox) : ReadAction → PoolResult → Prop
  | .search query limit, .ok (.inl results) =>
    ∃ seen ∈ views, ∃ seen' ∈ views, results = seen.searched parse seen' query limit
  | .get uid, .ok (.inr message) =>
    ∃ seen ∈ views, ∃ raw, seen.message uid = some raw ∧ message = parseFull parse uid raw
  | .get uid, .error (.notFound m) =>
    m = "no message with uid " ++ toString uid → ∃ seen ∈ views, seen.message uid = none
  | _, .ok _ => False
  | _, .error _ => True

end Results

section Sets

/-- The UIDs that a set of FETCH names one by one. -/
def readUidSet (set : String) : Option (List Uid) :=
  (split ',' set).mapM fun part => (parseUnsigned (2^32) part).map (Fin.ofNat (2^32))

/-- What the gateway writes is read as it is meant. -/
theorem readUidSet_uidSetText (uids : List Uid) (hne : uids ≠ []) :
    readUidSet (uidSetText uids) = some uids := by
  have hparts : ∀ p ∈ uids.map toString, ',' ∉ p.toList := by
    intro p hp hcomma
    obtain ⟨uid, -, rfl⟩ := List.mem_map.mp hp
    exact absurd (isDigit_of_mem_toString uid.val ',' hcomma) (by decide)
  unfold readUidSet uidSetText
  rw [split_join ',' "," _ rfl (by simpa using hne) hparts]
  clear hne hparts
  induction uids with
  | nil => rfl
  | cons uid uids ih =>
    have hread : parseUnsigned (2^32) (toString uid) = some uid.val :=
      (parseUnsigned_eq_some_iff _ _ _).mpr ⟨numeral_toString uid.val, uid.isLt⟩
    rw [List.map_cons, List.mapM_cons, hread, ih]
    have hval : Fin.ofNat (2^32) uid.val = uid := Fin.ofNat_val_eq_self uid
    exact congrArg (fun u => some (u :: uids)) hval

end Sets

/-- The reply to a FETCH of bodies: each message of the set that is there, once, in any order,
whatever else the server mentions without a body. -/
structure Mailbox.Fetches (box : Mailbox) (set : String) (reply : List Fetch) : Prop where
  distinct : ((fetched reply).map RawMessage.uid).Nodup
  messages : ∀ uids, readUidSet set = some uids → ∀ m : RawMessage,
    m ∈ fetched reply ↔ m.uid ∈ uids ∧ box.message m.uid = some m.raw

/-- What is said of a mailbox is one of the views of it. -/
def Truthful (views : Set Mailbox) : (q : ImapOp) → q.Answer → Prop
  | .uidSearch _ query, .ok found => ∃ seen ∈ views, found.toFinset = seen.found query
  | .uidFetch _ set _, .ok reply => ∃ seen ∈ views, seen.Fetches set reply
  | _, _ => True

theorem truthful_mono {views views' : Set Mailbox} (hsub : views ⊆ views') (q : ImapOp) (x : q.Answer)
    (h : Truthful views q x) : Truthful views' q x := by
  cases q with
  | uidSearch session query =>
    cases x with
    | error e => trivial
    | ok found =>
      obtain ⟨box, hbox, hfound⟩ := h
      exact ⟨box, hsub hbox, hfound⟩
  | uidFetch session set items =>
    cases x with
    | error e => trivial
    | ok reply =>
      obtain ⟨box, hbox, hfetches⟩ := h
      exact ⟨box, hsub hbox, hfetches⟩
  | _ => trivial

section Newest

/-- The newest of the matches do not depend on how they were listed. -/
theorem newest_eq_sort (found : UidSet) (limit : ℕ) :
    newest id limit found.iter = (found.toFinset.sort (· ≥ ·)).take limit := by
  have hkeys : (found.iter.map id).Nodup := by
    rw [List.map_id]
    exact found.nodup
  have hperm : (found.toFinset.sort (· ≥ ·)).Perm found.iter :=
    (Finset.sort_perm_toList _ _).trans (List.toFinset_toList found.nodup)
  have hsorted : (found.toFinset.sort (· ≥ ·)).Pairwise (· ≥ ·) := Finset.pairwise_sort _ _
  unfold newest
  rw [eq_newestFirst id found.iter _ hkeys hperm hsorted]

variable (parse : MailParser)

/-- The summaries of a truthful reply are those of the messages that are there, in the order
of the request when that is newest first. -/
theorem summarise_fetched (box : Mailbox) (uids : List Uid) (reply : List Fetch) (hne : uids ≠ [])
    (hdescending : uids.Pairwise fun a b => b < a) (hfetches : box.Fetches (uidSetText uids) reply) :
    summarise parse (fetched reply) =
      uids.filterMap fun uid => (box.message uid).map (parseSummary parse uid) := by
  have hmessages := hfetches.messages uids (readUidSet_uidSetText uids hne)
  let there := uids.filterMap fun uid => (box.message uid).map (RawMessage.mk uid)
  have hdescends : there.Pairwise fun m m' => m'.uid < m.uid := by
    refine hdescending.filterMap _ fun uid uid' hlt m hm m' hm' => ?_
    obtain ⟨raw, -, rfl⟩ := Option.map_eq_some_iff.mp hm
    obtain ⟨raw', -, rfl⟩ := Option.map_eq_some_iff.mp hm'
    exact hlt
  have hnodup : (there.map RawMessage.uid).Nodup :=
    List.pairwise_map.mpr (hdescends.imp fun h => ne_of_gt h)
  have hperm : (fetched reply).Perm there := by
    refine (List.perm_ext_iff_of_nodup hfetches.distinct.of_map hnodup.of_map).mpr fun m => ?_
    rw [hmessages m, List.mem_filterMap]
    constructor
    · rintro ⟨huid, hraw⟩
      exact ⟨m.uid, huid, by rw [hraw]; rfl⟩
    · rintro ⟨uid, huid, hm⟩
      obtain ⟨raw, hraw, rfl⟩ := Option.map_eq_some_iff.mp hm
      exact ⟨huid, hraw⟩
  rw [summarise_eq_of_perm parse there _ hnodup hperm]
  have hsummaries : there.map (fun m => parseSummary parse m.uid m.raw) =
      uids.filterMap fun uid => (box.message uid).map (parseSummary parse uid) := by
    change (uids.filterMap _).map _ = _
    rw [List.map_filterMap]
    apply List.filterMap_congr
    intro uid _
    rw [Option.map_map]
    rfl
  rw [← hsummaries]
  refine (eq_newestFirst MessageSummary.uid _ _ ?_ (.refl _) ?_).symm
  · rwa [summary_uids]
  · refine List.pairwise_map.mpr (hdescends.imp fun {m m'} hlt => ?_)
    rw [parseSummary_uid, parseSummary_uid]
    exact hlt.le

end Newest

section Reads

variable {parse : MailParser} {session : ImapSession} {mailbox : String} {views : Set Mailbox}
  {h : ImapHistory}

/-- An attempt has succeeded because what was attempted has. -/
theorem plays_ok_attempt {δ α : Type} (mapErr : δ → GatewayError) (p : ImapProg (Except δ α)) (a : α)
    (hplays : Plays (ExceptT.run (attempt mapErr p)) h (.ok a)) : Plays p h (.ok a) := by
  obtain ⟨x, hp, hx⟩ := (plays_attempt mapErr p _).mp hplays
  cases x with
  | error e => cases hx
  | ok b =>
    cases hx
    exact hp

theorem plays_ok_uidSearch (query : String) (uids : List Uid)
    (hplays : Plays (ExceptT.run (uidSearch session query)) h (.ok uids)) :
    ∃ found, h = [⟨.uidSearch session query, .ok found⟩] ∧ uids = found.iter := by
  obtain ⟨h₁, found, h₂, hcall, hpure, rfl⟩ := plays_ok_bind _ _ _ hplays
  obtain rfl := (plays_call _ _).mp (plays_ok_attempt _ _ _ hcall)
  obtain ⟨rfl, huids⟩ := (plays_run_pure _ _).mp hpure
  cases huids
  exact ⟨found, List.append_nil _, rfl⟩

theorem plays_ok_uidFetchRaw (uids : List Uid) (hne : uids ≠ []) (raws : List RawMessage)
    (hplays : Plays (ExceptT.run (uidFetchRaw session uids)) h (.ok raws)) :
    ∃ reply, h = [⟨.uidFetch session (uidSetText uids) FETCH_RAW_QUERY, .ok reply⟩] ∧
      raws = fetched reply := by
  unfold uidFetchRaw at hplays
  rw [if_neg (by simpa using hne)] at hplays
  obtain ⟨h₁, reply, h₂, hcall, hpure, rfl⟩ := plays_ok_bind _ _ _ hplays
  obtain rfl := (plays_call _ _).mp (plays_ok_attempt _ _ _ hcall)
  obtain ⟨rfl, hraws⟩ := (plays_run_pure _ _).mp hpure
  cases hraws
  exact ⟨reply, List.append_nil _, rfl⟩

theorem searchOn_right (query : String) (limit : ℕ) (results : SearchResults)
    (hplays : Plays (ExceptT.run (searchOn parse session mailbox query limit)) h (.ok results))
    (htruthful : ∀ e ∈ h, Truthful views e.1 e.2) :
    ∃ seen ∈ views, ∃ seen' ∈ views, results = seen.searched parse seen' query limit := by
  obtain ⟨h₁, _, h', -, hrest, rfl⟩ := plays_ok_bind _ _ _ hplays
  obtain ⟨h₂, uids, h₃, hsearch, hfetch, rfl⟩ := plays_ok_bind _ _ _ hrest
  obtain ⟨found, rfl, rfl⟩ := plays_ok_uidSearch query uids hsearch
  obtain ⟨box, hbox, hfound⟩ := htruthful ⟨.uidSearch session query, .ok found⟩ (by simp)
  have htotal : found.iter.length = (box.found query).card := by
    rw [← hfound]
    exact (List.toFinset_card_of_nodup found.nodup).symm
  have hnewest : newest id limit found.iter = ((box.found query).sort (· ≥ ·)).take limit := by
    rw [newest_eq_sort, hfound]
  -- The total is that of the SEARCH; some of the messages may be gone by the FETCH.
  unfold selectNewest fetchSelected at hfetch
  dsimp only at hfetch
  rw [hnewest, htotal] at hfetch
  unfold Mailbox.searched
  split_ifs at hfetch with hempty
  · obtain ⟨rfl, hresults⟩ := (plays_run_pure _ _).mp hfetch
    cases hresults
    refine ⟨box, hbox, box, hbox, ?_⟩
    rw [List.isEmpty_iff.mp hempty]
    rfl
  · have hne : ((box.found query).sort (· ≥ ·)).take limit ≠ [] := fun h => hempty (by rw [h]; rfl)
    obtain ⟨h₄, raws, h₅, hraws, hpure, rfl⟩ := plays_ok_bind _ _ _ hfetch
    obtain ⟨reply, rfl, rfl⟩ := plays_ok_uidFetchRaw _ hne raws hraws
    obtain ⟨box', hbox', hfetches⟩ := htruthful _ (List.mem_append_right _
      (List.mem_append_right _ (List.mem_append_left _ (List.mem_singleton.mpr rfl))))
    obtain ⟨rfl, hresults⟩ := (plays_run_pure _ _).mp hpure
    cases hresults
    refine ⟨box, hbox, box', hbox', ?_⟩
    rw [summarise_fetched parse box' _ reply hne ?_ hfetches]
    exact (Finset.sortedGT_sort _).pairwise.sublist (List.take_sublist _ _)

theorem getOn_right (uid : Uid) (message : FullMessage)
    (hplays : Plays (ExceptT.run (getOn parse session mailbox uid)) h (.ok message))
    (htruthful : ∀ e ∈ h, Truthful views e.1 e.2) :
    ∃ seen ∈ views, ∃ raw, seen.message uid = some raw ∧ message = parseFull parse uid raw := by
  obtain ⟨h₁, _, h', -, hrest, rfl⟩ := plays_ok_bind _ _ _ hplays
  obtain ⟨h₂, raws, h₃, hfetch, hhead, rfl⟩ := plays_ok_bind _ _ _ hrest
  obtain ⟨reply, rfl, rfl⟩ := plays_ok_uidFetchRaw [uid] (List.cons_ne_nil _ _) raws hfetch
  obtain ⟨box, hbox, hfetches⟩ :=
    htruthful ⟨.uidFetch session (uidSetText [uid]) FETCH_RAW_QUERY, .ok reply⟩ (by simp)
  obtain ⟨msg, hmsg, hpure⟩ := plays_ok_except_bind _ _ _ hhead
  obtain ⟨-, hmessage⟩ := (plays_run_pure _ _).mp hpure
  cases hmessage
  have hmem : msg ∈ fetched reply := List.mem_of_mem_head? ((okOr_eq_ok_iff _ _ _).mp hmsg)
  obtain ⟨huid, hraw⟩ := (hfetches.messages [uid]
    (readUidSet_uidSetText [uid] (List.cons_ne_nil _ _)) msg).mp hmem
  obtain rfl := List.mem_singleton.mp huid
  exact ⟨box, hbox, msg.raw, hraw, rfl⟩

/-- The text of a message that is missing is nobody else's. -/
theorem mapSelectErr_ne_missing (err : ImapError) (uid : Uid) :
    mapSelectErr mailbox err ≠ .notFound ("no message with uid " ++ toString uid) := by
  unfold mapSelectErr
  rcases err with ⟨_ | _ | _ | _ | _ | _ | _, display⟩
  case no =>
    intro h
    have hchars := congrArg String.toList (GatewayError.notFound.inj h)
    simp only [String.toList_append] at hchars
    exact absurd (List.cons.inj hchars).1 (by decide)
  all_goals exact fun h => nomatch h

theorem mapCommandErr_ne_notFound (err : ImapError) (m : String) :
    mapCommandErr err ≠ .notFound m := by
  unfold mapCommandErr
  rcases err with ⟨_ | _ | _ | _ | _ | _ | _, display⟩
  all_goals exact fun h => nomatch h

theorem getOn_missing (uid : Uid)
    (hplays : Plays (ExceptT.run (getOn parse session mailbox uid)) h
      (.error (.notFound ("no message with uid " ++ toString uid))))
    (htruthful : ∀ e ∈ h, Truthful views e.1 e.2) : ∃ seen ∈ views, seen.message uid = none := by
  rcases (plays_fallible_bind _ _ _).mp hplays with ⟨e, hselect, he⟩ | ⟨h₁, _, h', -, hrest, rfl⟩
  · obtain ⟨x, -, hx⟩ := (plays_attempt _ _ _).mp hselect
    cases x with
    | ok _ => cases hx
    | error err =>
      cases hx
      exact absurd (Except.error.inj he).symm (mapSelectErr_ne_missing err uid)
  · rcases (plays_fallible_bind _ _ _).mp hrest with
      ⟨e, hfetch, he⟩ | ⟨h₂, raws, h₃, hfetch, hhead, rfl⟩
    · unfold uidFetchRaw at hfetch
      rw [if_neg (by simp)] at hfetch
      rcases (plays_fallible_bind _ _ _).mp hfetch with ⟨e', hcall, he'⟩ | ⟨_, _, _, -, hpure, -⟩
      · obtain ⟨x, -, hx⟩ := (plays_attempt _ _ _).mp hcall
        cases x with
        | ok _ => cases hx
        | error err =>
          cases hx
          cases he'
          exact absurd (Except.error.inj he).symm (mapCommandErr_ne_notFound err _)
      · cases ((plays_run_pure _ _).mp hpure).2
    · obtain ⟨reply, rfl, rfl⟩ := plays_ok_uidFetchRaw [uid] (List.cons_ne_nil _ _) raws hfetch
      obtain ⟨box, hbox, hfetches⟩ := htruthful _ (List.mem_append_right _
        (List.mem_append_left _ (List.mem_singleton.mpr rfl)))
      have hmessages := hfetches.messages [uid] (readUidSet_uidSetText [uid] (List.cons_ne_nil _ _))
      refine ⟨box, hbox, ?_⟩
      rcases (plays_except_bind _ _ _).mp hhead with ⟨e, hmissing, -⟩ | ⟨msg, -, hpure⟩
      · by_contra hthere
        obtain ⟨raw, hraw⟩ := Option.ne_none_iff_exists'.mp hthere
        have hmem := (hmessages ⟨uid, raw⟩).mpr ⟨List.mem_singleton.mpr rfl, hraw⟩
        cases hreply : fetched reply with
        | nil =>
          rw [hreply] at hmem
          cases hmem
        | cons msg rest =>
          rw [hreply] at hmissing
          cases hmissing
      · cases ((plays_run_pure _ _).mp hpure).2

/-- A read is right when what it was told of the mailbox is truthful. -/
theorem operation_right (call : PoolCall) (r : PoolResult)
    (hplays : Plays (ExceptT.run (call.operation parse session)) h r)
    (htruthful : ∀ e ∈ h, Truthful views e.1 e.2) : call.action.Right parse views r := by
  unfold PoolCall.operation at hplays
  cases haction : call.action with
  | search query limit =>
    rw [haction] at hplays
    dsimp only at hplays
    rw [ExceptT.run_map] at hplays
    obtain ⟨x, hsearch, rfl⟩ := (plays_map _ _ _).mp hplays
    cases x with
    | error e => trivial
    | ok results => exact searchOn_right query limit results hsearch htruthful
  | get uid =>
    rw [haction] at hplays
    dsimp only at hplays
    rw [ExceptT.run_map] at hplays
    obtain ⟨x, hget, rfl⟩ := (plays_map _ _ _).mp hplays
    cases x with
    | ok message => exact getOn_right uid message hget htruthful
    | error e =>
      cases e with
      | notFound m =>
        rintro rfl
        exact getOn_missing uid hget htruthful
      | _ => trivial

end Reads

end Overfwd
