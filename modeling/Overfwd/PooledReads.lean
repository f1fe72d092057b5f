import Overfwd.Lib.Rules
import Overfwd.MailService
import Overfwd.PoolTenancy
import Overfwd.PoolWatch
import Overfwd.ReadErrors

/-! Pooled reads against a mail provider whose mailboxes change as they please and whose commands
may be cut short. A session that was used before has another call's mailbox selected; whatever the
interleaving, a call reads its own. -/
namespace Overfwd

open Text Outcome Dialogue Interleaving Custody

/-- The mailbox that a session has selected, as far as an exchange tells. Of a session that is
new to a call nothing is known, nor of one whose SEARCH held another command. -/
def ImapOp.selects (session : ImapSession) (known : Option String) :
    (q : ImapOp) → q.Answer → Option String
  | .select session' mailbox, .ok _ => if session' = session then some mailbox else known
  | .select session' _, .error _ => if session' = session then none else known
  | .uidSearch session' query, _ =>
    if session' = session ∧ ¬OneCommand query then none else known
  | .login _ _ _, _ => none
  | .take _ _ _, _ => none
  | .put _ _ _ _ _, _ => none
  | _, _ => known

/-- What a call knows of the session by its own history. -/
def selectedIn (session : ImapSession) (h : ImapHistory) : Option String :=
  after (fun known q x => q.selects session known x) none h

theorem selectedIn_record (session : ImapSession) (h : ImapHistory) (q : ImapOp) (x : q.Answer) :
    selectedIn session (record h q x) = q.selects session (selectedIn session h) x :=
  after_append _ _ h [⟨q, x⟩]

/-- A call searches and fetches in its mailbox only, with one command at a time. -/
def InMailbox (mailbox : String) (h : ImapHistory) : ImapOp → Prop
  | .uidSearch session query => selectedIn session h = some mailbox ∧ OneCommand query
  | .uidFetch session _ items => selectedIn session h = some mailbox ∧ items = FETCH_RAW_QUERY
  | _ => True

section Calls

variable (mailbox : String)

theorem inMailbox_of_noCommand (h : ImapHistory) (q : ImapOp) (hq : q.isCommand = false) :
    InMailbox mailbox h q := by
  cases q with
  | uidSearch session query => cases hq
  | uidFetch session set items => cases hq
  | _ => trivial

/-- What only peeks stays in the mailbox that is selected. -/
theorem inMailbox_peeks {α : Type} {p : ImapProg α} (session : ImapSession)
    (hP : AsksOnly (ImapOp.Peeks session OneCommand) p) (h : ImapHistory)
    (hselected : selectedIn session h = some mailbox) :
    Keeps record (rules (InMailbox mailbox)) p (fun _ _ => True) h := by
  apply keeps_mono _ _ (keeps_stable record (rules (InMailbox mailbox))
    (fun h => selectedIn session h = some mailbox) hP ?_ ?_ h hselected)
  · exact fun _ _ _ => trivial
  · intro h q hselected hq
    cases q with
    | uidSearch session' query =>
      obtain ⟨rfl, hone⟩ : session' = session ∧ OneCommand query := hq
      exact ⟨hselected, hone⟩
    | uidFetch session' set items =>
      obtain ⟨rfl, rfl⟩ : session' = session ∧ items = FETCH_RAW_QUERY := hq
      exact ⟨hselected, rfl⟩
    | _ => exact hq.elim
  · intro h q x hselected hq
    rw [selectedIn_record]
    cases q with
    | uidSearch session' query => exact (if_neg fun h => h.2 hq.2).trans hselected
    | uidFetch session' set items => exact hselected
    | _ => exact hq.elim

theorem inMailbox_select {α : Type} (session : ImapSession) (rest : ImapAction α)
    (hrest : AsksOnly (ImapOp.Peeks session OneCommand) (ExceptT.run rest)) (h : ImapHistory) :
    Keeps record (rules (InMailbox mailbox))
      (ExceptT.run (do
        select session mailbox
        rest)) (fun _ _ => True) h := by
  rw [keeps_fallible_bind]
  unfold select
  rw [keeps_attempt, keeps_call]
  refine ⟨trivial, fun x _ => ?_⟩
  cases x with
  | error e => trivial
  | ok _ =>
    apply inMailbox_peeks mailbox session hrest
    rw [selectedIn_record]
    exact if_pos rfl

/-- What the call searches for is one command. -/
def PoolCall.HasSafeKey (call : PoolCall) : Prop :=
  ∀ query limit, call.action = .search query limit → OneCommand query

theorem inMailbox_operation (parse : MailParser) (call : PoolCall) (hsafe : call.HasSafeKey)
    (session : ImapSession) (h : ImapHistory) :
    Keeps record (rules (InMailbox call.mailbox)) (ExceptT.run (call.operation parse session))
      (fun _ _ => True) h := by
  unfold PoolCall.operation
  cases haction : call.action with
  | search query limit =>
    dsimp only
    unfold searchOn
    rw [map_bind]
    apply inMailbox_select
    rw [map_eq_pure_bind]
    refine asksOnly_fallible_bind ?_ fun _ => asksOnly_pure _
    exact asksOnly_fallible_bind (uidSearch_peeks session query (hsafe query limit haction))
      fun _ => fetchSelected_peeks session parse _ _
  | get uid =>
    dsimp only
    unfold getOn
    rw [map_bind]
    apply inMailbox_select
    rw [map_eq_pure_bind]
    refine asksOnly_fallible_bind ?_ fun _ => asksOnly_pure _
    refine asksOnly_fallible_bind (uidFetchRaw_peeks session _) fun raws => ?_
    exact asksOnly_fallible_bind (asksOnly_except _) fun msg => asksOnly_pure _

variable (parse : MailParser) (call : PoolCall) (hsafe : call.HasSafeKey)

include hsafe

/-- On whatever session it runs and whatever becomes of the session, a call stays in its
mailbox. -/
theorem inMailbox_onSession (opening : ImapAction ImapSession)
    (hopening : AsksOnly (fun q => q.isCommand = false) opening.run)
    (after : ImapSession → PoolResult → ImapProg Unit)
    (hafter : ∀ session r, AsksOnly (fun q => q.isCommand = false) (after session r)) :
    Keeps record (rules (InMailbox call.mailbox)) (ExceptT.run (opening >>= fun session =>
      settle (call.operation parse session) (after session))) (fun _ _ => True) [] := by
  rw [keeps_fallible_bind]
  apply keeps_mono _ _ (keeps_played _ hopening (inMailbox_of_noCommand call.mailbox) [])
  intro r h _
  cases r with
  | error e => trivial
  | ok session =>
    dsimp only
    unfold settle
    rw [keeps_fallible_bind, keeps_lift]
    apply keeps_mono _ _ (inMailbox_operation parse call hsafe session h)
    intro result h' _
    dsimp only
    have hrest : AsksOnly (fun q => q.isCommand = false) (ExceptT.run (do
        liftM (after session result)
        result : ImapAction (SearchResults ⊕ FullMessage))) :=
      asksOnly_fallible_bind (asksOnly_lift (hafter session result)) fun _ => asksOnly_except result
    apply keeps_mono _ _ (keeps_played _ hrest (inMailbox_of_noCommand call.mailbox) h')
    exact fun _ _ _ => trivial

theorem inMailbox_body (sha256 : Sha256) (config : PoolConfig) :
    Keeps record (rules (InMailbox call.mailbox)) (call.body sha256 config parse)
      (fun _ _ => True) [] := by
  rw [body_eq]
  apply inMailbox_onSession parse call hsafe (acquire sha256 config call.cred call.settings)
  · exact asksOnly_mono (acquire_asks sha256 config call.cred call.settings) fun q hq => hq.1
  · exact release_asks sha256 config call.cred

end Calls

/-- The pool, what the provider holds now and held before, and the mailboxes that are selected
at the provider's end of the sessions. -/
structure MailState where
  pool : PoolState
  world : Mailboxes
  earlier : List Mailboxes
  selected : ImapSession → Option String

namespace MailState

def start (clock : ℕ) (world : Mailboxes) : MailState :=
  { pool := .start clock, world := world, earlier := [], selected := fun _ => none }

/-- The mailbox that is selected on a session, in the account that the session was logged
into. -/
def opened? (s : MailState) (session : ImapSession) : Option Mailbox :=
  (s.selected session).bind (s.world session.client.stream.tcp.target session.username)

/-- What may have been seen of the mailbox of a call. -/
def views (s : MailState) (complete : Set HostPort) (call : PoolCall) : Set Mailbox :=
  call.cred.views complete call.mailbox {world | world ∈ s.world :: s.earlier}

/-- What is seen on a session of the mailbox that is selected there. -/
def Shows (s : MailState) (complete : Set HostPort) (session : ImapSession) (seen : Mailbox) :
    Prop :=
  seen.SeenOf (session.client.stream.tcp.target ∈ complete) (s.opened? session)

/-- What the provider may answer. Any command may fail, and after a SELECT that does anything
may be selected. A SEARCH that holds another command may be answered with anything. -/
def Serves (s : MailState) (complete : Set HostPort) :
    (q : ImapOp) → q.Answer → (ImapSession → Option String) → Prop
  | .select session mailbox, .ok _, selected =>
    selected = Function.update s.selected session (some mailbox)
  | .select session _, .error _, selected =>
    ∃ mailbox, selected = Function.update s.selected session mailbox
  | .uidSearch session query, x, selected => OneCommand query → selected = s.selected ∧
    ∀ found, x = .ok found →
      ∃ seen, s.Shows complete session seen ∧ found.toFinset = seen.found query
  | .uidFetch session set items, x, selected => selected = s.selected ∧
    ∀ reply, x = .ok reply → items = FETCH_RAW_QUERY →
      ∃ seen, s.Shows complete session seen ∧ seen.Fetches set reply
  | _, _, selected => selected = s.selected

end MailState

/-- Pooled calls over a provider. Between the questions its mailboxes may change. -/
@[reducible] def mailSystem (sha256 : Sha256) (config : PoolConfig) (parse : MailParser)
    (complete : Set HostPort) :
    System PoolCall CallRecord ImapOp ImapOp.Answer PoolResult MailState where
  body call := call.body sha256 config parse
  act s q x s' := s.pool.Step q x s'.pool ∧ s.Serves complete q x s'.selected ∧
    s'.world = s.world ∧ s'.earlier = s.earlier
  drift s s' := (poolSystem sha256 config parse).drift s.pool s'.pool ∧ s'.selected = s.selected ∧
    (s'.world :: s'.earlier = s.world :: s.earlier ∨ s'.earlier = s.world :: s.earlier)
  start _ := (0, [])
  next g q x := (sessionLedger.next g.1 q x, record g.2 q x)

theorem mail_details (sha256 : Sha256) (config : PoolConfig) (parse : MailParser)
    (complete : Set HostPort) :
    Details (mailSystem sha256 config parse complete) (poolSystem sha256 config parse)
      MailState.pool Prod.fst where
  body := fun _ => rfl
  act := fun _ _ _ _ hact => hact.1
  drift := fun _ _ hdrift => hdrift.1
  start := fun _ => rfl
  next := fun _ _ _ => rfl

/-- What a call knows of its sessions is so, and so is what it was told of its mailbox. -/
structure MailInvariant (complete : Set HostPort) (s : MailState)
    (rs : List (PoolCall × CallRecord)) : Prop where
  agree : ∀ r ∈ rs, ∀ session ∈ r.2.1, ∀ mailbox, selectedIn session r.2.2 = some mailbox →
    s.selected session = some mailbox
  truthful : ∀ r ∈ rs, ∀ e ∈ r.2.2, Truthful (s.views complete r.1) e.1 e.2

/-- A step of one call, in a state where both invariants hold. -/
structure MailStep (sha256 : Sha256) (config : PoolConfig) (complete : Set HostPort)
    (calls : Set PoolCall) (s : MailState) (before after : List (PoolCall × CallRecord))
    (call : PoolCall) (g : CallRecord) (q : ImapOp) (x : q.Answer) (s' : MailState) : Prop where
  pool : PoolInvariant config calls (KeyOfOrigin sha256 calls) s.pool
    (plainRecords Prod.fst (before ++ (call, g) :: after))
  mail : MailInvariant complete s (before ++ (call, g) :: after)
  allowed : (poolContract sha256 config call.cred (OpenedWith call.cred)).allowed g.1 q
  inMailbox : InMailbox call.mailbox g.2 q
  serves : s.Serves complete q x s'.selected
  world : s'.world = s.world
  earlier : s'.earlier = s.earlier

namespace MailStep

variable {sha256 : Sha256} {config : PoolConfig} {complete : Set HostPort} {calls : Set PoolCall}
  {s s' : MailState} {before after : List (PoolCall × CallRecord)} {call : PoolCall} {g : CallRecord}
  {q : ImapOp} {x : q.Answer} (h : MailStep sha256 config complete calls s before after call g q x s')

include h

theorem views (call' : PoolCall) : s'.views complete call' = s.views complete call' := by
  unfold MailState.views
  rw [h.world, h.earlier]

/-- A session that the call holds is with no other call. -/
theorem alone (session : ImapSession) (hmem : session ∈ g.1) :
    ∀ r ∈ before ++ after, session ∉ r.2.1 := by
  have hbalanced : sessionLedger.Balanced s.pool
      (plainRecords Prod.fst before ++ (call, g.1) :: plainRecords Prod.fst after) := by
    simpa [plainRecords] using h.pool.balanced
  obtain ⟨-, hothers⟩ := held_alone sessionLedger s.pool _ _ call g.1 hbalanced h.pool.nodup
    session hmem
  intro r hr
  apply hothers (r.1, r.2.1)
  have hplain : (r.1, r.2.1) ∈ plainRecords Prod.fst (before ++ after) :=
    List.mem_map.mpr ⟨r, hr, rfl⟩
  simpa [plainRecords] using hplain

/-- Nothing but a SELECT on a session changes what is selected on it. -/
theorem selected_eq (session : ImapSession) (hq : ∀ mailbox, q ≠ .select session mailbox) :
    s'.selected session = s.selected session := by
  have hserves := h.serves
  have hmailbox := h.inMailbox
  cases q with
  | select session' mailbox =>
    have hne : session ≠ session' := by
      rintro rfl
      exact hq mailbox rfl
    cases x with
    | ok _ =>
      rw [show s'.selected = _ from hserves]
      exact Function.update_of_ne hne _ _
    | error e =>
      obtain ⟨mailbox', hselected⟩ := hserves
      rw [hselected]
      exact Function.update_of_ne hne _ _
  | uidSearch session' query => rw [(hserves hmailbox.2).1]
  | uidFetch session' set items => rw [hserves.1]
  | _ => rw [show s'.selected = _ from hserves]

/-- A session that is known to be in a mailbox has just been put there, or it was held and known
to be there before. -/
theorem known_cases (session : ImapSession) (mailbox : String)
    (hmem : session ∈ sessionLedger.next g.1 q x)
    (hknown : selectedIn session (record g.2 q x) = some mailbox) :
    s'.selected session = some mailbox ∨
      (∀ mailbox', q ≠ .select session mailbox') ∧ session ∈ g.1 ∧
        selectedIn session g.2 = some mailbox := by
  rw [selectedIn_record] at hknown
  have hheld (hgets : q.gets x = 0) : session ∈ g.1 := by
    unfold Ledger.next at hmem
    rw [show sessionLedger.gets q x = 0 from hgets, add_zero] at hmem
    exact Multiset.mem_of_le (Multiset.sub_le_self _ _) hmem
  -- A session that is taken, put back or logged in is new to the call: nothing is known of it.
  cases q with
  | login client username password => cases hknown
  | take key now ttl => cases hknown
  | put key session' now ttl maxIdle => cases hknown
  | select session' mailbox' =>
    by_cases hsame : session' = session
    · subst hsame
      cases x with
      | ok _ =>
        cases (if_pos rfl).symm.trans hknown
        left
        rw [show s'.selected = _ from h.serves]
        exact Function.update_self _ _ _
      | error e => cases (if_pos rfl).symm.trans hknown
    · right
      refine ⟨fun mailbox'' hq => hsame (ImapOp.select.inj hq).1, hheld rfl, ?_⟩
      cases x with
      | ok _ => exact (if_neg hsame).symm.trans hknown
      | error e => exact (if_neg hsame).symm.trans hknown
  | uidSearch session' query =>
    have hsame := (if_neg fun hother => hother.2 h.inMailbox.2).symm.trans hknown
    exact .inr ⟨fun mailbox' hq => (nomatch hq), hheld rfl, hsame⟩
  | _ => exact .inr ⟨fun mailbox' hq => (nomatch hq), hheld rfl, hknown⟩

theorem agree (r : PoolCall × CallRecord)
    (hr : r ∈ before ++ (call, (sessionLedger.next g.1 q x, record g.2 q x)) :: after)
    (session : ImapSession) (hmem : session ∈ r.2.1) (mailbox : String)
    (hknown : selectedIn session r.2.2 = some mailbox) : s'.selected session = some mailbox := by
  rcases place_or_other _ hr with rfl | hother
  · rcases h.known_cases session mailbox hmem hknown with hselected | ⟨hq, hheld, hbefore⟩
    · exact hselected
    · rw [h.selected_eq session hq]
      exact h.mail.agree (call, g) (by simp) session hheld mailbox hbefore
  · have hq (mailbox' : String) : q ≠ .select session mailbox' := by
      rintro rfl
      exact h.alone session (h.allowed.1 session rfl) r hother hmem
    rw [h.selected_eq session hq]
    exact h.mail.agree r (mem_of_other _ hother) session hmem mailbox hknown

/-- What a command of the call is shown is of the call's own mailbox. -/
theorem own_view (session : ImapSession) (hserving : q.serving? = some session)
    (hselected : selectedIn session g.2 = some call.mailbox) (seen : Mailbox)
    (hshows : s.Shows complete session seen) : seen ∈ s.views complete call := by
  have hheld := h.allowed.1 session (session_of_serving q session hserving)
  -- The session was logged into the account of the call, for its key is the call's.
  obtain ⟨htarget, husername, -⟩ := h.allowed.2.1 session hserving
  unfold MailState.Shows MailState.opened? at hshows
  rw [h.mail.agree (call, g) (by simp) session hheld call.mailbox hselected, htarget,
    husername] at hshows
  exact ⟨s.world, List.mem_cons_self, hshows⟩

/-- What the provider answers a call is truthful of the call's mailbox. -/
theorem answered : Truthful (s.views complete call) q x := by
  have hserves := h.serves
  have hmailbox := h.inMailbox
  cases q with
  | uidSearch session query =>
    cases x with
    | error e => trivial
    | ok found =>
      obtain ⟨seen, hshows, hfound⟩ := (hserves hmailbox.2).2 found rfl
      exact ⟨seen, h.own_view session rfl hmailbox.1 seen hshows, hfound⟩
  | uidFetch session set items =>
    cases x with
    | error e => trivial
    | ok reply =>
      obtain ⟨seen, hshows, hfetches⟩ := hserves.2 reply rfl hmailbox.2
      exact ⟨seen, h.own_view session rfl hmailbox.1 seen hshows, hfetches⟩
  | _ => trivial

theorem truthful (r : PoolCall × CallRecord)
    (hr : r ∈ before ++ (call, (sessionLedger.next g.1 q x, record g.2 q x)) :: after) :
    ∀ e ∈ r.2.2, Truthful (s'.views complete r.1) e.1 e.2 := by
  rw [h.views]
  rcases place_or_other _ hr with rfl | hother
  · intro e he
    rcases List.mem_append.mp he with he | he
    · exact h.mail.truthful (call, g) (by simp) e he
    · obtain rfl := List.mem_singleton.mp he
      exact h.answered
  · exact h.mail.truthful r (mem_of_other _ hother)

end MailStep

section Runs

variable (sha256 : Sha256) (config : PoolConfig) (parse : MailParser) (complete : Set HostPort)

/-- What was seen of a mailbox is not forgotten. -/
theorem views_mono (s s' : MailState)
    (hdrift : (mailSystem sha256 config parse complete).drift s s') (call : PoolCall) :
    s.views complete call ⊆ s'.views complete call := by
  rintro seen ⟨world, hworld, hseen⟩
  refine ⟨world, ?_, hseen⟩
  change world ∈ s'.world :: s'.earlier
  rcases hdrift.2.2 with hsame | hchanged
  · rw [hsame]
    exact hworld
  · rw [hchanged]
    exact List.mem_cons_of_mem _ hworld

/-- Without a session nothing is said of the mailbox. -/
theorem right_of_unopened (action : ReadAction) (views : Set Mailbox) (e : GatewayError)
    (he : e.OneOf PROVIDER_CODES) : action.Right parse views (.error e) := by
  cases action with
  | search query limit => trivial
  | get uid =>
    cases e with
    | notFound m => exact absurd he (by simp [GatewayError.OneOf, GatewayError.code, PROVIDER_CODES])
    | _ => trivial

theorem mail_overlay (calls : Set PoolCall) (hsafe : ∀ call ∈ calls, call.HasSafeKey) (clock₀ : ℕ)
    (world₀ : Mailboxes) :
    Overlay (mailSystem sha256 config parse complete) calls (.start clock₀ world₀) MailState.pool
      Prod.fst (fun call => poolContract sha256 config call.cred (OpenedWith call.cred))
      (PoolInvariant config calls (KeyOfOrigin sha256 calls))
      (fun call => (rules (InMailbox call.mailbox)).along Prod.snd)
      (fun call r g => Plays (call.body sha256 config parse) g.2 r) (MailInvariant complete) where
  init := ⟨by simp, by simp⟩
  spawn := by
    intro s rs call _ hJ
    refine ⟨?_, ?_⟩
    · apply List.forall_mem_append.mpr ⟨hJ.agree, List.forall_mem_singleton.mpr ?_⟩
      exact fun session hmem => absurd hmem (Multiset.notMem_zero session)
    · apply List.forall_mem_append.mpr ⟨hJ.truthful, List.forall_mem_singleton.mpr ?_⟩
      intro e he
      cases he
  body := by
    intro call hcall
    have hbody : Keeps record (rules (InMailbox call.mailbox)) (call.body sha256 config parse)
        (fun r h => Plays (call.body sha256 config parse) h r)
        ((mailSystem sha256 config parse complete).start call).2 := by
      apply keeps_mono _ _ (keeps_recorded _ (inMailbox_body parse call (hsafe call hcall)
        sha256 config))
      rintro r h ⟨-, h₁, rfl, hplays⟩
      exact hplays
    exact keeps_along record _ Prod.snd (fun _ _ _ => rfl) _ hbody
  expects := fun _ _ _ _ _ _ _ _ _ _ _ _ _ => trivial
  act := by
    intro s before after call g q x s' hI hJ hallowed hmailbox hact
    have hstep : MailStep sha256 config complete calls s before after call g q x s' :=
      ⟨hI, hJ, hallowed, hmailbox, hact.2.1, hact.2.2.1, hact.2.2.2⟩
    exact ⟨hstep.agree, hstep.truthful⟩
  drift := by
    intro s rs s' hJ hdrift
    refine ⟨?_, fun r hr e he => ?_⟩
    · rw [hdrift.2.1]
      exact hJ.agree
    · exact truthful_mono (views_mono sha256 config parse complete s s' hdrift r.1) e.1 e.2
        (hJ.truthful r hr e he)

/-- Whatever the interleaving, whoever used its session before, however the mailboxes change
meanwhile and whichever commands are cut short: a pooled read with a safe key gives what was seen
of the mailbox of its own account, and all of it where its server completes its commands. -/
theorem pooled_reads_are_right (clock₀ : ℕ) (world₀ : Mailboxes)
    (c : Config PoolCall CallRecord ImapOp ImapOp.Answer PoolResult MailState)
    (hsha : CollisionFree sha256 c.labels)
    (hreach : Reachable (mailSystem sha256 config parse complete) {call | call.HasSafeKey}
      (.start clock₀ world₀) c)
    (call : PoolCall) (g : CallRecord) (r : PoolResult) (hthread : ⟨call, g, .ret r⟩ ∈ c.threads) :
    call.action.Right parse (c.shared.views complete call) r := by
  have hsafe : ∀ call ∈ c.labels, call.HasSafeKey := labels_subset _ _ _ c hreach
  have hmade := reachable_labels _ _ c.labels _ c hreach fun _ h => h
  have hpool := pool_invariant sha256 config parse c.labels _ _ (tenancy sha256 c.labels hsha) clock₀
  have hinv := overlay_invariant (mail_details sha256 config parse complete) c.labels
    (.start clock₀ world₀) _ _ _ hpool _ _ _
    (mail_overlay sha256 config parse complete c.labels hsafe clock₀ world₀)
  obtain ⟨-, hmail⟩ := (reachable_keeps _ _ _ _ _ _ hinv c hmade).1
  obtain ⟨-, hplays⟩ := reachable_post _ _ _ _ _ _ hinv c hmade call g r hthread
  have htruthful := hmail.truthful (call, g) (List.mem_map.mpr ⟨_, hthread, rfl⟩)
  rw [body_eq] at hplays
  rcases plays_onSession _ _ (release sha256 config call.cred) g.2 r hplays with
    ⟨e, hopening, rfl⟩ | ⟨session, h₁, h₂, h₃, -, hoperation, -, hhistory⟩
  · exact right_of_unopened parse call.action _ e (raises_acquire call.cred call.settings sha256
      config _ _ hopening e rfl)
  · rw [hhistory] at htruthful
    exact operation_right call r hoperation fun e he =>
      htruthful e (List.mem_append_right _ (List.mem_append_left _ he))

end Runs

/-- What a mailbox answers to a SEARCH, and to a FETCH of a set. -/
def Mailbox.search (box : Mailbox) (query : String) : UidSet :=
  ⟨(box.found query).sort, Finset.sort_nodup _ _⟩

def Mailbox.fetch (box : Mailbox) (set : String) : List Fetch :=
  ((readUidSet set).getD []).dedup.filterMap fun uid =>
    (box.message uid).map fun raw => ⟨some uid, some raw⟩

/-- A provider that does what it is asked wherever it can. -/
def MailState.respond (s : MailState) (q : ImapOp) : q.Answer × MailState :=
  let next := { s with pool := (s.pool.respond q).2 }
  match q with
  | .select session mailbox =>
    (.ok (), { next with selected := Function.update s.selected session (some mailbox) })
  | .uidSearch session query =>
    match s.opened? session with
    | some box => (.ok (box.search query), next)
    | none => (.error ⟨.no "no mailbox selected", ""⟩, next)
  | .uidFetch session set _ =>
    match s.opened? session with
    | some box => (.ok (box.fetch set), next)
    | none => (.error ⟨.no "no mailbox selected", ""⟩, next)
  | q => ((s.pool.respond q).1, next)

theorem search_toFinset (box : Mailbox) (query : String) :
    (box.search query).toFinset = box.found query := Finset.sort_toFinset _ _

theorem fetches_fetch (box : Mailbox) (set : String) : box.Fetches set (box.fetch set) := by
  have hfetched : fetched (box.fetch set) = ((readUidSet set).getD []).dedup.filterMap fun uid =>
      (box.message uid).map (RawMessage.mk uid) := by
    unfold fetched Mailbox.fetch
    rw [List.filterMap_filterMap]
    apply List.filterMap_congr
    intro uid _
    cases box.message uid with
    | none => rfl
    | some raw => rfl
  constructor
  · rw [hfetched]
    refine List.pairwise_map.mpr (List.Pairwise.filterMap _ ?_ (List.nodup_dedup _))
    intro uid uid' hne m hm m' hm'
    obtain ⟨raw, -, rfl⟩ := Option.map_eq_some_iff.mp hm
    obtain ⟨raw', -, rfl⟩ := Option.map_eq_some_iff.mp hm'
    exact hne
  · intro uids huids m
    rw [hfetched, huids, Option.getD_some, List.mem_filterMap]
    constructor
    · rintro ⟨uid, huid, hm⟩
      obtain ⟨raw, hraw, rfl⟩ := Option.map_eq_some_iff.mp hm
      exact ⟨List.mem_dedup.mp huid, hraw⟩
    · rintro ⟨huid, hraw⟩
      exact ⟨m.uid, List.mem_dedup.mpr huid, by rw [hraw]; rfl⟩

theorem mail_respond_step (sha256 : Sha256) (config : PoolConfig) (parse : MailParser)
    (complete : Set HostPort) (s : MailState) (q : ImapOp) :
    (mailSystem sha256 config parse complete).act s q (s.respond q).1 (s.respond q).2 := by
  have hstep := respond_step s.pool q
  have hshows (session : ImapSession) (box : Mailbox) (hopened : s.opened? session = some box) :
      s.Shows complete session box := by
    unfold MailState.Shows
    rw [hopened]
    exact seenOf_self box _
  cases q with
  | select session mailbox => exact ⟨rfl, rfl, rfl, rfl⟩
  | uidSearch session query =>
    unfold MailState.respond
    dsimp only
    cases hopened : s.opened? session with
    | none => exact ⟨rfl, fun _ => ⟨rfl, fun _ h => (nomatch h)⟩, rfl, rfl⟩
    | some box =>
      refine ⟨rfl, fun _ => ⟨rfl, fun found hfound => ?_⟩, rfl, rfl⟩
      cases hfound
      exact ⟨box, hshows session box hopened, search_toFinset box query⟩
  | uidFetch session set items =>
    unfold MailState.respond
    dsimp only
    cases hopened : s.opened? session with
    | none => exact ⟨rfl, ⟨rfl, fun _ h => (nomatch h)⟩, rfl, rfl⟩
    | some box =>
      refine ⟨rfl, ⟨rfl, fun reply hreply _ => ?_⟩, rfl, rfl⟩
      cases hreply
      exact ⟨box, hshows session box hopened, fetches_fetch box set⟩
  | _ => exact ⟨hstep, rfl, rfl, rfl⟩

/-- Each mailbox has one message, its name. -/
def namedMailboxes : Mailboxes := fun _ _ name =>
  some { message := fun uid => if uid = 7 then some (bytes name) else none, found := fun _ => {7} }

/-- Alice's sample call in another mailbox. -/
def aliceRead (mailbox : String) : PoolCall := { aliceCall "s3cr3t" with mailbox := mailbox }

theorem aliceRead_safe (mailbox : String) : (aliceRead mailbox).HasSafeKey := by
  rintro query limit ⟨⟩
  exact one_command_of_single_line _ (by decide)

/-- The second call is served on the session of the first, and reads its own mailbox. -/
theorem warm_session_reads_archive :
    ∃ (c : Config PoolCall CallRecord ImapOp ImapOp.Answer PoolResult MailState) (g : CallRecord)
      (r : PoolResult), Reachable (mailSystem sampleSha256 .default (fun _ => none) Set.univ)
          {call | call.HasSafeKey} (.start 0 namedMailboxes) c ∧
        ⟨aliceRead "Archive", g, .ret r⟩ ∈ c.threads ∧
        (aliceRead "Archive").action.Right (fun _ => none)
          (c.shared.views Set.univ (aliceRead "Archive")) r := by
  obtain ⟨g₁, hfirst⟩ := reachable_call MailState.respond
    (mailSystem sampleSha256 .default (fun _ => none) Set.univ) {call | call.HasSafeKey}
    (.start 0 namedMailboxes) (mail_respond_step _ _ _ _) [] (aliceRead DEFAULT_MAILBOX)
    (aliceRead_safe _) _ Reachable.init
  obtain ⟨g₂, hsecond⟩ := reachable_call MailState.respond _ {call | PoolCall.HasSafeKey call} _
    (mail_respond_step _ _ _ _) _ (aliceRead "Archive") (aliceRead_safe "Archive") _ hfirst
  refine ⟨_, g₂, _, hsecond, List.mem_append_right _ (List.mem_singleton.mpr rfl), ?_⟩
  refine pooled_reads_are_right sampleSha256 .default _ Set.univ 0 namedMailboxes _ ?_ hsecond _ g₂ _
    (List.mem_append_right _ (List.mem_singleton.mpr rfl))
  rintro _ ⟨t, ht, rfl⟩ _ ⟨t', ht', rfl⟩ _
  simp only [List.mem_append, List.mem_singleton, List.not_mem_nil, false_or] at ht ht'
  rcases ht with rfl | rfl
  · rcases ht' with rfl | rfl
    · rfl
    · rfl
  · rcases ht' with rfl | rfl
    · rfl
    · rfl

end Overfwd
