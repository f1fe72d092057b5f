import Overfwd.AutoconfigCache
import Overfwd.Causes
import Overfwd.CredentialUse
import Overfwd.Lib.Traces

namespace Overfwd

open Text Outcome Dialogue Interleaving Serde

/-- The autoconfiguration that the headers may call for. -/
def HeaderMap.resolveCall? (headers : HeaderMap) : Option ResolveCall :=
  match InlineHeaders.parse headers with
  | .ok inline => inline.autoconfigDomain.map fun domain => ⟨domain, inline.autoconfigEmail⟩
  | .error _ => none

def resolveCalls (incomings : Set Incoming) : Set ResolveCall :=
  {call | ∃ incoming ∈ incomings, incoming.headers.resolveCall? = some call}

/-- The resolver answers out of its state. Everybody else answers as they like. -/
def ResolverState.Serves {Address : Type} (s : ResolverState) :
    (q : NetOp Address) → q.Answer → ResolverState → Prop
  | .credential (.resolver q), x, s' => x = (s.respond q).1 ∧ s' = (s.respond q).2
  | _, _, s' => s' = s

section Requests

variable {Address : Type} (crates : Crates Address) (env : Env) (state : AppState)

/-- Any requests at any times, on one application. -/
@[reducible] def appSystem : System Incoming (NetHistory Address) (NetOp Address) NetOp.Answer
    (Option GatewayReply) ResolverState where
  body := serve crates env state
  act := ResolverState.Serves
  drift := (resolveSystem crates.xml state.autoconfig.settings).drift
  start _ := []
  next := record

variable (net : NetworkBackend) (calls : Set ResolveCall)

/-- The headers' credential: its targets are theirs where they name any, and elsewhere what a
fresh autoconfiguration of their domain finds, for the email of one of the calls for it. -/
def MailboxCredential.FreshFor (cred : MailboxCredential) (headers : HeaderMap) : Prop :=
  ∃ inline, InlineHeaders.parse headers = .ok inline ∧ cred.username = inline.username ∧
    cred.password = inline.password ∧ ∃ found : MailServers,
      (¬inline.hasBoth → ∃ domain, inline.autoconfigDomain = some domain ∧
        AnsweredFresh crates.xml state.autoconfig.settings net calls
          ⟨domain, inline.autoconfigEmail⟩ (.ok found)) ∧
      inline.imap.or found.imap = some cred.imap ∧ inline.smtp.or found.smtp = some cred.smtp

/-- Where all calls for the domain have the same email, there might be no others. -/
theorem freshFor_alone (cred : MailboxCredential) (headers : HeaderMap)
    (hagree : ∀ own, headers.resolveCall? = some own → ∀ call ∈ calls,
      normaliseDomain call.domain = normaliseDomain own.domain →
        emailQuery call.email = emailQuery own.email)
    (hfresh : cred.FreshFor crates state net calls headers) :
    cred.FreshFor crates state net {own | headers.resolveCall? = some own} headers := by
  obtain ⟨inline, hparse, husername, hpassword, found, hfound, himap, hsmtp⟩ := hfresh
  refine ⟨inline, hparse, husername, hpassword, found, fun hboth => ?_, himap, hsmtp⟩
  obtain ⟨domain, hdomain, call, hcall, hsame, hanswer⟩ := hfound hboth
  have hown : headers.resolveCall? = some ⟨domain, inline.autoconfigEmail⟩ := by
    unfold HeaderMap.resolveCall?
    rw [hparse]
    exact congrArg (Option.map _) hdomain
  refine ⟨domain, hdomain, ⟨domain, inline.autoconfigEmail⟩, hown, rfl, ?_⟩
  rw [hanswer]
  exact freshResult_congr crates.xml _ net ⟨domain, inline.autoconfigEmail⟩ call.email
    (hagree _ hown call hcall hsame)

/-- What a request may ask, and what it expects, among others that make these calls. -/
def appContract (incoming : Incoming) :
    Contract (NetOp Address) NetOp.Answer (NetHistory Address) where
  allowed H q := match q with
    | .credential (.resolver q) => ∃ call, incoming.headers.resolveCall? = some call ∧
        (resolveContract crates.xml net calls call).allowed () q
    | .credential (.lookup _) => True
    | q => ∃ cred earlier since, H = earlier ++ since ∧
        MailboxCredential.FreshFor crates state net calls cred incoming.headers ∧
        q.Delivers cred (imapSettings env).tlsInsecure since
  expects _ q x := match q with
    | .credential (.resolver q) => ∀ call, incoming.headers.resolveCall? = some call →
        (resolveContract crates.xml net calls call).expects () q x
    | _ => True

section Credential

/-- Nobody is there. -/
def CredentialOp.noAnswer : (q : CredentialOp) → q.Answer :=
  FixedNetwork.answer ⟨fun _ _ => .error (.autoconfigFailed ""), fun _ => .error ""⟩

/-- The calls of `into_credential`, answered freshly. -/
def credentialContract (inline : InlineHeaders) :
    Contract CredentialOp CredentialOp.Answer CredentialHistory where
  allowed _ q := match q with
    | .resolve domain email => inline.autoconfigDomain = some domain ∧ email = inline.autoconfigEmail
    | .lookup _ => True
  expects _ q x := match q with
    | .resolve domain email =>
      AnsweredFresh crates.xml state.autoconfig.settings net calls ⟨domain, email⟩ x
    | .lookup _ => True

theorem intoCredential_fresh (inline : InlineHeaders) (headers : HeaderMap)
    (hparse : InlineHeaders.parse headers = .ok inline) :
    Keeps record (credentialContract crates state net calls inline)
      (inline.intoCredential state.autoconfig.enabled state.endpoints.enabled).run
      (fun r _ => ∀ cred, r = .ok cred → cred.FreshFor crates state net calls headers) [] := by
  apply keeps_of_plays CredentialOp.noAnswer
  · rintro h _ hplays hexpected cred rfl
    obtain ⟨asked, found, _, _, imapLookups, smtpLookups, hder⟩ :=
      inline.intoCredential_derivation _ _ h cred hplays
    refine ⟨inline, hparse, hder.username, hder.password, found, fun hboth => ?_, hder.imap,
      hder.smtp⟩
    obtain ⟨-, domain, hdomain, hasked⟩ := hder.autoconfigured.resolved hboth
    rw [hder.history_eq, hasked] at hexpected
    exact ⟨domain, hdomain, hexpected.1⟩
  · intro h e h' a hplays _
    have hcause := asksOnly_plays (intoCredential_cause inline _ _) hplays e (by simp)
    obtain ⟨q, x⟩ := e
    cases q with
    | resolve domain email => exact hcause.2.2
    | lookup host => trivial

variable (incoming : Incoming)

theorem answerCredential_fresh (inline : InlineHeaders)
    (hparse : InlineHeaders.parse incoming.headers = .ok inline)
    (hcalls : ∀ call, incoming.headers.resolveCall? = some call → call ∈ calls) (q : CredentialOp)
    (h : CredentialHistory) (H : NetHistory Address)
    (hallowed : (credentialContract crates state net calls inline).allowed h q) :
    Keeps record (appContract crates env state net calls incoming)
      ((answerCredential crates.xml state.autoconfig.settings q).handle fun q =>
        call (NetOp.credential q))
      (fun x _ => (credentialContract crates state net calls inline).expects h q x) H := by
  cases q with
  | lookup host =>
    unfold answerCredential
    rw [handle_call, keeps_call]
    exact ⟨trivial, fun _ _ => trivial⟩
  | resolve domain email =>
    obtain ⟨hdomain, rfl⟩ := hallowed
    have hown : incoming.headers.resolveCall? = some ⟨domain, inline.autoconfigEmail⟩ := by
      unfold HeaderMap.resolveCall?
      rw [hparse]
      exact congrArg (Option.map _) hdomain
    unfold answerCredential
    rw [handle_handle]
    have hresolve := resolve_keeps crates.xml state.autoconfig.settings net calls
      ⟨domain, inline.autoconfigEmail⟩ (hcalls _ hown)
    refine keeps_mono _ _ (keeps_handle (fun _ _ _ => ()) record _ _ _ (fun _ _ => True) ?_ hresolve
      trivial) ?_
    · intro _ H' q _ hq
      rw [handle_call, keeps_call]
      exact ⟨⟨_, hown, hq⟩, fun x hx => ⟨hx _ hown, trivial⟩⟩
    · rintro r _ ⟨_, hfresh, -⟩
      exact hfresh

theorem netCredential_fresh
    (hcalls : ∀ call, incoming.headers.resolveCall? = some call → call ∈ calls)
    (H : NetHistory Address) :
    Keeps record (appContract crates env state net calls incoming)
      (netCredential crates state incoming.headers)
      (fun r _ => ∀ cred, r = .ok cred → cred.FreshFor crates state net calls incoming.headers)
      H := by
  unfold netCredential requestCredential
  cases hparse : InlineHeaders.parse incoming.headers with
  | error e =>
    refine (keeps_pure record _ (Except.error e) _ H).mpr fun cred hcred => ?_
    cases hcred
  | ok inline =>
    change Keeps record _ (((inline.intoCredential state.autoconfig.enabled
      state.endpoints.enabled).run.handle (answerCredential crates.xml
        state.autoconfig.settings)).handle fun q => call (NetOp.credential q)) _ H
    rw [handle_handle]
    refine keeps_mono _ _ (keeps_handle record record _ _ _ (fun _ _ => True) ?_
      (intoCredential_fresh crates state net calls inline incoming.headers hparse) trivial) ?_
    · intro h H' q _ hq
      apply keeps_mono _ _ (answerCredential_fresh crates env state net calls incoming inline hparse
        hcalls q h H' hq)
      exact fun x _ hx => ⟨hx, trivial⟩
    · rintro r _ ⟨_, hfresh, -⟩
      exact hfresh

end Credential

/-- A request keeps to its contract: its histories do. -/
theorem serve_fresh (incoming : Incoming)
    (hcalls : ∀ call, incoming.headers.resolveCall? = some call → call ∈ calls) :
    Keeps record (appContract crates env state net calls incoming)
      (serve crates env state incoming) (fun _ _ => True) [] := by
  apply keeps_of_plays plainAnswer
  · exact fun _ _ _ _ => trivial
  · intro H e H' reply hplays hexpected
    rw [after_record, List.nil_append]
    have hbegins := begins_of_plays hplays
    have hcredential := netCredential_fresh crates env state net calls incoming hcalls
    by_cases hq : ∃ q, e.1 = .credential q
    · obtain ⟨q, hq⟩ := hq
      obtain ⟨r, earlier, front, back, rfl, hresolving⟩ :=
        begins_resolving crates env state incoming _ hbegins H H' e rfl q hq
      obtain ⟨-, hfront⟩ := (expected_append _ _ _ earlier front).mp hexpected
      have hallowed := keeps_allows (hcredential _) hresolving hfront
      rw [after_record, after_record, List.nil_append] at hallowed
      exact hallowed
    · obtain ⟨cred, action, x, earlier, resolved, since, back, rfl, hresolved, hacted⟩ :=
        begins_acting crates env state incoming _ hbegins H H' e rfl fun q h => hq ⟨q, h⟩
      obtain ⟨-, hrest⟩ := (expected_append _ _ _ earlier (resolved ++ since)).mp hexpected
      obtain ⟨hmade, -⟩ := (expected_append _ _ _ resolved since).mp hrest
      have hfresh := keeps_ends (hcredential _) hresolved hmade cred rfl
      have hdelivers := delivers_action crates env state cred action _ x hacted since back e rfl
      have hallowed : ∃ cred earlier' since', earlier ++ (resolved ++ since) = earlier' ++ since' ∧
          cred.FreshFor crates state net calls incoming.headers ∧
          e.1.Delivers cred (imapSettings env).tlsInsecure since' :=
        ⟨cred, earlier ++ resolved, since, (List.append_assoc _ _ _).symm, hfresh, hdelivers⟩
      obtain ⟨q, y⟩ := e
      cases q with
      | credential q => exact absurd ⟨q, rfl⟩ hq
      | imap q => exact hallowed
      | stamp => exact hallowed
      | smtp q => exact hallowed

/-- In the cache there is only what some request's call has found, and every request has kept
to its contract so far. -/
theorem app_invariant (incomings : Set Incoming) (clock₀ : ℕ) :
    Invariant (appSystem crates env state) incomings ⟨clock₀, net, fun _ => none⟩
      (appContract crates env state net (resolveCalls incomings)) (fun _ _ _ => True)
      (fun s rs => CacheOfCalls crates.xml net (resolveCalls incomings) s ∧
        ∀ r ∈ rs, r.1 ∈ incomings) := by
  have hcache := cache_invariant crates.xml state.autoconfig.settings net (resolveCalls incomings)
    clock₀
  have hthread (s : ResolverState) (hs : CacheOfCalls crates.xml net (resolveCalls incomings) s)
      (incoming : Incoming) (hincoming : incoming ∈ incomings) (call : ResolveCall)
      (hcall : incoming.headers.resolveCall? = some call) :
      CacheOfCalls crates.xml net (resolveCalls incomings) s ∧
        ∀ r ∈ ([] ++ (call, ()) :: [] : List (ResolveCall × Unit)), r.1 ∈ resolveCalls incomings := by
    refine ⟨hs, fun r hr => ?_⟩
    obtain rfl := List.mem_singleton.mp hr
    exact ⟨incoming, hincoming, hcall⟩
  exact
    { init := ⟨hcache.init.1, by simp⟩
      spawn := by
        intro s rs incoming hincoming hI
        exact ⟨hI.1, List.forall_mem_append.mpr ⟨hI.2, List.forall_mem_singleton.mpr hincoming⟩⟩
      body := by
        intro incoming hincoming
        exact serve_fresh crates env state net _ incoming fun call hcall =>
          ⟨incoming, hincoming, hcall⟩
      expects := by
        intro s before after incoming H q x s' hI hallowed hact
        have hincoming : incoming ∈ incomings := hI.2 (incoming, H) (by simp)
        cases q with
        | credential q =>
          cases q with
          | resolver q =>
            obtain ⟨own, hown, hq⟩ := hallowed
            intro call hcall
            obtain rfl := Option.some.inj (hown.symm.trans hcall)
            exact hcache.expects s [] [] own () q x s'
              (hthread s hI.1 incoming hincoming own hown) hq hact
          | lookup host => trivial
        | _ => trivial
      act := by
        intro s before after incoming H q x s' hI hallowed hact
        have hincoming : incoming ∈ incomings := hI.2 (incoming, H) (by simp)
        refine ⟨?_, fun r hr => ?_⟩
        · cases q with
          | credential q =>
            cases q with
            | resolver q =>
              obtain ⟨own, hown, hq⟩ := hallowed
              exact (hcache.act s [] [] own () q x s'
                (hthread s hI.1 incoming hincoming own hown) hq hact).1
            | lookup host =>
              obtain rfl : s' = s := hact
              exact hI.1
          | _ =>
            obtain rfl : s' = s := hact
            exact hI.1
        · rcases place_or_other _ hr with rfl | hr
          · exact hincoming
          · exact hI.2 r (mem_of_other _ hr)
      drift := by
        intro s rs s' hI hdrift
        exact ⟨(hcache.drift s [] s' ⟨hI.1, by simp⟩ hdrift).1, hI.2⟩ }

/-- Whatever else is being served, in whatever order, and whatever it has left in the cache: what
a request asks beyond its credential it asks under one of its own headers, with the targets that
are there or that its own domain publishes; and where the requests for the domain agree on the
email, it might be the only one. -/
theorem shared_cache_keeps_domains (clock₀ : ℕ)
    (c : Config Incoming (NetHistory Address) (NetOp Address) NetOp.Answer (Option GatewayReply)
      ResolverState)
    (hreach : Reachable (appSystem crates env state) Set.univ ⟨clock₀, net, fun _ => none⟩ c)
    (incoming : Incoming) (H : NetHistory Address) (q : NetOp Address)
    (k : q.Answer → NetProg Address (Option GatewayReply))
    (hthread : ⟨incoming, H, .ask q k⟩ ∈ c.threads) (hacting : ∀ q', q ≠ .credential q') :
    ∃ cred earlier since, H = earlier ++ since ∧
      MailboxCredential.FreshFor crates state net (resolveCalls c.labels) cred incoming.headers ∧
      q.Delivers cred (imapSettings env).tlsInsecure since ∧
      ((∀ own, incoming.headers.resolveCall? = some own → ∀ call ∈ resolveCalls c.labels,
          normaliseDomain call.domain = normaliseDomain own.domain →
            emailQuery call.email = emailQuery own.email) →
        cred.FreshFor crates state net {own | incoming.headers.resolveCall? = some own}
          incoming.headers) := by
  have hmade := reachable_labels _ _ c.labels _ c hreach fun _ h => h
  have hallowed := reachable_allowed _ _ _ _ _ _ (app_invariant crates env state net c.labels clock₀)
    c hmade incoming H q k hthread
  have hown : ∃ cred earlier since, H = earlier ++ since ∧
      MailboxCredential.FreshFor crates state net (resolveCalls c.labels) cred incoming.headers ∧
      q.Delivers cred (imapSettings env).tlsInsecure since := by
    cases q with
    | credential q => exact absurd rfl (hacting q)
    | _ => exact hallowed
  obtain ⟨cred, earlier, since, hH, hfresh, hdelivers⟩ := hown
  exact ⟨cred, earlier, since, hH, hfresh, hdelivers, fun hagree =>
    freshFor_alone crates state net _ cred incoming.headers hagree hfresh⟩

end Requests

/-- The resolver out of its state, and everybody else as it pleases them. -/
def ResolverState.serve {Address : Type} (s : ResolverState) :
    (q : NetOp Address) → q.Answer × ResolverState
  | .credential (.resolver q) => s.respond q
  | .credential (.lookup _) => (.error "not found", s)
  | .imap q => (expungedAnswer q, s)
  | .stamp => (⟨"", "", ""⟩, s)
  | .smtp (.sendRaw _ _ _) => (.ok (), s)
  | .smtp (.info _) => ((), s)

theorem serves_serve {Address : Type} (s : ResolverState) (q : NetOp Address) :
    s.Serves q (s.serve q).1 (s.serve q).2 := by
  cases q with
  | credential q =>
    cases q with
    | resolver q => exact ⟨rfl, rfl⟩
    | lookup host => rfl
  | imap q => rfl
  | stamp => rfl
  | smtp q =>
    cases q with
    | _ => rfl

/-- A search with a credential and no target. -/
def mailboxSearch (auth : String) : Incoming where
  headers := ⟨[("x-mailbox-auth", bytes ("Basic " ++ auth))]⟩
  request := .search (.ok newestTwo)

/-- Of two users of `example.com`. -/
def bobSearch : Incoming := mailboxSearch "Ym9iQGV4YW1wbGUuY29tOmh1bnRlcjI="

def aliceSearch : Incoming := mailboxSearch "YWxpY2VAZXhhbXBsZS5jb206czNjcjN0"

/-- A provider that publishes one configuration. -/
def publishedNetwork : NetworkBackend where
  http _ := .ok (some "")
  srv _ := []
  mx _ := []

def publishedCrates : Crates String := { plainCrates with
  xml := fun _ => some ⟨⟨[⟨"imap", some "imap.example.com", some 993, some "SSL"⟩],
    [⟨"smtp", some "smtp.example.com", some 465, some "SSL"⟩]⟩⟩ }

/-- The login of Alice. -/
def NetOp.isAlice : NetOp String → Bool
  | .imap (.login _ username password) => username == "alice@example.com" && password == "s3cr3t"
  | _ => false

/-- Bob's search fills the cache, and Alice logs in where it says. -/
theorem alice_after_bob :
    ∃ (c : Config Incoming (NetHistory String) (NetOp String) NetOp.Answer (Option GatewayReply)
        ResolverState) (H : NetHistory String) (q : NetOp String) (cred : MailboxCredential)
        (since : NetHistory String),
      Reachable (appSystem publishedCrates (fun _ => none) plainApp) Set.univ
        ⟨0, publishedNetwork, fun _ => none⟩ c ∧
      (∃ k, ⟨aliceSearch, H, .ask q k⟩ ∈ c.threads) ∧ q.isAlice = true ∧
      MailboxCredential.FreshFor publishedCrates plainApp publishedNetwork (resolveCalls c.labels)
        cred aliceSearch.headers ∧
      q.Delivers cred (imapSettings fun _ => none).tlsInsecure since := by
  have hlogin : (advance ResolverState.serve 4
      (execute ResolverState.serve ⟨0, publishedNetwork, fun _ => none⟩
        (serve publishedCrates (fun _ => none) plainApp bobSearch)).2
      (serve publishedCrates (fun _ => none) plainApp aliceSearch)).1.next?.any NetOp.isAlice =
        true := by decide +kernel
  obtain ⟨q, hnext, halice⟩ := (Option.any_eq_true _ _).mp hlogin
  obtain ⟨_, hbob⟩ := reachable_call ResolverState.serve
    (appSystem publishedCrates (fun _ => none) plainApp) Set.univ _ serves_serve [] bobSearch trivial
    ⟨0, publishedNetwork, fun _ => none⟩ .init
  obtain ⟨H, k, hreach⟩ := reachable_stopped ResolverState.serve _ Set.univ _ serves_serve _
    aliceSearch trivial _ hbob 4 q hnext
  have hacting (q' : RequestOp) : q ≠ .credential q' := by
    rintro rfl
    cases halice
  obtain ⟨cred, earlier, since, -, hfresh, hdelivers, -⟩ := shared_cache_keeps_domains publishedCrates
    (fun _ => none) plainApp publishedNetwork 0 _ hreach aliceSearch H q k
    (List.mem_append_right _ (List.mem_singleton.mpr rfl)) hacting
  exact ⟨_, H, q, cred, since, hreach, ⟨k, List.mem_append_right _ (List.mem_singleton.mpr rfl)⟩,
    halice, hfresh, hdelivers⟩

end Overfwd
