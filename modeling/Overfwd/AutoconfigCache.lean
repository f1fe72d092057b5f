import Overfwd.DomainPolicy
import Overfwd.Lib.Interleaving

/-! Concurrent `resolve` calls over one cache, and what an answer may depend on. The
cache is keyed by the domain alone; the ladder also reads the email. -/
namespace Overfwd

open Text Dialogue Interleaving

/-- The network as a fixed function of the question. -/
structure NetworkBackend where
  http : String → Except GatewayError (Option String)
  srv : String → List SrvRecord
  mx : String → List String

structure ResolverState where
  clock : ℕ
  network : NetworkBackend
  cache : String → Option CacheEntry

/-- `cache_get` under the lock: an entry counts while it expires after now. -/
def ResolverState.cacheHit (s : ResolverState) (domain : String) : Option (Option MailServers) :=
  match s.cache domain with
  | none => none
  | some entry => if s.clock < entry.expires then some entry.value else none

def ResolverState.respond (s : ResolverState) : (q : ResolverOp) → q.Answer × ResolverState
  | .get url => (s.network.http url, s)
  | .srv name => (s.network.srv name, s)
  | .mx domain => (s.network.mx domain, s)
  | .cacheGet domain => (s.cacheHit domain, s)
  | .now => (s.clock, s)
  | .cacheInsert domain entry =>
    ((), { s with cache := Function.update s.cache domain (some entry) })

section Responses

variable (s : ResolverState)

/-- A hit is the value of an entry whose time is not over. -/
theorem cacheHit_eq_some (domain : String) (value : Option MailServers)
    (h : s.cacheHit domain = some value) :
    ∃ entry, s.cache domain = some entry ∧ s.clock < entry.expires ∧ entry.value = value := by
  unfold ResolverState.cacheHit at h
  rcases hentry : s.cache domain with _ | entry
  · rw [hentry] at h
    cases h
  · rw [hentry] at h
    dsimp only at h
    split_ifs at h with hlive
    cases h
    exact ⟨entry, rfl, hlive, rfl⟩

theorem respond_network (q : ResolverOp) : (s.respond q).2.network = s.network := by
  cases q with
  | _ => rfl

theorem respond_clock (q : ResolverOp) : (s.respond q).2.clock = s.clock := by
  cases q with
  | _ => rfl

/-- An entry of the cache after a step was there before, or is what the step has stored. -/
theorem respond_cache (q : ResolverOp) (domain : String) (entry : CacheEntry)
    (h : (s.respond q).2.cache domain = some entry) :
    s.cache domain = some entry ∨ q = .cacheInsert domain entry := by
  cases q with
  | cacheInsert d e =>
    change Function.update s.cache d (some e) domain = some entry at h
    by_cases hd : domain = d
    · rw [hd, Function.update_self] at h
      cases h
      exact Or.inr (by rw [hd])
    · rw [Function.update_of_ne hd] at h
      exact Or.inl h
  | _ => exact Or.inl h

end Responses

structure ResolveCall where
  domain : String
  email : Option String
  deriving DecidableEq

abbrev ResolveResult := Except GatewayError MailServers

/-- Any callers at any times: between two questions the clock may advance and other
calls may move. -/
@[reducible] def resolveSystem (fromStr : XmlReader) (settings : AutoconfigSettings) :
    System ResolveCall Unit ResolverOp ResolverOp.Answer ResolveResult ResolverState where
  body call := resolve fromStr settings call.domain call.email
  act s q x s' := x = (s.respond q).1 ∧ s' = (s.respond q).2
  drift s s' := s.clock ≤ s'.clock ∧ s'.network = s.network ∧ s'.cache = s.cache
  start _ := ()
  next _ _ _ := ()

/-- The answers of a network behind an empty cache. -/
def NetworkBackend.answer (net : NetworkBackend) : (q : ResolverOp) → q.Answer
  | .get url => net.http url
  | .srv name => net.srv name
  | .mx domain => net.mx domain
  | .cacheGet _ => none
  | .now => 0
  | .cacheInsert _ _ => ()

section Fresh

variable (fromStr : XmlReader) (settings : AutoconfigSettings) (net : NetworkBackend)

/-- The ladder run afresh. -/
def freshResult (call : ResolveCall) : ResolveResult :=
  (resolve fromStr settings call.domain call.email).run net.answer

def freshValue (domain : String) (email : Option String) : Option MailServers :=
  ladderValue ((runLadder fromStr domain email).run net.answer)

theorem freshResult_of_public (call : ResolveCall)
    (hpublic : isPublicDomain (normaliseDomain call.domain) = true) :
    freshResult fromStr settings net call =
      okOrMiss (normaliseDomain call.domain)
        (freshValue fromStr net (normaliseDomain call.domain) call.email) := by
  rw [freshResult, resolve_of_public _ _ _ _ hpublic, resolveCached, run_bind]
  simp only [cacheGet, run_call, NetworkBackend.answer, run_bind, run_pure]
  rw [freshValue]

theorem freshResult_of_not_public (call : ResolveCall)
    (hpublic : isPublicDomain (normaliseDomain call.domain) = false) :
    freshResult fromStr settings net call = .error (notPublic (normaliseDomain call.domain)) := by
  rw [freshResult, resolve_of_not_public _ _ _ _ hpublic, run_pure]

/-- The email reaches the ladder only as the query of its first two URLs. -/
theorem runLadder_congr (domain : String) (email email' : Option String)
    (h : emailQuery email = emailQuery email') :
    runLadder fromStr domain email = runLadder fromStr domain email' := by
  have hurls : httpConfigUrls domain email = httpConfigUrls domain email' := by
    unfold httpConfigUrls providerUrl wellKnownUrl
    rw [h]
  unfold runLadder
  rw [hurls]

theorem freshResult_congr (call : ResolveCall) (email : Option String)
    (h : emailQuery email = emailQuery call.email) :
    freshResult fromStr settings net ⟨call.domain, email⟩ =
      freshResult fromStr settings net call := by
  rcases hpublic : isPublicDomain (normaliseDomain call.domain) with _ | _
  · rw [freshResult_of_not_public fromStr settings net call hpublic]
    exact freshResult_of_not_public fromStr settings net ⟨call.domain, email⟩ hpublic
  · rw [freshResult_of_public fromStr settings net call hpublic, freshValue,
      ← runLadder_congr fromStr _ email call.email h]
    exact freshResult_of_public fromStr settings net ⟨call.domain, email⟩ hpublic

/-- Cached for a domain is only what some call of that domain computed. -/
def CacheOfCalls (calls : Set ResolveCall) (s : ResolverState) : Prop :=
  s.network = net ∧ ∀ domain entry, s.cache domain = some entry →
    ∃ call ∈ calls, normaliseDomain call.domain = domain ∧
      entry.value = freshValue fromStr net domain call.email

/-- What one call asks and expects, given which calls are made at all. -/
def resolveContract (calls : Set ResolveCall) (call : ResolveCall) :
    Contract ResolverOp ResolverOp.Answer Unit where
  allowed _ q := match q with
    | .cacheInsert domain entry => domain = normaliseDomain call.domain ∧
        entry.value = freshValue fromStr net domain call.email
    | _ => True
  expects _ q x := match q with
    | .get url => x = net.http url
    | .srv name => x = net.srv name
    | .mx domain => x = net.mx domain
    | .cacheGet domain => ∀ value, x = some value → ∃ call' ∈ calls,
        normaliseDomain call'.domain = domain ∧ value = freshValue fromStr net domain call'.email
    | _ => True

/-- The network's answers are pinned by the contract, and asking it is always allowed. -/
theorem contract_network (calls : Set ResolveCall) (call : ResolveCall) (g : Unit)
    (q : ResolverOp) (hq : q.IsNetwork) :
    (resolveContract fromStr net calls call).allowed g q ∧
      ∀ x, (resolveContract fromStr net calls call).expects g q x → x = net.answer q := by
  cases q with
  | get url => exact ⟨True.intro, fun x hx => hx⟩
  | srv name => exact ⟨True.intro, fun x hx => hx⟩
  | mx domain => exact ⟨True.intro, fun x hx => hx⟩
  | cacheGet domain => exact hq.elim
  | now => exact hq.elim
  | cacheInsert domain entry => exact hq.elim

/-- An answer is the fresh result of the domain for the email of some call. -/
def AnsweredFresh (calls : Set ResolveCall) (call : ResolveCall) (r : ResolveResult) : Prop :=
  ∃ call' ∈ calls, normaliseDomain call'.domain = normaliseDomain call.domain ∧
    r = freshResult fromStr settings net ⟨call.domain, call'.email⟩

theorem resolve_keeps (calls : Set ResolveCall) (call : ResolveCall) (hcall : call ∈ calls) :
    Keeps (fun _ _ _ => ()) (resolveContract fromStr net calls call)
      (resolve fromStr settings call.domain call.email)
      (fun r _ => AnsweredFresh fromStr settings net calls call r) () := by
  rcases hpublic : isPublicDomain (normaliseDomain call.domain) with _ | _
  · rw [resolve_of_not_public _ _ _ _ hpublic, keeps_pure]
    refine ⟨call, hcall, rfl, ?_⟩
    exact (freshResult_of_not_public fromStr settings net call hpublic).symm
  · have hfresh (email : Option String) :=
      freshResult_of_public fromStr settings net ⟨call.domain, email⟩ hpublic
    have hladder := keeps_run (fun _ _ _ => ()) (resolveContract fromStr net calls call) net.answer
      (runLadder_asks fromStr (normaliseDomain call.domain) call.email hpublic)
      (fun g q hq => (contract_network fromStr net calls call g q hq.2).1)
      (fun g q x hq => (contract_network fromStr net calls call g q hq.2).2 x) ()
    rw [resolve_of_public _ _ _ _ hpublic, resolveCached, keeps_bind, cacheGet, keeps_call]
    refine ⟨trivial, fun hit hexpects => ?_⟩
    rcases hit with _ | value
    · rw [keeps_bind]
      apply keeps_mono _ _ hladder
      intro resolved _ hresolved
      have hvalue : ladderValue resolved =
          freshValue fromStr net (normaliseDomain call.domain) call.email := by
        rw [hresolved, freshValue]
      simp only [cachePut, instantNow, cacheInsert, keeps_bind, keeps_call, keeps_pure]
      refine ⟨trivial, fun now _ => ⟨⟨rfl, hvalue⟩, fun _ _ => ?_⟩⟩
      refine ⟨call, hcall, rfl, ?_⟩
      rw [hvalue]
      exact (hfresh call.email).symm
    · obtain ⟨call', hcall', hdomain, hvalue⟩ := hexpects value rfl
      rw [keeps_pure]
      refine ⟨call', hcall', hdomain, ?_⟩
      rw [hvalue]
      exact (hfresh call'.email).symm

theorem cache_invariant (calls : Set ResolveCall) (clock₀ : ℕ) :
    Invariant (resolveSystem fromStr settings) calls ⟨clock₀, net, fun _ => none⟩
      (resolveContract fromStr net calls)
      (fun call r _ => AnsweredFresh fromStr settings net calls call r)
      (fun s rs => CacheOfCalls fromStr net calls s ∧ ∀ r ∈ rs, r.1 ∈ calls) where
  init := by
    refine ⟨⟨rfl, fun domain entry h => ?_⟩, by simp⟩
    cases h
  spawn := by
    intro s rs call hcall hI
    exact ⟨hI.1, List.forall_mem_append.mpr ⟨hI.2, List.forall_mem_singleton.mpr hcall⟩⟩
  body := by
    intro call hcall
    dsimp only [resolveSystem]
    exact resolve_keeps fromStr settings net calls call hcall
  expects := by
    intro s before after call g q x s' hI _ hact
    obtain ⟨⟨hnet, hcache⟩, -⟩ := hI
    obtain ⟨rfl, -⟩ := hact
    cases q with
    | get url => exact congrArg (fun n => n.http url) hnet
    | srv name => exact congrArg (fun n => n.srv name) hnet
    | mx domain => exact congrArg (fun n => n.mx domain) hnet
    | cacheGet domain =>
      intro value hvalue
      obtain ⟨entry, hentry, -, rfl⟩ := cacheHit_eq_some s domain value hvalue
      exact hcache domain entry hentry
    | now => exact True.intro
    | cacheInsert domain entry => exact True.intro
  act := by
    intro s before after call g q x s' hI hallowed hact
    obtain ⟨⟨hnet, hcache⟩, hcalls⟩ := hI
    obtain ⟨-, rfl⟩ := hact
    have hcall : call ∈ calls := hcalls (call, g) (by simp)
    refine ⟨⟨(respond_network s q).trans hnet, fun domain entry hentry => ?_⟩,
      fun r hr => hcalls r (by simpa using hr)⟩
    rcases respond_cache s q domain entry hentry with hold | rfl
    · exact hcache domain entry hold
    · obtain ⟨hdomain, hvalue⟩ := hallowed
      exact ⟨call, hcall, hdomain.symm, hvalue⟩
  drift := by
    intro s rs s' hI hdrift
    obtain ⟨-, hnet, hcache⟩ := hdrift
    refine ⟨⟨hnet.trans hI.1.1, fun domain entry h => ?_⟩, hI.2⟩
    rw [hcache] at h
    exact hI.1.2 domain entry h

/-- Over a fixed network, an answer is the fresh result of the call's own domain for the
email of a call of that domain already made: its own fresh result as long as these
calls agree on the email. -/
theorem resolve_answers_fresh (clock₀ : ℕ)
    (c : Config ResolveCall Unit ResolverOp ResolverOp.Answer ResolveResult ResolverState)
    (hreach : Reachable (resolveSystem fromStr settings) Set.univ ⟨clock₀, net, fun _ => none⟩ c)
    (call : ResolveCall) (r : ResolveResult) (hreturned : ⟨call, (), .ret r⟩ ∈ c.threads) :
    AnsweredFresh fromStr settings net c.labels call r ∧
      ((∀ call' ∈ c.labels, normaliseDomain call'.domain = normaliseDomain call.domain →
        emailQuery call'.email = emailQuery call.email) →
        r = freshResult fromStr settings net call) := by
  have hmade := reachable_labels _ _ c.labels _ c hreach fun _ h => h
  have hanswered := reachable_post _ _ _ _ _ _
    (cache_invariant fromStr settings net c.labels clock₀) c hmade call () r hreturned
  refine ⟨hanswered, fun hagree => ?_⟩
  obtain ⟨call', hcall', hdomain, hr⟩ := hanswered
  rw [hr]
  exact freshResult_congr fromStr settings net call call'.email (hagree call' hcall' hdomain)

end Fresh

def vipXml : String :=
  "<clientConfig version=\"1.1\"><emailProvider id=\"example.com\"><incomingServer type=\"imap\">" ++
  "<hostname>imap.example.com</hostname><port>993</port><socketType>SSL</socketType>" ++
  "</incomingServer></emailProvider></clientConfig>"

def vipReader : XmlReader := fun xml =>
  if xml = vipXml then
    some ⟨⟨[⟨"imap", some "imap.example.com", some 993, some "SSL"⟩], []⟩⟩
  else none

/-- A provider that publishes a configuration for one address only. -/
def vipNetwork : NetworkBackend where
  http url := if url = providerUrl "example.com" (some "vip@example.com") then .ok (some vipXml)
    else .ok none
  srv _ := []
  mx _ := []

def plainCall : ResolveCall := ⟨"example.com", some "user@example.com"⟩

def vipCall : ResolveCall := ⟨"example.com", some "vip@example.com"⟩

def vipSettings : AutoconfigSettings := ⟨3600, 300⟩

/-- The two calls one after the other: the miss of the first is the answer to the second. -/
theorem vip_after_plain :
    ∃ c, Reachable (resolveSystem vipReader vipSettings) Set.univ ⟨0, vipNetwork, fun _ => none⟩ c ∧
      ⟨vipCall, (), .ret (.error (autoconfigMiss "example.com"))⟩ ∈ c.threads := by
  have hrespond : ∀ s q, (resolveSystem vipReader vipSettings).act s q (s.respond q).1
      (s.respond q).2 := fun s q => ⟨rfl, rfl⟩
  obtain ⟨_, hfirst⟩ := reachable_call ResolverState.respond _ Set.univ _ hrespond [] plainCall
    trivial _ (Reachable.init : Reachable (resolveSystem vipReader vipSettings) Set.univ
      ⟨0, vipNetwork, fun _ => none⟩ _)
  obtain ⟨_, hsecond⟩ := reachable_call ResolverState.respond _ Set.univ _ hrespond _ vipCall
    trivial _ hfirst
  refine ⟨_, hsecond, List.mem_append_right _ (List.mem_singleton.mpr ?_)⟩
  rfl

theorem resolve_depends_on_earlier_email :
    ¬ ∀ c, Reachable (resolveSystem vipReader vipSettings) Set.univ
        ⟨0, vipNetwork, fun _ => none⟩ c →
      ∀ call r, ⟨call, (), .ret r⟩ ∈ c.threads →
        r = freshResult vipReader vipSettings vipNetwork call := by
  intro hall
  obtain ⟨c, hreach, hreturned⟩ := vip_after_plain
  have hfresh : freshResult vipReader vipSettings vipNetwork vipCall =
      .ok ⟨some ⟨"imap.example.com", 993⟩, none⟩ := by decide +kernel
  have hsame := hall c hreach vipCall _ hreturned
  rw [hfresh] at hsame
  cases hsame

/-- The second call's answer is the fresh one for the email of the first. -/
theorem vip_answered_fresh :
    ∃ c : Config ResolveCall Unit ResolverOp ResolverOp.Answer ResolveResult ResolverState,
      Reachable (resolveSystem vipReader vipSettings) Set.univ ⟨0, vipNetwork, fun _ => none⟩ c ∧
        ⟨vipCall, (), .ret (.error (autoconfigMiss "example.com"))⟩ ∈ c.threads ∧
        AnsweredFresh vipReader vipSettings vipNetwork c.labels vipCall
          (.error (autoconfigMiss "example.com")) ∧
        ((∀ call' ∈ c.labels, normaliseDomain call'.domain = normaliseDomain vipCall.domain →
          emailQuery call'.email = emailQuery vipCall.email) →
          .error (autoconfigMiss "example.com") =
            freshResult vipReader vipSettings vipNetwork vipCall) := by
  obtain ⟨c, hreach, hreturned⟩ := vip_after_plain
  exact ⟨c, hreach, hreturned,
    resolve_answers_fresh vipReader vipSettings vipNetwork 0 c hreach vipCall _ hreturned⟩

end Overfwd
