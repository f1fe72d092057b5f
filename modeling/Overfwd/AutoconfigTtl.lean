import Overfwd.AutoconfigCache
import Overfwd.Lib.History

/-! How long an answer is served. The network may change at any time, so a cached outcome
is told by the history of the call whose ladder found it: when it was stored, and when it
was read again. -/
namespace Overfwd

open Dialogue Interleaving

/-- An answer and the clock it was given at. -/
abbrev TimedAnswer (q : ResolverOp) : Type := q.Answer × ℕ

abbrev TimedHistory := List (Exchange ResolverOp TimedAnswer)

/-- Any callers at any times; between two questions the clock may advance, the network may
change and other calls may move. -/
@[reducible] def timedSystem (fromStr : XmlReader) (settings : AutoconfigSettings) :
    System ResolveCall TimedHistory ResolverOp TimedAnswer ResolveResult ResolverState where
  body call := (resolve fromStr settings call.domain call.email).stamped ℕ
  act s q x s' := x = ((s.respond q).1, s.clock) ∧ s' = (s.respond q).2
  drift s s' := s.clock ≤ s'.clock ∧ s'.cache = s.cache
  start _ := []
  next := record

section Histories

variable (fromStr : XmlReader) (settings : AutoconfigSettings)

/-- How long the outcome of a ladder is kept. -/
def outcomeTtl (resolved : MailServers) : ℕ :=
  if resolved.isEmpty then settings.negTtl else settings.posTtl

/-- What a ladder that ended at `now` leaves in the cache. -/
def storedEntry (resolved : MailServers) (now : ℕ) : CacheEntry :=
  { expires := now + outcomeTtl settings resolved, value := ladderValue resolved }

/-- The call missed the cache and ran the ladder, which found `resolved` by the time `now`. -/
def RanLadder (domain : String) (email : Option String) (resolved : MailServers) (now : ℕ)
    (h : TimedHistory) : Prop :=
  ∃ asked ladder, h = [⟨.cacheGet domain, (none, asked)⟩] ++ ladder ++ [⟨.now, (now, now)⟩] ∧
    Plays ((runLadder fromStr domain email).stamped ℕ) ladder resolved

/-- The call stored at the time `stored` what its ladder had found by the time `now`. -/
def StoredOutcome (domain : String) (email : Option String) (resolved : MailServers)
    (now stored : ℕ) (h : TimedHistory) : Prop :=
  ∃ h₀, RanLadder fromStr domain email resolved now h₀ ∧
    h = h₀ ++ [⟨.cacheInsert domain (storedEntry settings resolved now), ((), stored)⟩]

/-- The call was answered from the cache at the time `t`. -/
def ReadBack (domain : String) (value : Option MailServers) (t : ℕ) (h : TimedHistory) : Prop :=
  h = [⟨.cacheGet domain, (some value, t)⟩]

theorem cachePut_entry (domain : String) (resolved : MailServers) :
    cachePut settings domain (ladderValue resolved) = (do
      let now ← instantNow
      cacheInsert domain (storedEntry settings resolved now)) := by
  unfold cachePut storedEntry outcomeTtl ladderValue
  rcases resolved.isEmpty with _ | _
  · rfl
  · rfl

end Histories

section Calls

variable (fromStr : XmlReader) (settings : AutoconfigSettings)

/-- A call stores only what its own ladder found, under its own domain, and is told the
time by the clock. -/
def ttlContract (call : ResolveCall) : Contract ResolverOp TimedAnswer TimedHistory where
  allowed h q := match q with
    | .cacheInsert domain entry => domain = normaliseDomain call.domain ∧
        ∃ resolved now, entry = storedEntry settings resolved now ∧
          RanLadder fromStr domain call.email resolved now h
    | _ => True
  expects _ q x := match q with
    | .now => x.1 = x.2
    | _ => True

/-- How a call comes to its answer. -/
inductive Answered (call : ResolveCall) (r : ResolveResult) (h : TimedHistory) : Prop
  | refused (hpublic : isPublicDomain (normaliseDomain call.domain) = false)
      (hr : r = .error (notPublic (normaliseDomain call.domain)))
  | ladder (resolved : MailServers) (now stored : ℕ)
      (hstored : StoredOutcome fromStr settings (normaliseDomain call.domain) call.email
        resolved now stored h)
      (hr : r = okOrMiss (normaliseDomain call.domain) (ladderValue resolved))
  | cached (value : Option MailServers) (t : ℕ)
      (hread : ReadBack (normaliseDomain call.domain) value t h)
      (hr : r = okOrMiss (normaliseDomain call.domain) value)

/-- The questions of a ladder are all allowed. -/
theorem allowed_of_ladder (call : ResolveCall) (h : TimedHistory) (q : ResolverOp)
    (hq : LadderQuestion (normaliseDomain call.domain) call.email q) :
    (ttlContract fromStr settings call).allowed h q := by
  cases q with
  | cacheInsert domain entry => exact hq.2.elim
  | _ => trivial

/-- After the ladder: the clock is read and the outcome stored, each answer going into the
history. -/
theorem cachePut_keeps_ttl (call : ResolveCall) (resolved : MailServers) (asked : ℕ)
    (ladder : TimedHistory)
    (hplays : Plays ((runLadder fromStr (normaliseDomain call.domain) call.email).stamped ℕ)
      ladder resolved) :
    Keeps record (ttlContract fromStr settings call)
      ((do
        cachePut settings (normaliseDomain call.domain) (ladderValue resolved)
        pure (okOrMiss (normaliseDomain call.domain) (ladderValue resolved)) :
          Prog ResolverOp ResolverOp.Answer ResolveResult).stamped ℕ)
      (fun r h => Answered fromStr settings call r h)
      (record [] (.cacheGet (normaliseDomain call.domain)) (none, asked) ++ ladder) := by
  rw [cachePut_entry, bind_assoc, instantNow, keeps_stamped_call]
  refine ⟨trivial, fun now hnow => ?_⟩
  obtain ⟨now, t⟩ := now
  obtain rfl : now = t := hnow
  have hran : RanLadder fromStr (normaliseDomain call.domain) call.email resolved now
      (record (record [] (.cacheGet (normaliseDomain call.domain)) (none, asked) ++ ladder)
        .now (now, now)) := ⟨asked, ladder, rfl, hplays⟩
  rw [cacheInsert, keeps_stamped_call]
  refine ⟨⟨rfl, resolved, now, rfl, hran⟩, fun stored _ => ?_⟩
  rw [stamped_pure, keeps_pure]
  exact .ladder resolved now stored.2 ⟨_, hran, rfl⟩ rfl

theorem resolve_keeps_ttl (call : ResolveCall) :
    Keeps record (ttlContract fromStr settings call)
      ((resolve fromStr settings call.domain call.email).stamped ℕ)
      (fun r h => Answered fromStr settings call r h) [] := by
  rcases hpublic : isPublicDomain (normaliseDomain call.domain) with _ | _
  · rw [resolve_of_not_public _ _ _ _ hpublic, stamped_pure, keeps_pure]
    exact .refused hpublic rfl
  · have hladder := asksOnly_stamped (T := ℕ)
      (runLadder_asks fromStr (normaliseDomain call.domain) call.email hpublic)
    rw [resolve_of_public _ _ _ _ hpublic, resolveCached, cacheGet, keeps_stamped_call]
    refine ⟨trivial, fun hit _ => ?_⟩
    obtain ⟨hit, asked⟩ := hit
    rcases hit with _ | value
    · dsimp only
      rw [stamped_bind, keeps_bind]
      apply keeps_mono _ _ (keeps_played _ hladder (allowed_of_ladder fromStr settings call) _)
      rintro resolved h ⟨ladder, rfl, hplays⟩
      exact cachePut_keeps_ttl fromStr settings call resolved asked ladder hplays
    · dsimp only
      rw [stamped_pure, keeps_pure]
      exact .cached value asked rfl rfl

end Calls

section Runs

variable (fromStr : XmlReader) (settings : AutoconfigSettings)

abbrev ResolveRecord := ResolveCall × TimedHistory

/-- Some call of the domain began by running a ladder and storing what it found. -/
def StoredBy (rs : List ResolveRecord) (domain : String) (resolved : MailServers)
    (now stored : ℕ) : Prop :=
  now ≤ stored ∧ ∃ r ∈ rs, normaliseDomain r.1.domain = domain ∧ ∃ h, h <+: r.2 ∧
    StoredOutcome fromStr settings domain r.1.email resolved now stored h

/-- Every call is still there, and none has forgotten anything. -/
def Grown (rs rs' : List ResolveRecord) : Prop :=
  ∀ r ∈ rs, ∃ r' ∈ rs', r'.1 = r.1 ∧ r.2 <+: r'.2

theorem grown_spawn (rs : List ResolveRecord) (r : ResolveRecord) : Grown rs (rs ++ [r]) :=
  fun r' hr' => ⟨r', List.mem_append_left _ hr', rfl, List.prefix_refl _⟩

theorem grown_record (before after : List ResolveRecord) (call : ResolveCall) (h : TimedHistory)
    (q : ResolverOp) (x : TimedAnswer q) :
    Grown (before ++ (call, h) :: after) (before ++ (call, record h q x) :: after) := by
  intro r hr
  rcases place_or_other _ hr with rfl | hr
  · exact ⟨(call, record h q x), by simp, rfl, List.prefix_append _ _⟩
  · exact ⟨r, mem_of_other _ hr, rfl, List.prefix_refl _⟩

theorem storedBy_grown {rs rs' : List ResolveRecord} (hgrown : Grown rs rs') {domain : String}
    {resolved : MailServers} {now stored : ℕ}
    (h : StoredBy fromStr settings rs domain resolved now stored) :
    StoredBy fromStr settings rs' domain resolved now stored := by
  obtain ⟨hle, r, hr, hdomain, h₀, hprefix, houtcome⟩ := h
  obtain ⟨r', hr', hcall, hlonger⟩ := hgrown r hr
  refine ⟨hle, r', hr', ?_, h₀, hprefix.trans hlonger, ?_⟩
  · rw [hcall]
    exact hdomain
  · rw [hcall]
    exact houtcome

/-- What the cache held for `domain` at the time `t` may be served: it is the outcome of a
ladder of that domain which has not outlived its time. -/
def ServedInTime (rs : List ResolveRecord) (domain : String) (value : Option MailServers)
    (t : ℕ) : Prop :=
  ∃ resolved now stored, StoredBy fromStr settings rs domain resolved now stored ∧
    value = ladderValue resolved ∧ stored ≤ t ∧ t < now + outcomeTtl settings resolved

structure TtlInvariant (s : ResolverState) (rs : List ResolveRecord) : Prop where
  times : ∀ r ∈ rs, ∀ e ∈ r.2, e.2.2 ≤ s.clock
  entries : ∀ domain entry, s.cache domain = some entry → ∃ resolved now stored,
    StoredBy fromStr settings rs domain resolved now stored ∧
      entry = storedEntry settings resolved now ∧ stored ≤ s.clock
  reads : ∀ r ∈ rs, ∀ domain value t, ⟨.cacheGet domain, (some value, t)⟩ ∈ r.2 →
    ServedInTime fromStr settings rs domain value t

theorem served_grown {rs rs' : List ResolveRecord} (hgrown : Grown rs rs') {domain : String}
    {value : Option MailServers} {t : ℕ} (h : ServedInTime fromStr settings rs domain value t) :
    ServedInTime fromStr settings rs' domain value t := by
  obtain ⟨resolved, now, stored, hstored, hrest⟩ := h
  exact ⟨resolved, now, stored, storedBy_grown fromStr settings hgrown hstored, hrest⟩

/-- A hit is an entry whose time is not over. -/
theorem cacheHit_served (s : ResolverState) (rs : List ResolveRecord) (domain : String)
    (value : Option MailServers) (hI : TtlInvariant fromStr settings s rs)
    (hhit : s.cacheHit domain = some value) :
    ServedInTime fromStr settings rs domain value s.clock := by
  obtain ⟨entry, hentry, hlive, rfl⟩ := cacheHit_eq_some s domain value hhit
  obtain ⟨resolved, now, stored, hstored, rfl, hle⟩ := hI.entries domain entry hentry
  exact ⟨resolved, now, stored, hstored, rfl, hle, hlive⟩

section Step

variable (s : ResolverState) (before after : List ResolveRecord) (call : ResolveCall)
  (h : TimedHistory) (q : ResolverOp)

/-- The histories once the call has asked `q`. -/
abbrev recordsAfter : List ResolveRecord :=
  before ++ (call, record h q ((s.respond q).1, s.clock)) :: after

/-- After the step a history has what some history had before, and the answer to `q`. -/
theorem recorded_or_asked (r : ResolveRecord) (hr : r ∈ recordsAfter s before after call h q)
    (e : Exchange ResolverOp TimedAnswer) (he : e ∈ r.2) :
    (∃ r' ∈ before ++ (call, h) :: after, e ∈ r'.2) ∨
      e = ⟨q, ((s.respond q).1, s.clock)⟩ := by
  rcases place_or_other _ hr with rfl | hr
  · rcases mem_record _ _ he with he | rfl
    · exact Or.inl ⟨(call, h), by simp, he⟩
    · exact Or.inr rfl
  · exact Or.inl ⟨r, mem_of_other _ hr, he⟩

variable (hI : TtlInvariant fromStr settings s (before ++ (call, h) :: after))

include hI

theorem ttl_act_times (r : ResolveRecord) (hr : r ∈ recordsAfter s before after call h q)
    (e : Exchange ResolverOp TimedAnswer) (he : e ∈ r.2) : e.2.2 ≤ (s.respond q).2.clock := by
  rw [respond_clock]
  rcases recorded_or_asked s before after call h q r hr e he with ⟨r', hr', he'⟩ | rfl
  · exact hI.times r' hr' e he'
  · exact le_refl s.clock

/-- What the call has just stored is what its own ladder found, a moment ago by its history. -/
theorem ttl_act_stored (domain : String) (entry : CacheEntry)
    (hallowed : (ttlContract fromStr settings call).allowed h (.cacheInsert domain entry)) :
    ∃ resolved now, StoredBy fromStr settings
        (recordsAfter s before after call h (.cacheInsert domain entry)) domain resolved now s.clock ∧
      entry = storedEntry settings resolved now := by
  obtain ⟨rfl, resolved, now, rfl, hran⟩ := hallowed
  -- The clock was read earlier in the history, and no history is ahead of the clock.
  refine ⟨resolved, now, ⟨?_, ?_⟩, rfl⟩
  · obtain ⟨asked, ladder, hh, -⟩ := hran
    exact hI.times (call, h) (by simp) ⟨.now, (now, now)⟩ (by rw [hh]; simp)
  · exact ⟨_, List.mem_append_right _ List.mem_cons_self, rfl, _, List.prefix_refl _, h, hran, rfl⟩

theorem ttl_act_reads (r : ResolveRecord) (hr : r ∈ recordsAfter s before after call h q)
    (domain : String) (value : Option MailServers) (t : ℕ)
    (he : ⟨.cacheGet domain, (some value, t)⟩ ∈ r.2) :
    ServedInTime fromStr settings (recordsAfter s before after call h q) domain value t := by
  have hgrown := grown_record before after call h q ((s.respond q).1, s.clock)
  rcases recorded_or_asked s before after call h q r hr _ he with ⟨r', hr', he'⟩ | hlast
  · exact served_grown fromStr settings hgrown (hI.reads r' hr' domain value t he')
  · cases q with
    | cacheGet d =>
      simp only [Sigma.mk.injEq, ResolverOp.cacheGet.injEq] at hlast
      obtain ⟨rfl, heq⟩ := hlast
      have hanswer := eq_of_heq heq
      simp only [Prod.mk.injEq] at hanswer
      obtain ⟨hhit, rfl⟩ := hanswer
      exact served_grown fromStr settings hgrown
        (cacheHit_served fromStr settings s _ domain value hI hhit.symm)
    | _ => cases hlast

theorem ttl_act (hallowed : (ttlContract fromStr settings call).allowed h q) :
    TtlInvariant fromStr settings (s.respond q).2 (recordsAfter s before after call h q) := by
  refine ⟨ttl_act_times fromStr settings s before after call h q hI, ?_,
    ttl_act_reads fromStr settings s before after call h q hI⟩
  intro domain entry hentry
  rw [respond_clock]
  rcases respond_cache s q domain entry hentry with hold | rfl
  · obtain ⟨resolved, now, stored, hstored, hrest⟩ := hI.entries domain entry hold
    have hgrown := grown_record before after call h q ((s.respond q).1, s.clock)
    exact ⟨resolved, now, stored, storedBy_grown fromStr settings hgrown hstored, hrest⟩
  · obtain ⟨resolved, now, hstored, hentry⟩ :=
      ttl_act_stored fromStr settings s before after call h hI domain entry hallowed
    exact ⟨resolved, now, s.clock, hstored, hentry, le_refl s.clock⟩

end Step

theorem ttl_invariant (clock₀ : ℕ) (net : NetworkBackend) :
    Invariant (timedSystem fromStr settings) Set.univ ⟨clock₀, net, fun _ => none⟩
      (ttlContract fromStr settings) (Answered fromStr settings)
      (TtlInvariant fromStr settings) where
  init := by
    refine ⟨by simp, fun domain entry h => ?_, by simp⟩
    cases h
  spawn := by
    intro s rs call _ hI
    have hgrown := grown_spawn rs (call, [])
    refine ⟨?_, ?_, ?_⟩
    · apply List.forall_mem_append.mpr ⟨hI.times, List.forall_mem_singleton.mpr ?_⟩
      intro e he
      cases he
    · intro domain entry h
      obtain ⟨resolved, now, stored, hstored, hrest⟩ := hI.entries domain entry h
      exact ⟨resolved, now, stored, storedBy_grown fromStr settings hgrown hstored, hrest⟩
    · rw [List.forall_mem_append, List.forall_mem_singleton]
      refine ⟨?_, ?_⟩
      · intro r hr domain value t he
        exact served_grown fromStr settings hgrown (hI.reads r hr domain value t he)
      · intro domain value t he
        cases he
  body := by
    intro call _
    dsimp only [timedSystem]
    exact resolve_keeps_ttl fromStr settings call
  expects := by
    intro s before after call h q x s' _ _ hact
    obtain ⟨rfl, -⟩ := hact
    cases q with
    | now => rfl
    | get url => trivial
    | srv name => trivial
    | mx domain => trivial
    | cacheGet domain => trivial
    | cacheInsert domain entry => trivial
  act := by
    intro s before after call h q x s' hI hallowed hact
    obtain ⟨rfl, rfl⟩ := hact
    exact ttl_act fromStr settings s before after call h q hI hallowed
  drift := by
    intro s rs s' hI hdrift
    obtain ⟨hclock, hcache⟩ := hdrift
    refine ⟨fun r hr e he => (hI.times r hr e he).trans hclock, fun domain entry h => ?_, hI.reads⟩
    rw [hcache] at h
    obtain ⟨resolved, now, stored, hstored, hentry, hle⟩ := hI.entries domain entry h
    exact ⟨resolved, now, stored, hstored, hentry, hle.trans hclock⟩

/-- An answer is a refusal, the outcome of the call's own ladder, or a cached outcome of a
ladder of the same domain: read at a time `t`, found and stored at times `now ≤ stored ≤ t`,
and then `t` is less than its time to live after `now`. -/
def AnsweredInTime (rs : List ResolveRecord) (call : ResolveCall) (r : ResolveResult)
    (h : TimedHistory) : Prop :=
  (isPublicDomain (normaliseDomain call.domain) = false ∧
    r = .error (notPublic (normaliseDomain call.domain))) ∨
  (∃ resolved now stored,
    StoredOutcome fromStr settings (normaliseDomain call.domain) call.email resolved now stored h ∧
      r = okOrMiss (normaliseDomain call.domain) (ladderValue resolved)) ∨
  ∃ resolved now stored t, ReadBack (normaliseDomain call.domain) (ladderValue resolved) t h ∧
    r = okOrMiss (normaliseDomain call.domain) (ladderValue resolved) ∧
    StoredBy fromStr settings rs (normaliseDomain call.domain) resolved now stored ∧
    stored ≤ t ∧ t < now + outcomeTtl settings resolved

theorem served_within_ttl (clock₀ : ℕ) (net : NetworkBackend)
    (c : Config ResolveCall TimedHistory ResolverOp TimedAnswer ResolveResult ResolverState)
    (hreach : Reachable (timedSystem fromStr settings) Set.univ ⟨clock₀, net, fun _ => none⟩ c)
    (call : ResolveCall) (h : TimedHistory) (r : ResolveResult)
    (hreturned : ⟨call, h, .ret r⟩ ∈ c.threads) :
    AnsweredInTime fromStr settings c.records call r h := by
  have hinvariant := ttl_invariant fromStr settings clock₀ net
  have hanswered := reachable_post _ _ _ _ _ _ hinvariant c hreach call h r hreturned
  rcases hanswered with ⟨hpublic, hr⟩ | ⟨resolved, now, stored, hstored, hr⟩ | ⟨value, t, hread, hr⟩
  · exact Or.inl ⟨hpublic, hr⟩
  · exact Or.inr (Or.inl ⟨resolved, now, stored, hstored, hr⟩)
  · have hI := (reachable_keeps _ _ _ _ _ _ hinvariant c hreach).1
    have hrecord : (call, h) ∈ c.records := List.mem_map.mpr ⟨_, hreturned, rfl⟩
    have hhit : ⟨.cacheGet (normaliseDomain call.domain), (some value, t)⟩ ∈ h := by
      rw [hread]
      exact List.mem_singleton_self _
    obtain ⟨resolved, now, stored, hstored, rfl, hle, hlt⟩ :=
      hI.reads (call, h) hrecord _ value t hhit
    exact Or.inr (Or.inr ⟨resolved, now, stored, t, hread, hr, hstored, hle, hlt⟩)

end Runs

def ResolverState.timedRespond (s : ResolverState) (q : ResolverOp) :
    TimedAnswer q × ResolverState :=
  (((s.respond q).1, s.clock), (s.respond q).2)

/-- The same call twice: the second one reads back the miss that the first one stored. -/
theorem plain_after_plain :
    ∃ c h, Reachable (timedSystem vipReader vipSettings) Set.univ ⟨0, vipNetwork, fun _ => none⟩ c ∧
      ⟨plainCall, h, .ret (.error (autoconfigMiss "example.com"))⟩ ∈ c.threads := by
  have hrespond : ∀ s q, (timedSystem vipReader vipSettings).act s q
      (s.timedRespond q).1 (s.timedRespond q).2 := fun s q => ⟨rfl, rfl⟩
  obtain ⟨_, hfirst⟩ := reachable_call ResolverState.timedRespond _ Set.univ _ hrespond []
    plainCall trivial _ (Reachable.init : Reachable (timedSystem vipReader vipSettings) Set.univ
      ⟨0, vipNetwork, fun _ => none⟩ _)
  obtain ⟨h, hsecond⟩ := reachable_call ResolverState.timedRespond _ Set.univ _ hrespond _
    plainCall trivial _ hfirst
  refine ⟨_, h, hsecond, List.mem_append_right _ (List.mem_singleton.mpr ?_)⟩
  rfl

theorem plain_answered_in_time :
    ∃ (c : Config ResolveCall TimedHistory ResolverOp TimedAnswer ResolveResult ResolverState)
      (h : TimedHistory),
      Reachable (timedSystem vipReader vipSettings) Set.univ ⟨0, vipNetwork, fun _ => none⟩ c ∧
        ⟨plainCall, h, .ret (.error (autoconfigMiss "example.com"))⟩ ∈ c.threads ∧
        AnsweredInTime vipReader vipSettings c.records plainCall
          (.error (autoconfigMiss "example.com")) h := by
  obtain ⟨c, h, hreach, hreturned⟩ := plain_after_plain
  exact ⟨c, h, hreach, hreturned,
    served_within_ttl vipReader vipSettings 0 vipNetwork c hreach plainCall h _ hreturned⟩

end Overfwd
