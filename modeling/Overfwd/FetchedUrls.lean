import Overfwd.DomainPolicy
import Overfwd.Lib.History

/-! Which URLs a resolver fetches. The authority and the path of each of them are made of
one public domain; the mailbox address stands behind the `?` of the first two URLs of the
caller's own domain, where a `#` in it begins the fragment. -/
namespace Overfwd

open Text Dialogue

section Addresses

/-- The characters of a public domain: none of them delimits a part of a URL. -/
theorem public_domain_chars (d : String) (h : isPublicDomain d = true) (c : Char)
    (hc : c ∈ d.toList) : c.isAlphanum = true ∨ c = '-' ∨ c = '.' := by
  obtain ⟨-, -, -, -, -, hlabels⟩ := (isPublicDomain_iff d).mp h
  obtain ⟨k, hk⟩ := trimEnd_spec d
  rw [hk, List.mem_append] at hc
  rcases hc with hc | hc
  · rw [← join_split '.' "." (trimEndMatches '.' d) rfl] at hc
    rcases mem_join "." _ c hc with hdot | ⟨label, hlabel, hmem⟩
    · exact Or.inr (Or.inr (by simpa using hdot))
    · have hchars := hlabels label hlabel
      simp only [isDnsLabel, Bool.and_eq_true, List.all_eq_true, Bool.or_eq_true,
        beq_iff_eq] at hchars
      rcases hchars.1.1.2 c hmem with halnum | hdash
      · exact Or.inl halnum
      · exact Or.inr (Or.inl hdash)
  · exact Or.inr (Or.inr (List.eq_of_mem_replicate hc))

theorem public_domain_plain (d : String) (h : isPublicDomain d = true) (c : Char)
    (hc : c ∈ d.toList) : c ≠ '/' ∧ c ≠ '?' ∧ c ≠ '#' := by
  rcases public_domain_chars d h c hc with halnum | rfl | rfl
  · refine ⟨?_, ?_, ?_⟩
    all_goals
      rintro rfl
      exact absurd halnum (by decide)
  · decide
  · decide

/-- An `https` address without query and fragment. -/
def httpsParts (authority path : String) : Url.Parts :=
  { scheme := some "https", authority := some authority, path := path, query := none,
    fragment := none }

def providerParts (d : String) : Url.Parts :=
  httpsParts ("autoconfig." ++ d) "/mail/config-v1.1.xml"

def wellKnownParts (d : String) : Url.Parts :=
  httpsParts d "/.well-known/autoconfig/mail/config-v1.1.xml"

def ispdbParts (d : String) : Url.Parts :=
  httpsParts "autoconfig.thunderbird.net" ("/v1.1/" ++ d)

theorem parts_plain (authority path : String)
    (hauthority : ∀ c ∈ authority.toList, c ≠ '/' ∧ c ≠ '?' ∧ c ≠ '#')
    (hroot : path.toList.head? = some '/')
    (hpath : ∀ c ∈ path.toList, c ≠ '?' ∧ c ≠ '#') :
    Url.parts ("https://" ++ authority ++ path) = httpsParts authority path ∧
      ∀ c ∈ ("https://" ++ authority ++ path).toList, c ≠ '?' ∧ c ≠ '#' := by
  have hplain : ∀ c ∈ (authority ++ path).toList, c ≠ '?' ∧ c ≠ '#' := by
    intro c hc
    rw [String.toList_append, List.mem_append] at hc
    rcases hc with hc | hc
    · exact (hauthority c hc).2
    · exact hpath c hc
  exact ⟨Url.parts_of_hierarchy authority path (fun h => (hauthority _ h).1 rfl) hroot hplain,
    Url.https_plain authority path hplain⟩

/-- The address as it is passed, cut at its first `#`. -/
def addressCut (email : Option String) : Option (String × Option String) :=
  (email.filter (contains '@')).map (Url.breakAt '#')

theorem parts_emailQuery (base : String) (p : Url.Parts) (email : Option String)
    (hbase : Url.parts base = p) (hchars : ∀ c ∈ base.toList, c ≠ '?' ∧ c ≠ '#')
    (hquery : p.query = none) (hfragment : p.fragment = none) :
    Url.parts (base ++ emailQuery email) =
      { p with
        query := (addressCut email).map fun cut => "emailaddress=" ++ cut.1,
        fragment := (addressCut email).bind Prod.snd } := by
  unfold emailQuery addressCut
  rcases email.filter (contains '@') with _ | e
  · dsimp only
    rw [String.append_empty, hbase, Option.map_none, Option.map_none, Option.bind_none]
    obtain ⟨scheme, authority, path, query, fragment⟩ := p
    cases hquery
    cases hfragment
    rfl
  · dsimp only
    have hspelled : base ++ ("?emailaddress=" ++ e) = base ++ "?" ++ ("emailaddress=" ++ e) := by
      apply String.toList_injective
      simp
    rw [hspelled, Url.parts_query base _ hchars, hbase,
      Url.breakAt_initial '#' "emailaddress=" e (by decide)]
    rfl

theorem parts_providerUrl (d : String) (hd : isPublicDomain d = true) (email : Option String) :
    Url.parts (providerUrl d email) =
      { providerParts d with
        query := (addressCut email).map fun cut => "emailaddress=" ++ cut.1,
        fragment := (addressCut email).bind Prod.snd } := by
  have hauthority : ∀ c ∈ ("autoconfig." ++ d).toList, c ≠ '/' ∧ c ≠ '?' ∧ c ≠ '#' := by
    intro c hc
    rw [String.toList_append, List.mem_append] at hc
    rcases hc with hc | hc
    · revert c
      exact forall_mem_toList _ (by decide)
    · exact public_domain_plain d hd c hc
  have hplain := parts_plain ("autoconfig." ++ d) "/mail/config-v1.1.xml" hauthority rfl
    (forall_mem_toList _ (by decide))
  have hspelled : providerUrl d email =
      "https://" ++ ("autoconfig." ++ d) ++ "/mail/config-v1.1.xml" ++ emailQuery email := by
    have hhost : "https://autoconfig." = "https://" ++ "autoconfig." := by decide
    rw [← String.append_assoc, ← hhost]
    rfl
  rw [hspelled]
  exact parts_emailQuery _ _ email hplain.1 hplain.2 rfl rfl

theorem parts_wellKnownUrl (d : String) (hd : isPublicDomain d = true) (email : Option String) :
    Url.parts (wellKnownUrl d email) =
      { wellKnownParts d with
        query := (addressCut email).map fun cut => "emailaddress=" ++ cut.1,
        fragment := (addressCut email).bind Prod.snd } := by
  have hplain := parts_plain d "/.well-known/autoconfig/mail/config-v1.1.xml"
    (public_domain_plain d hd) rfl (forall_mem_toList _ (by decide))
  exact parts_emailQuery _ _ email hplain.1 hplain.2 rfl rfl

theorem parts_ispdbUrl (d : String) (hd : isPublicDomain d = true) :
    Url.parts (ispdbUrl d) = ispdbParts d := by
  have hpath : ∀ c ∈ ("/v1.1/" ++ d).toList, c ≠ '?' ∧ c ≠ '#' := by
    intro c hc
    rw [String.toList_append, List.mem_append] at hc
    rcases hc with hc | hc
    · revert c
      exact forall_mem_toList _ (by decide)
    · exact (public_domain_plain d hd c hc).2
  have hroot : ("/v1.1/" ++ d).toList.head? = some '/' := by
    rw [String.toList_append]
    rfl
  have hplain := parts_plain "autoconfig.thunderbird.net" ("/v1.1/" ++ d)
    (forall_mem_toList _ (by decide)) hroot hpath
  have hspelled : ispdbUrl d = "https://" ++ "autoconfig.thunderbird.net" ++ ("/v1.1/" ++ d) := by
    have hbase : ISPDB_BASE ++ "/" = "https://" ++ "autoconfig.thunderbird.net" ++ "/v1.1/" := by
      decide
    rw [ispdbUrl, hbase, String.append_assoc]
  rw [hspelled]
  exact hplain.1

end Addresses

section Fetches

abbrev ResolverHistory := List (Exchange ResolverOp ResolverOp.Answer)

def ResolverOp.url? : ResolverOp → Option String
  | .get url => some url
  | _ => none

/-- The URLs fetched in a history, in order. -/
def fetches (h : ResolverHistory) : List String := h.filterMap fun e => e.1.url?

/-- The two URLs that carry the mailbox address. -/
def ownUrls (domain : String) (email : Option String) : List String :=
  [providerUrl domain email, wellKnownUrl domain email]

/-- The URLs of the first exchanger's provider, unless it is passed over. -/
def exchangerUrls (domain : String) (exchangers : List String) : List String :=
  match exchangers.head? with
  | none => []
  | some exchanger =>
    if skipsExchanger domain (registrableDomain exchanger) then []
    else httpConfigUrls (registrableDomain exchanger) none

/-- The URLs of other parties than the caller's domain. -/
def thirdPartyUrls (domain : String) (exchangers : List String) : List String :=
  ispdbUrl domain :: exchangerUrls domain exchangers

theorem fetches_append (h h' : ResolverHistory) : fetches (h ++ h') = fetches h ++ fetches h' :=
  List.filterMap_append

theorem fetches_of_no_get {h : ResolverHistory} (hno : ∀ e ∈ h, e.1.url? = none) :
    fetches h = [] :=
  List.filterMap_eq_nil_iff.mpr hno

/-- The loop fetches a first part of its list. -/
theorem fetches_httpLadderFrom (fromStr : XmlReader) (urls : List String) (acc : MailServers)
    (h : ResolverHistory) (r : MailServers) (hplays : Plays (httpLadderFrom fromStr acc urls) h r) :
    fetches h <+: urls := by
  induction urls generalizing acc h with
  | nil =>
    obtain ⟨rfl, -⟩ := (plays_pure _ _).mp hplays
    exact List.prefix_refl []
  | cons url urls ih =>
    unfold httpLadderFrom at hplays
    split_ifs at hplays with hcomplete
    · obtain ⟨rfl, -⟩ := (plays_pure _ _).mp hplays
      exact List.nil_prefix
    · obtain ⟨h₁, answer, h₂, hget, hrest, rfl⟩ := (plays_bind _ _ _).mp hplays
      obtain rfl := (plays_call _ _).mp hget
      have htail : fetches h₂ <+: urls := by
        rcases answer with e | (_ | body)
        · exact ih acc h₂ hrest
        · exact ih acc h₂ hrest
        · dsimp only at hrest
          rcases hparse : parseAutoconfig fromStr body with _ | found
          · rw [hparse] at hrest
            exact ih acc h₂ hrest
          · rw [hparse] at hrest
            exact ih (acc.mergeFrom found) h₂ hrest
      rw [fetches_append]
      exact List.cons_prefix_cons.mpr ⟨rfl, htail⟩

theorem fetches_srvLookup (domain : String) (h : ResolverHistory) (r : MailServers)
    (hplays : Plays (srvLookup domain) h r) : fetches h = [] := by
  have hasks := srvLookup_asks (P := fun q => q.url? = none) (fun name => rfl) domain
  exact fetches_of_no_get (asksOnly_plays hasks hplays)

theorem fetches_mxAutoconfig (fromStr : XmlReader) (domain : String) (h : ResolverHistory)
    (r : MailServers) (hplays : Plays (mxAutoconfig fromStr domain) h r) :
    ∃ exchangers, ⟨.mx domain, exchangers⟩ ∈ h ∧
      fetches h <+: exchangerUrls domain exchangers := by
  unfold mxAutoconfig at hplays
  obtain ⟨h₁, exchangers, h₂, hmx, hrest, rfl⟩ := (plays_bind _ _ _).mp hplays
  obtain rfl := (plays_call _ _).mp hmx
  refine ⟨exchangers, by simp, ?_⟩
  have hfetches : fetches ([⟨.mx domain, exchangers⟩] ++ h₂) = fetches h₂ := fetches_append _ _
  rw [hfetches]
  unfold exchangerUrls
  rcases hfirst : exchangers.head? with _ | exchanger
  · rw [hfirst] at hrest
    obtain ⟨rfl, -⟩ := (plays_pure _ _).mp hrest
    exact List.nil_prefix
  · rw [hfirst] at hrest
    dsimp only at hrest ⊢
    split_ifs at hrest ⊢ with hskip
    · obtain ⟨rfl, -⟩ := (plays_pure _ _).mp hrest
      exact List.nil_prefix
    · exact fetches_httpLadderFrom fromStr _ _ h₂ r hrest

theorem plays_rung (acc : MailServers) (next : ResolverProg MailServers) (h : ResolverHistory)
    (r : MailServers) (hplays : Plays (rung acc next) h r) : h = [] ∨ ∃ found, Plays next h found := by
  unfold rung at hplays
  split_ifs at hplays with hcomplete
  · exact Or.inl ((plays_pure _ _).mp hplays).1
  · obtain ⟨h₁, found, h₂, hnext, hmerge, rfl⟩ := (plays_bind _ _ _).mp hplays
    obtain ⟨rfl, -⟩ := (plays_pure _ _).mp hmerge
    rw [List.append_nil]
    exact Or.inr ⟨found, hnext⟩

/-- A ladder fetches from one list, in its order; only its first two URLs depend on the
address. -/
theorem fetches_runLadder (fromStr : XmlReader) (domain : String) (email : Option String)
    (h : ResolverHistory) (r : MailServers) (hplays : Plays (runLadder fromStr domain email) h r) :
    ∃ exchangers, (⟨.mx domain, exchangers⟩ ∈ h ∨ exchangers = []) ∧
      (fetches h).Sublist (ownUrls domain email ++ thirdPartyUrls domain exchangers) := by
  unfold runLadder at hplays
  obtain ⟨h₁, http, h', hhttp, hrest, rfl⟩ := (plays_bind _ _ _).mp hplays
  obtain ⟨h₂, acc, h₃, hsrv, hmx, rfl⟩ := (plays_bind _ _ _).mp hrest
  have hown : fetches h₁ <+: httpConfigUrls domain email :=
    fetches_httpLadderFrom fromStr _ _ h₁ http hhttp
  have hnone : fetches h₂ = [] := by
    rcases plays_rung _ _ h₂ acc hsrv with rfl | ⟨found, hfound⟩
    · rfl
    · exact fetches_srvLookup domain h₂ found hfound
  have hlist (exchangers : List String) : ownUrls domain email ++ thirdPartyUrls domain exchangers =
      httpConfigUrls domain email ++ exchangerUrls domain exchangers := rfl
  rcases plays_rung _ _ h₃ r hmx with rfl | ⟨found, hfound⟩
  · refine ⟨[], Or.inr rfl, ?_⟩
    rw [List.append_nil, fetches_append, hnone, hlist]
    exact hown.sublist.append (List.nil_sublist _)
  · obtain ⟨exchangers, hmem, hthird⟩ := fetches_mxAutoconfig fromStr domain h₃ found hfound
    refine ⟨exchangers, Or.inl (by simp [hmem]), ?_⟩
    rw [fetches_append, fetches_append, hnone, List.nil_append, hlist]
    exact hown.sublist.append hthird.sublist

theorem fetches_resolve (fromStr : XmlReader) (settings : AutoconfigSettings) (domain : String)
    (email : Option String) (h : ResolverHistory) (r : Except GatewayError MailServers)
    (hpublic : isPublicDomain (normaliseDomain domain) = true)
    (hplays : Plays (resolve fromStr settings domain email) h r) :
    ∃ exchangers, (⟨.mx (normaliseDomain domain), exchangers⟩ ∈ h ∨ exchangers = []) ∧
      (fetches h).Sublist (ownUrls (normaliseDomain domain) email ++
        thirdPartyUrls (normaliseDomain domain) exchangers) := by
  rw [resolve_of_public _ _ _ _ hpublic] at hplays
  unfold resolveCached at hplays
  obtain ⟨h₁, hit, h', hget, hrest, rfl⟩ := (plays_bind _ _ _).mp hplays
  obtain rfl := (plays_call _ _).mp hget
  rcases hit with _ | hit
  · obtain ⟨h₂, resolved, h₃, hladder, hput, rfl⟩ := (plays_bind _ _ _).mp hrest
    obtain ⟨exchangers, hmem, hsublist⟩ := fetches_runLadder fromStr _ email h₂ resolved hladder
    have hstores : AsksOnly (fun q => q.url? = none) (do
        cachePut settings (normaliseDomain domain) (ladderValue resolved)
        pure (okOrMiss (normaliseDomain domain) (ladderValue resolved))) := by
      apply asksOnly_bind
      · exact asksOnly_bind (asksOnly_call rfl) fun now => asksOnly_call rfl
      · exact fun stored => asksOnly_pure _
    have hnone : fetches h₃ = [] := fetches_of_no_get (asksOnly_plays hstores hput)
    refine ⟨exchangers, hmem.imp (fun hmx => by simp [hmx]) id, ?_⟩
    rw [fetches_append, fetches_append, hnone, List.append_nil]
    exact hsublist
  · obtain ⟨rfl, -⟩ := (plays_pure _ _).mp hrest
    exact ⟨[], Or.inr rfl, List.nil_sublist _⟩

end Fetches

section Addressing

/-- `d` is the caller's domain or comes from the first exchanger, and is one public domain
without a character that delimits the parts of a URL. -/
structure Provider (h : ResolverHistory) (domain d : String) : Prop where
  origin : d = domain ∨ ∃ exchangers exchanger, ⟨.mx domain, exchangers⟩ ∈ h ∧
    exchangers.head? = some exchanger ∧ d = registrableDomain exchanger
  isPublic : isPublicDomain d = true
  plain : ∀ c ∈ d.toList, c.isAlphanum = true ∨ c = '-' ∨ c = '.'

/-- What a URL must be, seen through `view`: one of three addresses made of one provider,
with more behind them only in the caller's own first two URLs. -/
structure FetchesWithin (view : Url.Parts → Url.Parts) (domain : String) (email : Option String)
    (h : ResolverHistory) : Prop where
  refused : isPublicDomain domain = false → h = []
  order : ∃ exchangers, (⟨.mx domain, exchangers⟩ ∈ h ∨ exchangers = []) ∧
    (fetches h).Sublist (ownUrls domain email ++ thirdPartyUrls domain exchangers)
  addresses : ∀ url ∈ fetches h, ∃ d, Provider h domain d ∧
    ∃ p ∈ [providerParts d, wellKnownParts d, ispdbParts d], view (Url.parts url) = p ∧
      (Url.parts url = p ∨ url ∈ ownUrls domain email)

def withoutQuery (p : Url.Parts) : Url.Parts := { p with query := none }

def withoutTail (p : Url.Parts) : Url.Parts := { p with query := none, fragment := none }

theorem withoutTail_bare (p : Url.Parts) (hquery : p.query = none) (hfragment : p.fragment = none) :
    withoutTail p = p := by
  obtain ⟨scheme, authority, path, query, fragment⟩ := p
  cases hquery
  cases hfragment
  rfl

/-- None of the three addresses has a query or a fragment of its own. -/
theorem provider_bare (d : String) (p : Url.Parts)
    (hp : p ∈ [providerParts d, wellKnownParts d, ispdbParts d]) :
    p.query = none ∧ p.fragment = none := by
  simp only [List.mem_cons, List.not_mem_nil, or_false] at hp
  rcases hp with rfl | rfl | rfl
  · exact ⟨rfl, rfl⟩
  · exact ⟨rfl, rfl⟩
  · exact ⟨rfl, rfl⟩

theorem thirdParty_parts (domain : String) (h : ResolverHistory) (exchangers : List String)
    (hpublic : isPublicDomain domain = true)
    (hmx : ⟨.mx domain, exchangers⟩ ∈ h ∨ exchangers = []) (url : String)
    (hurl : url ∈ thirdPartyUrls domain exchangers) :
    ∃ d, Provider h domain d ∧ ∃ p ∈ [providerParts d, wellKnownParts d, ispdbParts d],
      Url.parts url = p ∧ p.query = none ∧ p.fragment = none := by
  rcases List.mem_cons.mp hurl with rfl | hexchanger
  · exact ⟨domain, ⟨Or.inl rfl, hpublic, public_domain_chars domain hpublic⟩,
      ispdbParts domain, by simp, parts_ispdbUrl domain hpublic, rfl, rfl⟩
  · unfold exchangerUrls at hexchanger
    rcases hhead : exchangers.head? with _ | exchanger
    · rw [hhead] at hexchanger
      cases hexchanger
    · rw [hhead] at hexchanger
      dsimp only at hexchanger
      split_ifs at hexchanger with hskip
      · cases hexchanger
      · simp only [skipsExchanger, Bool.or_eq_true, Bool.not_eq_true', not_or,
          Bool.not_eq_false] at hskip
        have hmem : ⟨.mx domain, exchangers⟩ ∈ h := by
          rcases hmx with hmem | rfl
          · exact hmem
          · cases hhead
        have hprovider : Provider h domain (registrableDomain exchanger) :=
          ⟨Or.inr ⟨exchangers, exchanger, hmem, hhead, rfl⟩, hskip.2,
            public_domain_chars _ hskip.2⟩
        refine ⟨registrableDomain exchanger, hprovider, ?_⟩
        simp only [httpConfigUrls, List.mem_cons, List.not_mem_nil, or_false] at hexchanger
        rcases hexchanger with rfl | rfl | rfl
        · exact ⟨providerParts _, by simp, parts_providerUrl _ hskip.2 none, rfl, rfl⟩
        · exact ⟨wellKnownParts _, by simp, parts_wellKnownUrl _ hskip.2 none, rfl, rfl⟩
        · exact ⟨ispdbParts _, by simp, parts_ispdbUrl _ hskip.2, rfl, rfl⟩

theorem own_parts (domain : String) (email : Option String) (hpublic : isPublicDomain domain = true)
    (url : String) (hurl : url ∈ ownUrls domain email) :
    ∃ p ∈ [providerParts domain, wellKnownParts domain, ispdbParts domain],
      Url.parts url = { p with
        query := (addressCut email).map fun cut => "emailaddress=" ++ cut.1,
        fragment := (addressCut email).bind Prod.snd } := by
  rcases List.mem_cons.mp hurl with rfl | hsecond
  · exact ⟨providerParts domain, by simp, parts_providerUrl domain hpublic email⟩
  · obtain rfl := List.mem_singleton.mp hsecond
    exact ⟨wellKnownParts domain, by simp, parts_wellKnownUrl domain hpublic email⟩

/-- In every run, for a view that hides what the address adds to the first two URLs. -/
theorem fetches_within (fromStr : XmlReader) (settings : AutoconfigSettings) (domain : String)
    (email : Option String) (view : Url.Parts → Url.Parts)
    (hplain : ∀ p : Url.Parts, p.query = none → p.fragment = none → view p = p)
    (hown : isPublicDomain (normaliseDomain domain) = true →
      ∀ p, view { p with
        query := (addressCut email).map fun cut => "emailaddress=" ++ cut.1,
        fragment := (addressCut email).bind Prod.snd } = withoutTail p)
    (h : ResolverHistory) (r : Except GatewayError MailServers)
    (hplays : Plays (resolve fromStr settings domain email) h r) :
    FetchesWithin view (normaliseDomain domain) email h := by
  rcases hpublic : isPublicDomain (normaliseDomain domain) with _ | _
  · rw [resolve_of_not_public _ _ _ _ hpublic] at hplays
    obtain ⟨rfl, -⟩ := (plays_pure _ _).mp hplays
    exact ⟨fun _ => rfl, ⟨[], Or.inr rfl, List.nil_sublist _⟩, fun url hurl => by cases hurl⟩
  · obtain ⟨exchangers, hmx, hsublist⟩ :=
      fetches_resolve fromStr settings domain email h r hpublic hplays
    refine ⟨fun hrefused => ?_, ⟨exchangers, hmx, hsublist⟩, fun url hurl => ?_⟩
    · rw [hpublic] at hrefused
      cases hrefused
    · -- The caller's own URLs carry the address, which the view hides; the others carry none.
      rcases List.mem_append.mp (hsublist.subset hurl) with hfirst | hthird
      · obtain ⟨p, hp, hparts⟩ := own_parts _ email hpublic url hfirst
        refine ⟨_, ⟨Or.inl rfl, hpublic, public_domain_chars _ hpublic⟩, p, hp, ?_, Or.inr hfirst⟩
        obtain ⟨hquery, hfragment⟩ := provider_bare _ p hp
        rw [hparts, hown hpublic, withoutTail_bare p hquery hfragment]
      · obtain ⟨d, hprovider, p, hp, hparts, hquery, hfragment⟩ :=
          thirdParty_parts _ h exchangers hpublic hmx url hthird
        refine ⟨d, hprovider, p, hp, ?_, Or.inl hparts⟩
        rw [hparts]
        exact hplain p hquery hfragment

/-- The address stays out of the fragment when no address with a `#` is passed. -/
def AddressFitsQuery (domain : String) (email : Option String) : Prop :=
  isPublicDomain domain = true → ∀ e, email = some e → contains '@' e = true → contains '#' e = false

theorem addressCut_fragment (email : Option String) :
    (addressCut email).bind Prod.snd = none ↔
      ∀ e, email = some e → contains '@' e = true → contains '#' e = false := by
  unfold addressCut
  rcases email with _ | e
  · simp
  · rcases hat : contains '@' e with _ | _
    · simp [hat]
    · rcases hhash : contains '#' e with _ | _
      · have hmem : '#' ∉ e.toList := by simpa [contains] using hhash
        simp [hat, hhash, Url.breakAt_of_not_mem '#' e hmem]
      · have hmem : '#' ∈ e.toList := by simpa [contains] using hhash
        obtain ⟨front, sep, back, hfront, hsep, hcut⟩ := Url.exists_cut '#' e hmem
        have hbreak : Url.breakAt '#' e = (front, some back) := by
          rw [hcut]
          exact Url.breakAt_append '#' front sep back hfront hsep
        simp [hat, hhash, hbreak]

/-- A ladder begins with the provider's own URL. -/
theorem first_fetch (fromStr : XmlReader) (settings : AutoconfigSettings) (domain : String)
    (email : Option String) (hpublic : isPublicDomain (normaliseDomain domain) = true) :
    .get (providerUrl (normaliseDomain domain) email) ∈
      (resolve fromStr settings domain email).asked silentNetwork := by
  rw [resolve_of_public _ _ _ _ hpublic]
  unfold resolveCached cacheGet
  rw [asked_bind, run_call]
  apply List.mem_append_right
  dsimp only [silentNetwork]
  rw [asked_bind]
  apply List.mem_append_left
  unfold runLadder httpLadder httpConfigUrls httpLadderFrom
  rw [asked_bind]
  apply List.mem_append_left
  rw [if_neg (by decide), asked_bind]
  apply List.mem_append_left
  exact List.mem_singleton_self _

theorem fits_of_within (fromStr : XmlReader) (settings : AutoconfigSettings) (domain : String)
    (email : Option String) :
    (∀ h r, Plays (resolve fromStr settings domain email) h r →
      FetchesWithin withoutQuery (normaliseDomain domain) email h) →
    AddressFitsQuery (normaliseDomain domain) email := by
  intro hall hpublic
  -- The silent network leads every ladder to its first URL.
  have hrun := hall _ _ (plays_run silentNetwork (resolve fromStr settings domain email))
  have hfetched : providerUrl (normaliseDomain domain) email ∈ fetches
      (((resolve fromStr settings domain email).asked silentNetwork).map
        fun q => ⟨q, silentNetwork q⟩) := by
    apply List.mem_filterMap.mpr
    exact ⟨_, List.mem_map.mpr ⟨_, first_fetch fromStr settings domain email hpublic, rfl⟩, rfl⟩
  obtain ⟨d, -, p, hp, hview, -⟩ := hrun.addresses _ hfetched
  have hnone : p.fragment = none := (provider_bare d p hp).2
  apply (addressCut_fragment email).mp
  rw [← hnone, ← hview, parts_providerUrl _ hpublic email]
  rfl

/-- The URLs of other parties are the same for all addresses: what the lookup of the
exchangers answers does not depend on the address. -/
theorem thirdParty_alike (fromStr : XmlReader) (settings : AutoconfigSettings) (domain : String)
    (answer : (q : ResolverOp) → q.Answer) (email : Option String) :
    (((resolve fromStr settings domain email).asked answer).filterMap ResolverOp.url?).Sublist
      (ownUrls (normaliseDomain domain) email ++
        thirdPartyUrls (normaliseDomain domain) (answer (.mx (normaliseDomain domain)))) := by
  have hplays := plays_run answer (resolve fromStr settings domain email)
  have hurls : ((resolve fromStr settings domain email).asked answer).filterMap ResolverOp.url? =
      fetches (((resolve fromStr settings domain email).asked answer).map
        fun q => ⟨q, answer q⟩) := by
    rw [fetches, List.filterMap_map]
    rfl
  rw [hurls]
  rcases hpublic : isPublicDomain (normaliseDomain domain) with _ | _
  · rw [resolve_of_not_public _ _ _ _ hpublic]
    exact List.nil_sublist _
  · obtain ⟨exchangers, hmx, hsublist⟩ :=
      fetches_resolve fromStr settings domain email _ _ hpublic hplays
    apply hsublist.trans
    apply List.Sublist.append (List.Sublist.refl _)
    rcases hmx with hmem | rfl
    · obtain ⟨q, -, hq⟩ := List.mem_map.mp hmem
      cases hq
      exact List.Sublist.refl _
    · exact (List.nil_sublist _).cons_cons _

/-- A URL of a run is `https` to `autoconfig.D`, `D` or the ISPDB for a public `D`, and the
address adds no more than a query, exactly when it has no `#` to begin a fragment with. In
every run it leaves the authority and the path alone, and the URLs of other parties are the
same for all addresses. -/
theorem fetched_urls_iff (fromStr : XmlReader) (settings : AutoconfigSettings) (domain : String)
    (email : Option String) :
    ((∀ h r, Plays (resolve fromStr settings domain email) h r →
        FetchesWithin withoutQuery (normaliseDomain domain) email h) ↔
      AddressFitsQuery (normaliseDomain domain) email) ∧
    (∀ h r, Plays (resolve fromStr settings domain email) h r →
      FetchesWithin withoutTail (normaliseDomain domain) email h) ∧
    ∀ answer, ∃ thirdParty, ∀ email',
      (((resolve fromStr settings domain email').asked answer).filterMap ResolverOp.url?).Sublist
        (ownUrls (normaliseDomain domain) email' ++ thirdParty) := by
  refine ⟨⟨?_, ?_⟩, ?_, ?_⟩
  · exact fits_of_within fromStr settings domain email
  · intro hfits
    apply fetches_within fromStr settings domain email withoutQuery
    · intro p hquery _
      obtain ⟨scheme, authority, path, query, fragment⟩ := p
      cases hquery
      rfl
    · intro hpublic p
      rw [(addressCut_fragment email).mpr (hfits hpublic)]
      rfl
  · apply fetches_within fromStr settings domain email withoutTail
    · exact withoutTail_bare
    · intro _ p
      rfl
  · intro answer
    exact ⟨_, fun email' => thirdParty_alike fromStr settings domain answer email'⟩

/-- `a#b@example.com` is an address whose end is not in the query. -/
theorem address_in_fragment :
    (.get (providerUrl "example.com" (some "a#b@example.com")) ∈
        (resolve (fun _ => none) ⟨3600, 300⟩ "example.com" (some "a#b@example.com")).asked
          silentNetwork ∧
      Url.parts (providerUrl "example.com" (some "a#b@example.com")) =
        { providerParts "example.com" with
          query := some "emailaddress=a", fragment := some "b@example.com" }) ∧
    ¬ ∀ h r, Plays (resolve (fun _ => none) ⟨3600, 300⟩ "example.com" (some "a#b@example.com")) h r →
      FetchesWithin withoutQuery "example.com" (some "a#b@example.com") h := by
  have hdomain : normaliseDomain "example.com" = "example.com" := by decide
  have hpublic : isPublicDomain "example.com" = true := by decide
  refine ⟨⟨?_, ?_⟩, fun hall => ?_⟩
  · have hfirst := first_fetch (fun _ => none) ⟨3600, 300⟩ "example.com" (some "a#b@example.com")
      (by rwa [hdomain])
    rwa [hdomain] at hfirst
  · rw [parts_providerUrl _ hpublic]
    decide
  · have hfits := fits_of_within (fun _ => none) ⟨3600, 300⟩ "example.com" (some "a#b@example.com")
    rw [hdomain] at hfits
    exact absurd (hfits hall hpublic _ rfl (by decide)) (by decide)

end Addressing

end Overfwd
