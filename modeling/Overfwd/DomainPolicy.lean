import Overfwd.Autoconfig

namespace Overfwd

open Text Dialogue

/-- A fetch is for the caller's domain, or without an address for an exchanger's domain,
and that domain is public. -/
def PublicFetch (domain : String) (email : Option String) : ResolverOp → Prop
  | .get url => ∃ d e, isPublicDomain d = true ∧ url ∈ httpConfigUrls d e ∧
      ((d = domain ∧ e = email) ∨ ∃ exchanger, d = registrableDomain exchanger ∧ e = none)
  | _ => True

/-- A question to the network rather than to the cache or the clock. -/
def ResolverOp.IsNetwork : ResolverOp → Prop
  | .get _ | .srv _ | .mx _ => True
  | _ => False

/-- What a ladder may ask. -/
def LadderQuestion (domain : String) (email : Option String) (q : ResolverOp) : Prop :=
  PublicFetch domain email q ∧ q.IsNetwork

theorem httpLadderFrom_asks {P : ResolverOp → Prop} (fromStr : XmlReader) (urls : List String)
    (hurls : ∀ url ∈ urls, P (.get url)) (acc : MailServers) :
    AsksOnly P (httpLadderFrom fromStr acc urls) := by
  induction urls generalizing acc with
  | nil => exact asksOnly_pure acc
  | cons url urls ih =>
    have hrest := ih fun u hu => hurls u (by simp [hu])
    unfold httpLadderFrom
    by_cases hcomplete : acc.isComplete = true
    · rw [if_pos hcomplete]
      exact asksOnly_pure acc
    · rw [if_neg hcomplete]
      apply asksOnly_bind (asksOnly_call (hurls url (by simp)))
      intro answer
      rcases answer with e | (_ | body)
      · exact hrest acc
      · exact hrest acc
      · dsimp only
        rcases parseAutoconfig fromStr body with _ | found
        · exact hrest acc
        · exact hrest (acc.mergeFrom found)

theorem srvLookup_asks {P : ResolverOp → Prop} (hsrv : ∀ name, P (.srv name)) (domain : String) :
    AsksOnly P (srvLookup domain) := by
  have hside (implicitTls starttls : String) :
      AsksOnly P (srvSide implicitTls starttls domain) := by
    apply asksOnly_bind (asksOnly_call (hsrv _))
    intro records
    rcases records.head? with _ | r
    · exact asksOnly_bind (asksOnly_call (hsrv _)) fun records => asksOnly_pure _
    · exact asksOnly_pure _
  apply asksOnly_bind (hside _ _)
  intro imap
  exact asksOnly_bind (hside _ _) fun smtp => asksOnly_pure _

theorem mxAutoconfig_asks (fromStr : XmlReader) (domain : String) (email : Option String) :
    AsksOnly (LadderQuestion domain email) (mxAutoconfig fromStr domain) := by
  apply asksOnly_bind (asksOnly_call ⟨trivial, trivial⟩)
  intro exchangers
  rcases exchangers.head? with _ | exchanger
  · exact asksOnly_pure _
  · dsimp only
    by_cases hskip : skipsExchanger domain (registrableDomain exchanger) = true
    · rw [if_pos hskip]
      exact asksOnly_pure _
    · rw [if_neg hskip]
      simp only [skipsExchanger, Bool.or_eq_true, Bool.not_eq_true', not_or,
        Bool.not_eq_false] at hskip
      -- An exchanger's domain gets this far only when it is public.
      apply httpLadderFrom_asks
      intro url hurl
      exact ⟨⟨_, none, hskip.2, hurl, Or.inr ⟨exchanger, rfl, rfl⟩⟩, trivial⟩

theorem rung_asks {P : ResolverOp → Prop} (acc : MailServers) (next : ResolverProg MailServers)
    (h : AsksOnly P next) : AsksOnly P (rung acc next) := by
  unfold rung
  by_cases hcomplete : acc.isComplete = true
  · rw [if_pos hcomplete]
    exact asksOnly_pure acc
  · rw [if_neg hcomplete]
    exact asksOnly_bind h fun found => asksOnly_pure _

theorem runLadder_asks (fromStr : XmlReader) (domain : String) (email : Option String)
    (hpublic : isPublicDomain domain = true) :
    AsksOnly (LadderQuestion domain email) (runLadder fromStr domain email) := by
  have hhttp : AsksOnly (LadderQuestion domain email)
      (httpLadder fromStr (httpConfigUrls domain email)) := by
    apply httpLadderFrom_asks
    intro url hurl
    exact ⟨⟨domain, email, hpublic, hurl, Or.inl ⟨rfl, rfl⟩⟩, trivial⟩
  apply asksOnly_bind hhttp
  intro http
  apply asksOnly_bind (rung_asks _ _ (srvLookup_asks (fun name => ⟨trivial, trivial⟩) domain))
  intro acc
  exact rung_asks acc _ (mxAutoconfig_asks fromStr domain email)

/-- Whatever the network, the clock and the cache answer, at any time. -/
theorem resolve_asks (fromStr : XmlReader) (settings : AutoconfigSettings) (domain : String)
    (email : Option String) :
    AsksOnly (PublicFetch (normaliseDomain domain) email)
      (resolve fromStr settings domain email) := by
  rcases hpublic : isPublicDomain (normaliseDomain domain) with _ | _
  · rw [resolve_of_not_public _ _ _ _ hpublic]
    exact asksOnly_pure _
  · rw [resolve_of_public _ _ _ _ hpublic]
    have hladder := asksOnly_mono (runLadder_asks fromStr _ email hpublic) fun q => And.left
    apply asksOnly_bind (asksOnly_call trivial)
    intro hit
    rcases hit with _ | value
    · apply asksOnly_bind hladder
      intro resolved
      apply asksOnly_bind
      · exact asksOnly_bind (asksOnly_call trivial) fun now => asksOnly_call trivial
      · intro stored
        exact asksOnly_pure _
    · exact asksOnly_pure _

/-- A public domain reads as an IPv4 address exactly when it is a numeric host, and the
ladder puts no other hosts than public domains into its URLs. -/
theorem public_domain_ipv4_iff (fromStr : XmlReader) (settings : AutoconfigSettings)
    (domain : String) (email : Option String) :
    ((isPublicDomain domain = true → Url.ipv4Numbers domain = none) ↔
      ¬ ∃ labels, NumericHost domain labels) ∧
    AsksOnly (PublicFetch (normaliseDomain domain) email)
      (resolve fromStr settings domain email) := by
  refine ⟨?_, resolve_asks fromStr settings domain email⟩
  constructor
  · intro hsafe hnumeric
    obtain ⟨labels, hlabels⟩ := hnumeric
    obtain ⟨hpublic, hnumbers⟩ := accepted_of_numericHost domain labels hlabels
    exact hnumbers (hsafe hpublic)
  · intro hnumeric hpublic
    rcases hnumbers : Url.ipv4Numbers domain with _ | numbers
    · rfl
    · exact absurd ⟨_, numericHost_of_accepted domain numbers hpublic hnumbers⟩ hnumeric

/-- An empty cache and a network that publishes nothing. -/
def silentNetwork : (q : ResolverOp) → q.Answer
  | .get _ => .ok none
  | .srv _ => []
  | .mx _ => []
  | .cacheGet _ => none
  | .now => 0
  | .cacheInsert _ _ => ()

/-- `127.1` is accepted, reads as 127.0.0.1, and is fetched from. -/
theorem loopback_spelling_is_public :
    (isPublicDomain "127.1" = true ∧
      (Url.ipv4Numbers "127.1").bind Url.ipv4Value = some (127*256^3 + 1) ∧
      .get "https://127.1/.well-known/autoconfig/mail/config-v1.1.xml" ∈
        (resolve (fun _ => none) ⟨3600, 300⟩ "127.1" none).asked silentNetwork) ∧
    ¬ ∀ domain, isPublicDomain domain = true → Url.ipv4Numbers domain = none := by
  have hpublic : isPublicDomain "127.1" = true := by decide
  refine ⟨⟨hpublic, by decide, by decide⟩, fun hall => ?_⟩
  exact absurd (hall "127.1" hpublic) (by decide)

end Overfwd
