import Overfwd.Autoconfig

/-! The ladder stops as soon as both sides are known. It returns what a plain reference
returns that asks every rung and takes, for each side, the first rung that offers it. -/
namespace Overfwd

open Text Dialogue

section Documents

def XmlServer.isUsable (s : XmlServer) : Bool :=
  s.hostname.any (fun h => !isEmpty h) && s.port.isSome

def XmlServer.isSsl (s : XmlServer) : Bool := s.socketType.any fun t => eqIgnoreAsciiCase t "SSL"

/-- The endpoint an entry offers when it is usable. -/
def XmlServer.endpoint (s : XmlServer) : Option HostPort :=
  match s.hostname, s.port with
  | some host, some port => if isEmpty host then none else some { host := host, port := port }
  | _, _ => none

/-- The first usable entry of a kind with `SSL`, else the first usable one. -/
def documentSide (servers : List XmlServer) (kind : String) : Option HostPort :=
  let ofKind := servers.filter fun s => eqIgnoreAsciiCase s.kind kind
  (ofKind.findSome? fun s => if s.isSsl then s.endpoint else none).or
    (ofKind.findSome? XmlServer.endpoint)

theorem endpoint_of_usable (s : XmlServer) (h : s.isUsable = true) :
    ∃ host port, s.hostname = some host ∧ s.port = some port ∧
      s.endpoint = some { host := host, port := port } := by
  obtain ⟨kind, hostname, port, socketType⟩ := s
  simp only [XmlServer.isUsable, Bool.and_eq_true] at h
  obtain ⟨port, rfl⟩ := Option.isSome_iff_exists.mp h.2
  rcases hostname with _ | host
  · cases h.1
  · have hhost : isEmpty host = false := by simpa using h.1
    exact ⟨host, port, rfl, rfl, by simp [XmlServer.endpoint, hhost]⟩

theorem endpoint_of_not_usable (s : XmlServer) (h : s.isUsable = false) : s.endpoint = none := by
  obtain ⟨kind, hostname, port, socketType⟩ := s
  rcases hostname with _ | host
  · rfl
  · rcases port with _ | port
    · rfl
    · have hhost : isEmpty host = true := by simpa [XmlServer.isUsable] using h
      simp [XmlServer.endpoint, hhost]

/-- Usable entries first and the test after them, or both at once. -/
theorem find?_usable (test : XmlServer → Bool) (f : XmlServer → Option HostPort)
    (hf : ∀ s, s.isUsable = true → f s = s.endpoint) (l : List XmlServer) :
    ((l.filter XmlServer.isUsable).find? test).bind f =
      l.findSome? fun s => if test s then s.endpoint else none := by
  induction l with
  | nil => rfl
  | cons s l ih =>
    rcases husable : s.isUsable with _ | _
    · have hnone := endpoint_of_not_usable s husable
      rw [List.filter_cons_of_neg (by simp [husable]), ih, List.findSome?_cons, hnone]
      simp
    · obtain ⟨host, port, -, -, hendpoint⟩ := endpoint_of_usable s husable
      rw [List.filter_cons_of_pos husable]
      rcases htest : test s with _ | _
      · rw [List.find?_cons_of_neg (by simp [htest]), ih, List.findSome?_cons, htest]
        simp
      · rw [List.find?_cons_of_pos htest, Option.bind_some, hf s husable, hendpoint,
          List.findSome?_cons, htest, hendpoint]
        simp

/-- A usable entry always gives an endpoint, so the choice of the entry is the choice
of the endpoint. -/
theorem bind_or_usable (f : XmlServer → Option HostPort)
    (hf : ∀ s, s.isUsable = true → f s = s.endpoint) (l : List XmlServer)
    (test test' : XmlServer → Bool) :
    (((l.filter XmlServer.isUsable).find? test).or
        ((l.filter XmlServer.isUsable).find? test')).bind f =
      (((l.filter XmlServer.isUsable).find? test).bind f).or
        (((l.filter XmlServer.isUsable).find? test').bind f) := by
  rcases hfound : (l.filter XmlServer.isUsable).find? test with _ | s
  · rfl
  · have husable := (List.mem_filter.mp (List.mem_of_find?_eq_some hfound)).2
    obtain ⟨host, port, -, -, hendpoint⟩ := endpoint_of_usable s husable
    simp only [Option.some_or, Option.bind_some, hf s husable, hendpoint]

/-- The endpoint as `pick_server` reads it off the entry it has chosen. -/
def readEndpoint (s : XmlServer) : Option HostPort := do
  let host ← s.hostname
  let port ← s.port
  some { host := host, port := port }

theorem readEndpoint_of_usable (s : XmlServer) (h : s.isUsable = true) :
    readEndpoint s = s.endpoint := by
  obtain ⟨host, port, hhost, hport, hendpoint⟩ := endpoint_of_usable s h
  simp only [readEndpoint, hhost, hport, hendpoint, Option.bind_eq_bind, Option.bind_some]

/-- The choice is the first entry with SSL, else the first of all: `head?` is `find?` with a
test that always passes. -/
theorem pickServer_find (servers : List XmlServer) (kind : String) :
    pickServer servers kind =
      ((((servers.filter fun s => eqIgnoreAsciiCase s.kind kind).filter XmlServer.isUsable).find?
          XmlServer.isSsl).or
        (((servers.filter fun s => eqIgnoreAsciiCase s.kind kind).filter XmlServer.isUsable).find?
          fun _ => true)).bind readEndpoint := by
  have hhead (l : List XmlServer) : l.find? (fun _ => true) = l.head? := by
    cases l with
    | nil => rfl
    | cons s l => rfl
  rw [hhead, Option.or_eq_orElse]
  unfold pickServer
  rcases hssl : ((servers.filter fun s => eqIgnoreAsciiCase s.kind kind).filter
    XmlServer.isUsable).find? XmlServer.isSsl with _ | s
  · rw [hssl]
    unfold XmlServer.isUsable XmlServer.isSsl at hssl
    simp only [hssl]
    rfl
  · rw [hssl]
    unfold XmlServer.isUsable XmlServer.isSsl at hssl
    simp only [hssl]
    rfl

theorem pickServer_eq (servers : List XmlServer) (kind : String) :
    pickServer servers kind = documentSide servers kind := by
  rw [pickServer_find, bind_or_usable readEndpoint readEndpoint_of_usable,
    find?_usable _ readEndpoint readEndpoint_of_usable,
    find?_usable _ readEndpoint readEndpoint_of_usable]
  unfold documentSide
  simp only [if_true]

end Documents

section Merging

theorem default_mergeFrom (s : MailServers) : MailServers.default.mergeFrom s = s := by
  simp [MailServers.default, MailServers.mergeFrom]

theorem mergeFrom_default (s : MailServers) : s.mergeFrom .default = s := by
  simp [MailServers.default, MailServers.mergeFrom]

theorem mergeFrom_assoc (s t u : MailServers) :
    (s.mergeFrom t).mergeFrom u = s.mergeFrom (t.mergeFrom u) := by
  simp [MailServers.mergeFrom, Option.or_assoc]

/-- Why the ladder may stop: nothing can be added to a complete answer. -/
theorem mergeFrom_of_isComplete (s t : MailServers) (h : s.isComplete = true) :
    s.mergeFrom t = s := by
  obtain ⟨imap, smtp⟩ := s
  simp only [MailServers.isComplete, Bool.and_eq_true] at h
  obtain ⟨i, rfl⟩ := Option.isSome_iff_exists.mp h.1
  obtain ⟨o, rfl⟩ := Option.isSome_iff_exists.mp h.2
  simp [MailServers.mergeFrom]

/-- For each side, the first of the rungs that offers it. -/
def firstOffers (rungs : List MailServers) : MailServers :=
  { imap := rungs.findSome? MailServers.imap, smtp := rungs.findSome? MailServers.smtp }

theorem firstOffers_append (l l' : List MailServers) :
    firstOffers (l ++ l') = (firstOffers l).mergeFrom (firstOffers l') := by
  simp [firstOffers, MailServers.mergeFrom, List.findSome?_append]

theorem firstOffers_singleton (s : MailServers) : firstOffers [s] = s := by
  simp [firstOffers]

theorem firstOffers_cons (s : MailServers) (l : List MailServers) :
    firstOffers (s :: l) = s.mergeFrom (firstOffers l) := by
  rw [← List.singleton_append, firstOffers_append, firstOffers_singleton]

end Merging

section Reference

variable (fromStr : XmlReader) (answer : (q : ResolverOp) → q.Answer)

/-- What a document offers, and nothing when it does not parse. -/
def documentOffer (xml : String) : MailServers :=
  match fromStr xml with
  | some config =>
    { imap := documentSide config.emailProvider.incoming "imap",
      smtp := documentSide config.emailProvider.outgoing "smtp" }
  | none => .default

/-- What a URL offers, and nothing when the fetch fails. -/
def urlOffer (url : String) : MailServers :=
  match answer (.get url) with
  | .ok (some body) => documentOffer fromStr body
  | .ok none => .default
  | .error _ => .default

def srvSideOffer (implicitTls starttls domain : String) : Option HostPort :=
  ((answer (.srv (implicitTls ++ domain))).head?.or
    (answer (.srv (starttls ++ domain))).head?).map SrvRecord.target

def srvOffer (domain : String) : MailServers :=
  { imap := srvSideOffer answer "_imaps._tcp." "_imap._tcp." domain,
    smtp := srvSideOffer answer "_submissions._tcp." "_submission._tcp." domain }

/-- The rungs of the exchanger's provider, when it is a public domain of its own. -/
def exchangerOffers (domain : String) : List MailServers :=
  match (answer (.mx domain)).head? with
  | none => []
  | some exchanger =>
    let provider := registrableDomain exchanger
    if isPublicDomain provider ∧ provider ≠ domain then
      (httpConfigUrls provider none).map (urlOffer fromStr answer)
    else []

/-- What every rung offers, in order of precedence. -/
def rungOffers (domain : String) (email : Option String) : List MailServers :=
  (httpConfigUrls domain email).map (urlOffer fromStr answer) ++
    [srvOffer answer domain] ++ exchangerOffers fromStr answer domain

theorem parseAutoconfig_offer (xml : String) :
    (parseAutoconfig fromStr xml).getD .default = documentOffer fromStr xml := by
  unfold parseAutoconfig documentOffer
  rcases fromStr xml with _ | config
  · rfl
  · simp only [Option.bind_eq_bind, Option.bind_some, pickServer_eq]
    -- A document with neither side is dropped, which merges like an empty offer.
    split_ifs with hempty
    · simp only [MailServers.isEmpty, Bool.and_eq_true, Option.isNone_iff_eq_none] at hempty
      rw [hempty.1, hempty.2]
      rfl
    · rfl

/-- The accumulator of the HTTP rungs, whether or not they stop early. -/
theorem httpLadderFrom_run (acc : MailServers) (urls : List String) :
    (httpLadderFrom fromStr acc urls).run answer =
      acc.mergeFrom (firstOffers (urls.map (urlOffer fromStr answer))) := by
  induction urls generalizing acc with
  | nil => exact (mergeFrom_default acc).symm
  | cons url urls ih =>
    rw [List.map_cons, firstOffers_cons, ← mergeFrom_assoc]
    unfold httpLadderFrom
    split_ifs with hcomplete
    · rw [run_pure, mergeFrom_of_isComplete _ _ hcomplete, mergeFrom_of_isComplete _ _ hcomplete]
    · have hskip : acc.mergeFrom .default = acc := mergeFrom_default acc
      generalize firstOffers (urls.map (urlOffer fromStr answer)) = later at ih ⊢
      rw [run_bind, httpGet, run_call]
      unfold urlOffer
      rcases answer (.get url) with e | (_ | body)
      · dsimp only
        rw [ih, hskip]
      · dsimp only
        rw [ih, hskip]
      · dsimp only
        rw [← parseAutoconfig_offer]
        rcases parseAutoconfig fromStr body with _ | found
        · dsimp only [Option.getD_none]
          rw [ih, hskip]
        · exact ih (acc.mergeFrom found)

theorem httpLadder_run (urls : List String) :
    (httpLadder fromStr urls).run answer = firstOffers (urls.map (urlOffer fromStr answer)) := by
  unfold httpLadder
  rw [httpLadderFrom_run, default_mergeFrom]

theorem srvSide_run (implicitTls starttls domain : String) :
    (srvSide implicitTls starttls domain).run answer =
      srvSideOffer answer implicitTls starttls domain := by
  unfold srvSide srvSideOffer srvRecords
  rw [run_bind, run_call]
  rcases (answer (.srv (implicitTls ++ domain))).head? with _ | r
  · dsimp only
    rw [run_bind, run_call, run_pure, Option.none_or]
  · rfl

theorem srvLookup_run (domain : String) :
    (srvLookup domain).run answer = srvOffer answer domain := by
  unfold srvLookup srvOffer
  rw [run_bind, run_bind, run_pure, srvSide_run, srvSide_run]

theorem mxAutoconfig_run (domain : String) :
    (mxAutoconfig fromStr domain).run answer =
      firstOffers (exchangerOffers fromStr answer domain) := by
  unfold mxAutoconfig exchangerOffers mxExchangers
  rw [run_bind, run_call]
  rcases (answer (.mx domain)).head? with _ | exchanger
  · rfl
  · dsimp only
    have hskip : skipsExchanger domain (registrableDomain exchanger) = true ↔
        ¬ (isPublicDomain (registrableDomain exchanger) = true ∧
          registrableDomain exchanger ≠ domain) := by
      unfold skipsExchanger
      rw [Bool.or_eq_true, decide_eq_true_eq, Bool.not_eq_true', not_and_or, not_not,
        Bool.not_eq_true, or_comm]
    by_cases hown : isPublicDomain (registrableDomain exchanger) = true ∧
        registrableDomain exchanger ≠ domain
    · rw [if_neg (fun h => hskip.mp h hown), if_pos hown, httpLadder_run]
    · rw [if_pos (hskip.mpr hown), if_neg hown]
      rfl

/-- A rung that is passed over adds as much as one that is asked. -/
theorem rung_run (acc : MailServers) (next : ResolverProg MailServers) :
    (rung acc next).run answer = acc.mergeFrom (next.run answer) := by
  unfold rung
  split_ifs with hcomplete
  · rw [run_pure, mergeFrom_of_isComplete _ _ hcomplete]
  · rw [run_bind, run_pure]

end Reference

end Overfwd
