import Overfwd.DomainPolicy
import Overfwd.Lib.Lowest

namespace Overfwd

open Text Dialogue Lowest

structure SrvData where
  priority : UInt16
  port : UInt16
  target : String
  deriving DecidableEq

structure MxData where
  preference : UInt16
  exchange : String
  deriving DecidableEq

/-- The name without the dots at its end; of the root nothing is left. -/
def hostOf (name : String) : String := trimEndMatches '.' name

/-- What is kept of one SRV record: the root as its target means that the service is not
provided. -/
def SrvData.record (srv : SrvData) : Option SrvRecord :=
  let host := hostOf srv.target
  if isEmpty host then none else some { host := host, port := srv.port }

/-- `HickorySrvResolver::srv`, given the answer to the lookup. -/
def hickorySrv : Except String (List SrvData) → List SrvRecord
  | .ok lookup => lookup.filterMap SrvData.record
  | .error _ => []

/-- `HickorySrvResolver::mx`. -/
def hickoryMx : Except String (List MxData) → List String
  | .ok lookup =>
    let records := (lookup.map fun mx => (mx.preference, hostOf mx.exchange)).filter
      fun record => !isEmpty record.2
    (sortByKey (fun record => record.1.toNat) records).map Prod.snd
  | .error _ => []

/-- The answers of a DNS server, in the order in which it lists the records. -/
structure DnsServer where
  srv : String → Except String (List SrvData)
  mx : String → Except String (List MxData)

/-- The resolver's questions over the live DNS backend. -/
def liveAnswer (dns : DnsServer) (others : ∀ q : ResolverOp, q.Answer) :
    (q : ResolverOp) → q.Answer
  | .srv name => hickorySrv (dns.srv name)
  | .mx domain => hickoryMx (dns.mx domain)
  | q => others q

/-- The records of an answer; a lookup that fails has none. -/
def answerRecords {α : Type} : Except String (List α) → List α
  | .ok records => records
  | .error _ => []

def SrvData.isUsable (r : SrvData) : Bool := !isEmpty (hostOf r.target)

def SrvData.endpoint (r : SrvData) : HostPort := { host := hostOf r.target, port := r.port }

def MxData.isUsable (r : MxData) : Bool := !isEmpty (hostOf r.exchange)

namespace DnsServer

variable (dns : DnsServer)

/-- The records whose target is not the root. -/
def usableSrv (name : String) : List SrvData := (answerRecords (dns.srv name)).filter SrvData.isUsable

def usableMx (domain : String) : List MxData := (answerRecords (dns.mx domain)).filter MxData.isUsable

/-- The records that one side goes by: those of the implicit-TLS service, if it has any. -/
def serviceRecords (implicitTls starttls domain : String) : List SrvData :=
  match dns.usableSrv (implicitTls ++ domain) with
  | [] => dns.usableSrv (starttls ++ domain)
  | records => records

def imapRecords (domain : String) : List SrvData :=
  dns.serviceRecords "_imaps._tcp." "_imap._tcp." domain

def smtpRecords (domain : String) : List SrvData :=
  dns.serviceRecords "_submissions._tcp." "_submission._tcp." domain

end DnsServer

def SrvData.rank (r : SrvData) : ℕ := r.priority.toNat

def MxData.rank (r : MxData) : ℕ := r.preference.toNat

/-- The first record listed leads where a record of lowest priority leads. -/
def ListsLowestFirst (records : List SrvData) : Prop :=
  ∀ first, records.head? = some first →
    ∃ r, IsLowest SrvData.rank records r ∧ r.endpoint = first.endpoint

/-- `mx_autoconfig` once it has its exchanger. -/
def viaExchanger (fromStr : XmlReader) (domain : String) : Option String → ResolverProg MailServers
  | none => pure .default
  | some exchanger =>
    let mxDomain := registrableDomain exchanger
    if skipsExchanger domain mxDomain then pure .default
    else httpLadder fromStr (httpConfigUrls mxDomain none)

section Lookups

variable (dns : DnsServer) (others : ∀ q : ResolverOp, q.Answer)

theorem hickorySrv_eq (answer : Except String (List SrvData)) :
    (hickorySrv answer).map SrvRecord.target =
      ((answerRecords answer).filter SrvData.isUsable).map SrvData.endpoint := by
  cases answer with
  | error err => rfl
  | ok records =>
    unfold hickorySrv answerRecords
    dsimp only
    induction records with
    | nil => rfl
    | cons r records ih =>
      by_cases hempty : isEmpty (hostOf r.target) = true
      · have hrecord : r.record = none := if_pos hempty
        have husable : ¬r.isUsable = true := by simp [SrvData.isUsable, hempty]
        rw [List.filterMap_cons_none hrecord, ih, List.filter_cons_of_neg husable]
      · have hrecord : r.record = some { host := hostOf r.target, port := r.port } := if_neg hempty
        have husable : r.isUsable = true := by simp [SrvData.isUsable, hempty]
        rw [List.filterMap_cons_some hrecord, List.map_cons, ih, List.filter_cons_of_pos husable]
        rfl

/-- A side is answered by the first record of the implicit-TLS service, and by the other
service only when that has none. -/
theorem srvSide_first (implicitTls starttls domain : String) (record : SrvRecord)
    (rest : List SrvRecord) (h : hickorySrv (dns.srv (implicitTls ++ domain)) = record :: rest) :
    (srvSide implicitTls starttls domain).run (liveAnswer dns others) = some record.target := by
  have hrun : (srvRecords (implicitTls ++ domain)).run (liveAnswer dns others) = record :: rest := h
  unfold srvSide
  rw [run_bind, hrun]
  rfl

theorem srvSide_fallback (implicitTls starttls domain : String)
    (h : hickorySrv (dns.srv (implicitTls ++ domain)) = []) :
    (srvSide implicitTls starttls domain).run (liveAnswer dns others) =
      (hickorySrv (dns.srv (starttls ++ domain))).head?.map SrvRecord.target := by
  have hrun : (srvRecords (implicitTls ++ domain)).run (liveAnswer dns others) = [] := h
  unfold srvSide
  rw [run_bind, hrun]
  rfl

/-- The first of the records that a side goes by is the one used. -/
theorem srvSide_live (implicitTls starttls domain : String) :
    (srvSide implicitTls starttls domain).run (liveAnswer dns others) =
      (dns.serviceRecords implicitTls starttls domain).head?.map SrvData.endpoint := by
  have himplicit := hickorySrv_eq (dns.srv (implicitTls ++ domain))
  have hstarttls := hickorySrv_eq (dns.srv (starttls ++ domain))
  unfold DnsServer.serviceRecords DnsServer.usableSrv
  cases hrecords : hickorySrv (dns.srv (implicitTls ++ domain)) with
  | nil =>
    rw [hrecords, List.map_nil, eq_comm, List.map_eq_nil_iff] at himplicit
    rw [srvSide_fallback dns others implicitTls starttls domain hrecords, himplicit,
      ← List.head?_map, hstarttls, List.head?_map]
  | cons record rest =>
    rw [hrecords, List.map_cons] at himplicit
    rw [srvSide_first dns others implicitTls starttls domain record rest hrecords]
    cases husable : (answerRecords (dns.srv (implicitTls ++ domain))).filter SrvData.isUsable with
    | nil =>
      rw [husable] at himplicit
      cases himplicit
    | cons r records =>
      rw [husable, List.map_cons] at himplicit
      exact congrArg some (List.cons.inj himplicit).1

theorem mxAutoconfig_eq (fromStr : XmlReader) (domain : String) :
    mxAutoconfig fromStr domain =
      mxExchangers domain >>= fun exchangers => viaExchanger fromStr domain exchangers.head? := by
  unfold mxAutoconfig
  congr 1

/-- The exchanger that is used has the lowest preference. -/
theorem hickoryMx_lowest (domain : String) :
    PicksLowest MxData.rank (fun r => hostOf r.exchange) (dns.usableMx domain)
      (hickoryMx (dns.mx domain)).head? := by
  unfold DnsServer.usableMx
  cases dns.mx domain with
  | error err => rfl
  | ok lookup =>
    unfold hickoryMx answerRecords
    dsimp only
    rw [List.filter_map, List.head?_map]
    have hlowest := picksLowest_sortByKey (fun record : UInt16 × String => record.1.toNat) Prod.snd
      ((lookup.filter MxData.isUsable).map fun mx => (mx.preference, hostOf mx.exchange))
    exact picksLowest_map _ _ (fun mx : MxData => (mx.preference, hostOf mx.exchange)) _ _ hlowest

/-- Every lookup goes by a record of lowest rank: each side of the SRV rung by one of its
service, and the MX rung by an exchanger. -/
structure GoesByLowest (domain : String) : Prop where
  imap : PicksLowest SrvData.rank SrvData.endpoint (dns.imapRecords domain)
    ((srvLookup domain).run (liveAnswer dns others)).imap
  smtp : PicksLowest SrvData.rank SrvData.endpoint (dns.smtpRecords domain)
    ((srvLookup domain).run (liveAnswer dns others)).smtp
  mx : ∀ fromStr, ∃ exchanger,
    PicksLowest MxData.rank (fun r => hostOf r.exchange) (dns.usableMx domain) exchanger ∧
      (mxAutoconfig fromStr domain).run (liveAnswer dns others) =
        (viaExchanger fromStr domain exchanger).run (liveAnswer dns others)

theorem srvLookup_live (domain : String) :
    (srvLookup domain).run (liveAnswer dns others) =
      { imap := (dns.imapRecords domain).head?.map SrvData.endpoint
        smtp := (dns.smtpRecords domain).head?.map SrvData.endpoint } := by
  unfold srvLookup
  rw [run_bind, run_bind, srvSide_live, srvSide_live]
  rfl

theorem mxAutoconfig_live (fromStr : XmlReader) (domain : String) :
    (mxAutoconfig fromStr domain).run (liveAnswer dns others) =
      (viaExchanger fromStr domain (hickoryMx (dns.mx domain)).head?).run
        (liveAnswer dns others) := by
  rw [mxAutoconfig_eq, run_bind]
  rfl

/-- A list goes by its first record; that is right when it lists a lowest one there. -/
theorem picksLowest_head_iff (records : List SrvData) :
    PicksLowest SrvData.rank SrvData.endpoint records (records.head?.map SrvData.endpoint) ↔
      ListsLowestFirst records := by
  cases records with
  | nil =>
    constructor
    · intro _ first hfirst
      cases hfirst
    · intro _
      rfl
  | cons r records =>
    constructor
    · intro h first hfirst
      cases hfirst
      exact h
    · intro h
      exact h r rfl

theorem goesByLowest_iff (domain : String) :
    GoesByLowest dns others domain ↔
      ListsLowestFirst (dns.imapRecords domain) ∧ ListsLowestFirst (dns.smtpRecords domain) := by
  have himap := picksLowest_head_iff (dns.imapRecords domain)
  have hsmtp := picksLowest_head_iff (dns.smtpRecords domain)
  have hrun := srvLookup_live dns others domain
  constructor
  · intro h
    have hi := h.imap
    have hs := h.smtp
    rw [hrun] at hi hs
    exact ⟨himap.mp hi, hsmtp.mp hs⟩
  · intro h
    refine ⟨?_, ?_, ?_⟩
    · rw [hrun]
      exact himap.mpr h.1
    · rw [hrun]
      exact hsmtp.mpr h.2
    · intro fromStr
      exact ⟨_, hickoryMx_lowest dns domain, mxAutoconfig_live dns others fromStr domain⟩

end Lookups

/-- The same answers with their records in another order. -/
structure Reordered (dns dns' : DnsServer) : Prop where
  srv : ∀ name, (answerRecords (dns.srv name)).Perm (answerRecords (dns'.srv name))
  mx : ∀ domain, (answerRecords (dns.mx domain)).Perm (answerRecords (dns'.mx domain))

section Orders

variable {dns dns' : DnsServer} (hreordered : Reordered dns dns')
  (others : ∀ q : ResolverOp, q.Answer)

include hreordered

theorem serviceRecords_perm (implicitTls starttls domain : String) :
    (dns.serviceRecords implicitTls starttls domain).Perm
      (dns'.serviceRecords implicitTls starttls domain) := by
  have husable (name : String) : (dns.usableSrv name).Perm (dns'.usableSrv name) :=
    (hreordered.srv name).filter _
  have himplicit := husable (implicitTls ++ domain)
  -- A permutation of no records is none, so both servers fall back together.
  unfold DnsServer.serviceRecords
  cases hrecords : dns.usableSrv (implicitTls ++ domain) with
  | nil =>
    rw [hrecords] at himplicit
    rw [List.nil_perm.mp himplicit]
    exact husable (starttls ++ domain)
  | cons r records =>
    rw [hrecords] at himplicit
    cases hrecords' : dns'.usableSrv (implicitTls ++ domain) with
    | nil =>
      rw [hrecords'] at himplicit
      cases List.perm_nil.mp himplicit
    | cons r' records' =>
      rw [hrecords'] at himplicit
      exact himplicit

/-- Up to ties the exchanger does not depend on the order of the records. -/
theorem hickoryMx_reordered (domain : String)
    (hties : NoTies MxData.rank (fun r => hostOf r.exchange) (dns.usableMx domain)) :
    (hickoryMx (dns.mx domain)).head? = (hickoryMx (dns'.mx domain)).head? :=
  picksLowest_unique _ _ ((hreordered.mx domain).filter _) hties _ _ (hickoryMx_lowest dns domain)
    (hickoryMx_lowest dns' domain)

theorem mxAutoconfig_reordered (fromStr : XmlReader) (domain : String)
    (hties : NoTies MxData.rank (fun r => hostOf r.exchange) (dns.usableMx domain)) :
    (mxAutoconfig fromStr domain).run (liveAnswer dns others) =
      (mxAutoconfig fromStr domain).run (liveAnswer dns' others) := by
  rw [mxAutoconfig_live, mxAutoconfig_live, hickoryMx_reordered hreordered domain hties]
  have hasks (exchanger : Option String) :
      AsksOnly (fun q => ∃ url, q = .get url) (viaExchanger fromStr domain exchanger) := by
    cases exchanger with
    | none => exact asksOnly_pure _
    | some exchanger =>
      unfold viaExchanger
      dsimp only
      split_ifs with hskip
      · exact asksOnly_pure _
      · exact httpLadderFrom_asks fromStr _ (fun url _ => ⟨url, rfl⟩) _
  apply run_congr (hasks _)
  intro q hq
  obtain ⟨url, rfl⟩ := hq
  rfl

theorem srvLookup_reordered (domain : String)
    (himap : NoTies SrvData.rank SrvData.endpoint (dns.imapRecords domain))
    (hsmtp : NoTies SrvData.rank SrvData.endpoint (dns.smtpRecords domain))
    (h : GoesByLowest dns others domain) (h' : GoesByLowest dns' others domain) :
    (srvLookup domain).run (liveAnswer dns others) =
      (srvLookup domain).run (liveAnswer dns' others) := by
  have hi := picksLowest_unique _ _ (serviceRecords_perm hreordered _ _ domain) himap _ _
    h.imap h'.imap
  have hs := picksLowest_unique _ _ (serviceRecords_perm hreordered _ _ domain) hsmtp _ _
    h.smtp h'.smtp
  cases hservers : (srvLookup domain).run (liveAnswer dns others) with
  | mk imap smtp =>
    cases hservers' : (srvLookup domain).run (liveAnswer dns' others) with
    | mk imap' smtp' =>
      rw [hservers, hservers'] at hi hs
      rw [show imap = imap' from hi, show smtp = smtp' from hs]

end Orders

/-- The lookups go by the records of lowest rank just when the SRV answers list one first;
the MX records may come in any order. Where that is so, the order of the records is not
seen in what is resolved, as long as no two of the lowest ones lead to different places. -/
theorem lookups_go_by_lowest (dns : DnsServer) (others : ∀ q : ResolverOp, q.Answer)
    (domain : String) :
    (GoesByLowest dns others domain ↔
      ListsLowestFirst (dns.imapRecords domain) ∧ ListsLowestFirst (dns.smtpRecords domain)) ∧
      ∀ dns' : DnsServer, Reordered dns dns' →
        (NoTies SrvData.rank SrvData.endpoint (dns.imapRecords domain) →
          NoTies SrvData.rank SrvData.endpoint (dns.smtpRecords domain) →
          GoesByLowest dns others domain → GoesByLowest dns' others domain →
            (srvLookup domain).run (liveAnswer dns others) =
              (srvLookup domain).run (liveAnswer dns' others)) ∧
          ∀ fromStr, NoTies MxData.rank (fun r => hostOf r.exchange) (dns.usableMx domain) →
            (mxAutoconfig fromStr domain).run (liveAnswer dns others) =
              (mxAutoconfig fromStr domain).run (liveAnswer dns' others) := by
  refine ⟨goesByLowest_iff dns others domain, ?_⟩
  intro dns' hreordered
  refine ⟨srvLookup_reordered hreordered others domain, ?_⟩
  intro fromStr hties
  exact mxAutoconfig_reordered hreordered others fromStr domain hties

section Samples

/-- A backup listed before the server it stands in for. -/
def backupFirst : DnsServer where
  srv name :=
    if name = "_imaps._tcp.example.com" then
      .ok [{ priority := 20, port := 993, target := "backup.example.com." },
        { priority := 10, port := 993, target := "imap.example.com." }]
    else .ok []
  mx _ := .ok []

theorem backup_used : ((srvLookup "example.com").run (liveAnswer backupFirst silentNetwork)).imap =
    some { host := "backup.example.com", port := 993 } := by
  rw [srvLookup_live]
  decide +kernel

/-- The backup is used although the other record has the lower priority. -/
theorem backup_goes_first : ¬GoesByLowest backupFirst silentNetwork "example.com" := by
  intro h
  have himap := h.imap
  rw [backup_used] at himap
  obtain ⟨r, ⟨hmem, hle⟩, hendpoint⟩ := himap
  have hrecords : backupFirst.imapRecords "example.com" =
      [{ priority := 20, port := 993, target := "backup.example.com." },
        { priority := 10, port := 993, target := "imap.example.com." }] := by decide +kernel
  rw [hrecords] at hmem hle
  rcases List.mem_pair.mp hmem with rfl | rfl
  · have hlower := hle { priority := 10, port := 993, target := "imap.example.com." } (by simp)
    revert hlower
    decide
  · revert hendpoint
    decide +kernel

end Samples

end Overfwd
