import Overfwd.Credential

/-! What the endpoint guard vets and what the mail clients dial. The guard judges
`bareHost`; the clients connect to the host as it was written. -/
namespace Overfwd

open Text Outcome Net Dialogue

/-- The addresses a dialled string denotes: itself when it is a literal, otherwise
what the resolver gives for that very string. -/
def dialled (lookup : String → Except String (List IpAddr)) (host : String) : List IpAddr :=
  match parseIp host with
  | some ip => [ip]
  | none =>
    match lookup host with
    | .ok addrs => addrs
    | .error _ => []

def DialsPublic (lookup : String → Except String (List IpAddr)) (host : String) : Prop :=
  ∀ ip ∈ dialled lookup host, isForbiddenIp ip = false

theorem bareHost_sublist (host : String) : (bareHost host).toList.Sublist host.toList := by
  have htrim : (trim host).toList.Sublist host.toList := by
    simp only [trim, trimList, String.toList_ofList]
    exact (List.rdropWhile_prefix _ _).sublist.trans (List.dropWhile_sublist _)
  have hshown : (shownHost host).toList.Sublist host.toList := by
    simp only [shownHost, trimEndMatches, String.toList_ofList]
    exact (List.rdropWhile_prefix _ _).sublist.trans htrim
  unfold bareHost
  cases hprefix : stripPrefix "[" (shownHost host) with
  | none => simpa only [Option.bind_none, Option.getD_none] using hshown
  | some rest =>
    cases hsuffix : stripSuffix "]" rest with
    | none => simpa only [Option.bind_some, hsuffix, Option.getD_none] using hshown
    | some inner =>
      have hinner := stripSuffix_sublist "]" rest inner hsuffix
      have hrest := stripPrefix_sublist "[" (shownHost host) rest hprefix
      simp only [Option.bind_some, hsuffix, Option.getD_some]
      exact (hinner.trans hrest).trans hshown

theorem bareHost_length_lt (host : String) (h : bareHost host ≠ host) :
    (bareHost host).toList.length < host.toList.length := by
  have hsub := bareHost_sublist host
  rcases hsub.length_le.lt_or_eq with hlt | heq
  · exact hlt
  · exact absurd (String.toList_injective (hsub.eq_of_length heq)) h

/-- A literal is its own bare form: nothing is trimmed from it. -/
theorem bareHost_of_literal (host : String) (ip : IpAddr) (h : parseIp host = some ip) :
    bareHost host = host := by
  have htext := parseIp_text host ip h
  have hplain : ∀ c ∈ host.toList, isWhitespace c = false ∧ c ≠ '[' := by
    intro c hc
    rcases htext.symbols c hc with hhex | rfl | rfl
    · exact isHexDigit_plain c hhex
    · decide
    · decide
  have htrim : trim host = host := trim_eq_self host fun c hc => (hplain c hc).1
  have hshown : shownHost host = host := by
    rw [shownHost, htrim]
    exact trimEndMatches_eq_self '.' host htext.last
  have hbracket : stripPrefix "[" host = none := by
    have hhead : ¬ "[".toList.isPrefixOf host.toList = true := by
      intro hprefix
      obtain ⟨rest, hrest⟩ := List.isPrefixOf_iff_prefix.mp hprefix
      exact (hplain '[' (by rw [← hrest]; simp)).2 rfl
    rw [stripPrefix, if_neg hhead]
  rw [bareHost, hshown, hbracket]
  rfl

theorem dialled_of_literal (lookup : String → Except String (List IpAddr)) (host : String)
    (ip : IpAddr) (h : parseIp host = some ip) : dialled lookup host = [ip] := by
  unfold dialled
  rw [h]

theorem dialled_of_name (lookup : String → Except String (List IpAddr)) (host : String)
    (addrs : List IpAddr) (h : parseIp host = none) (haddrs : lookup host = .ok addrs) :
    dialled lookup host = addrs := by
  unfold dialled
  rw [h, haddrs]

/-- What the guard accepts is what is dialled, when the host is written bare. -/
theorem dials_public_of_bare (net : FixedNetwork) (source : String) (target : HostPort)
    (hbare : bareHost target.host = target.host)
    (hcheck : runE net.answer (endpointCheck true source target) = .ok ()) :
    DialsPublic net.lookup target.host := by
  obtain ⟨houtright, hname⟩ := (endpointCheck_eq_ok_iff net source target).mp hcheck
  unfold refusedOutright at houtright
  rw [hbare] at houtright hname
  unfold DialsPublic
  rcases hliteral : parseIp target.host with _ | literal
  · obtain ⟨addrs, haddrs, -, hpublic⟩ := hname hliteral
    rw [dialled_of_name _ _ addrs hliteral haddrs]
    exact hpublic
  · rw [dialled_of_literal _ _ literal hliteral]
    rw [hliteral] at houtright
    intro ip hip
    obtain rfl := List.mem_singleton.mp hip
    exact houtright

/-- A resolver that sends one name to the private network and every other one to a
public address. -/
def lookupTrap (name : String) (host : String) : Except String (List IpAddr) :=
  if host = name then .ok [.v4 ⟨10, 0, 0, 5⟩] else .ok [.v4 ⟨93, 184, 216, 34⟩]

theorem lookupTrap_public (name host : String) (h : host ≠ name) :
    PublicName (lookupTrap name) host := by
  refine ⟨[.v4 ⟨93, 184, 216, 34⟩], if_neg h, by simp, ?_⟩
  intro ip hip
  obtain rfl := List.mem_singleton.mp hip
  decide

/-- The spelling that the guard strips is the spelling that the trap catches. -/
theorem lookupTrap_dialled (name : String) (h : bareHost name ≠ name) :
    ¬ DialsPublic (lookupTrap name) name := by
  have hname : parseIp name = none := by
    cases hip : parseIp name with
    | none => rfl
    | some ip => exact absurd (bareHost_of_literal name ip hip) h
  intro hpublic
  have hdialled := dialled_of_name (lookupTrap name) name _ hname (if_pos rfl)
  have hforbidden := hpublic (.v4 ⟨10, 0, 0, 5⟩) (by rw [hdialled]; simp)
  exact absurd hforbidden (by decide)

theorem intoCredential_eq_ok_iff (h : InlineHeaders) (autoconfigEnabled : Bool)
    (net : FixedNetwork) (cred : MailboxCredential) :
    runE net.answer (h.intoCredential autoconfigEnabled true) = .ok cred ↔
      ∃ imap smtp, h.targets autoconfigEnabled net.resolve = .ok (imap, smtp) ∧
        (∀ source, runE net.answer (endpointCheck true source imap) = .ok ()) ∧
        (∀ source, runE net.answer (endpointCheck true source smtp) = .ok ()) ∧
        h.credential imap smtp = cred := by
  rw [InlineHeaders.runE_intoCredential]
  constructor
  · intro hok
    obtain ⟨⟨imap, smtp⟩, htargets, hok⟩ := (bind_eq_ok_iff _ _ _).mp hok
    obtain ⟨⟨⟩, himap, hok⟩ := (bind_eq_ok_iff _ _ _).mp hok
    obtain ⟨⟨⟩, hsmtp, hok⟩ := (bind_eq_ok_iff _ _ _).mp hok
    have hany (source source' : String) (target : HostPort)
        (hcheck : runE net.answer (endpointCheck true source target) = .ok ()) :
        runE net.answer (endpointCheck true source' target) = .ok () := by
      rwa [endpointCheck_eq_ok_iff] at hcheck ⊢
    exact ⟨imap, smtp, htargets, fun source => hany _ source imap himap,
      fun source => hany _ source smtp hsmtp, Except.ok.inj hok⟩
  · rintro ⟨imap, smtp, htargets, himap, hsmtp, rfl⟩
    refine (bind_eq_ok_iff _ _ _).mpr ⟨(imap, smtp), htargets, ?_⟩
    refine (bind_eq_ok_iff _ _ _).mpr ⟨(), himap _, ?_⟩
    exact (bind_eq_ok_iff _ _ _).mpr ⟨(), hsmtp _, rfl⟩

/-- The two hosts are written the way the guard judges them. -/
def WrittenBare (imap smtp : HostPort) : Prop :=
  bareHost imap.host = imap.host ∧ bareHost smtp.host = smtp.host

/-- Of two hosts of which one is not bare, one is a name the guard never looks up. -/
theorem exists_unjudged (imap smtp : HostPort) (h : ¬ WrittenBare imap smtp) :
    ∃ name, (name = imap.host ∨ name = smtp.host) ∧ bareHost name ≠ name ∧
      bareHost imap.host ≠ name ∧ bareHost smtp.host ≠ name := by
  have hlonger (a b : String) (ha : bareHost a = b) (hne : bareHost a ≠ a) : bareHost b ≠ a := by
    -- The bare form of `b` is no longer than `b`, and `b` is shorter than `a`.
    have hlt := bareHost_length_lt a hne
    have hle := (bareHost_sublist b).length_le
    intro heq
    rw [heq] at hle
    rw [ha] at hlt
    omega
  by_cases himap : bareHost imap.host = imap.host
  · have hsmtp : bareHost smtp.host ≠ smtp.host := fun hs => h ⟨himap, hs⟩
    refine ⟨smtp.host, Or.inr rfl, hsmtp, ?_, hsmtp⟩
    intro heq
    rw [himap] at heq
    exact hsmtp (heq ▸ himap)
  · by_cases hsame : bareHost smtp.host = imap.host
    · have hsmtp : bareHost smtp.host ≠ smtp.host := by
        intro hs
        rw [hs] at hsame
        exact himap (hsame ▸ hs)
      exact ⟨smtp.host, Or.inr rfl, hsmtp, hlonger _ _ hsame hsmtp, hsmtp⟩
    · exact ⟨imap.host, Or.inl rfl, himap, himap, hsame⟩

/-- A credential dials public addresses only, whatever the resolver, exactly when
its targets are refused outright or both are written bare. -/
theorem credential_dials_public_iff (h : InlineHeaders) (autoconfigEnabled : Bool)
    (resolve : String → Option String → Except GatewayError MailServers) :
    (∀ lookup cred,
      runE (FixedNetwork.answer ⟨resolve, lookup⟩) (h.intoCredential autoconfigEnabled true) =
        .ok cred →
      DialsPublic lookup cred.imap.host ∧ DialsPublic lookup cred.smtp.host) ↔
    ∀ imap smtp, h.targets autoconfigEnabled resolve = .ok (imap, smtp) →
      refusedOutright imap.host = true ∨ refusedOutright smtp.host = true ∨ WrittenBare imap smtp := by
  constructor
  · intro hall imap smtp htargets
    by_contra hcond
    simp only [not_or, Bool.not_eq_true] at hcond
    obtain ⟨himap, hsmtp, hbare⟩ := hcond
    -- The trap sits on a host that is dialled as it was written and never looked up.
    obtain ⟨name, hname, hne, hiname, hsname⟩ := exists_unjudged imap smtp hbare
    have hcred := (intoCredential_eq_ok_iff h autoconfigEnabled ⟨resolve, lookupTrap name⟩
      (h.credential imap smtp)).mpr ⟨imap, smtp, htargets,
        fun source => (endpointCheck_eq_ok_iff _ source imap).mpr
          ⟨himap, fun _ => lookupTrap_public name _ hiname⟩,
        fun source => (endpointCheck_eq_ok_iff _ source smtp).mpr
          ⟨hsmtp, fun _ => lookupTrap_public name _ hsname⟩, rfl⟩
    obtain ⟨hdi, hds⟩ := hall (lookupTrap name) _ hcred
    rcases hname with rfl | rfl
    · exact lookupTrap_dialled _ hne hdi
    · exact lookupTrap_dialled _ hne hds
  · intro hcond lookup cred hcred
    obtain ⟨imap, smtp, htargets, himap, hsmtp, rfl⟩ :=
      (intoCredential_eq_ok_iff h autoconfigEnabled ⟨resolve, lookup⟩ cred).mp hcred
    rcases hcond imap smtp htargets with hrefused | hrefused | ⟨hibare, hsbare⟩
    · have haccepted := ((endpointCheck_eq_ok_iff ⟨resolve, lookup⟩ "" imap).mp (himap "")).1
      rw [haccepted] at hrefused
      cases hrefused
    · have haccepted := ((endpointCheck_eq_ok_iff ⟨resolve, lookup⟩ "" smtp).mp (hsmtp "")).1
      rw [haccepted] at hrefused
      cases hrefused
    · exact ⟨dials_public_of_bare ⟨resolve, lookup⟩ "" imap hibare (himap ""),
        dials_public_of_bare ⟨resolve, lookup⟩ "" smtp hsbare (hsmtp "")⟩

/-- `X-Mailbox-Imap: evil.example.com.:993`, the root dot written out. -/
def dottedHeaders : InlineHeaders :=
  { username := "user", password := "pw", domain := none,
    imap := some ⟨"evil.example.com.", 993⟩, smtp := some ⟨"smtp.example.com", 465⟩ }

theorem dotted_host_dials_private :
    HostPort.parse H_MAILBOX_IMAP "evil.example.com.:993" = .ok ⟨"evil.example.com.", 993⟩ ∧
      ¬ ∀ lookup cred,
        runE (FixedNetwork.answer ⟨fun _ _ => .ok ⟨none, none⟩, lookup⟩)
          (dottedHeaders.intoCredential false true) = .ok cred →
        DialsPublic lookup cred.imap.host ∧ DialsPublic lookup cred.smtp.host := by
  refine ⟨by decide, fun hall => ?_⟩
  have hcred : runE (FixedNetwork.answer ⟨fun _ _ => .ok ⟨none, none⟩,
      lookupTrap "evil.example.com."⟩) (dottedHeaders.intoCredential false true) =
      .ok (dottedHeaders.credential ⟨"evil.example.com.", 993⟩ ⟨"smtp.example.com", 465⟩) := by
    decide
  exact lookupTrap_dialled "evil.example.com." (by decide) (hall _ _ hcred).1

end Overfwd
