import Overfwd.Endpoint
import Overfwd.Lib.Url

namespace Overfwd

open Text Outcome Net

/-- One label of a plausible DNS name. -/
def isDnsLabel (label : String) : Bool :=
  !isEmpty label && len label ≤ 63 && label.toList.all (fun c => c.isAlphanum || c == '-') &&
    !startsWith "-" label && !endsWith "-" label

/-- `is_public_domain`. -/
def isPublicDomain (domain : String) : Bool :=
  let domain := trimEndMatches '.' domain
  if isEmpty domain || 253 < len domain || !contains '.' domain then false
  else if (parseIp domain).isSome then false
  else if isReservedName (toAsciiLowercase domain) then false
  else (split '.' domain).all isDnsLabel

/-- `registrable_domain`: the last two labels of a hostname. -/
def registrableDomain (host : String) : String :=
  let host := toAsciiLowercase (trimEndMatches '.' host)
  let labels := (split '.' host).filter fun l => !isEmpty l
  if labels.length ≤ 2 then host else join "." (labels.drop (labels.length-2))

/-- Two to four numbers with dots between them, at most one dot after them: a domain
to `isPublicDomain` and an IPv4 address to a URL parser, unless it is a dotted quad. -/
structure NumericHost (domain : String) (labels : List String) : Prop where
  count : 2 ≤ labels.length ∧ labels.length ≤ 4
  numbers : ∀ l ∈ labels, (Url.ipv4Number l.toList).isSome = true ∧ len l ≤ 63
  length : len (join "." labels) ≤ 253
  not_quad : parseV4 (join "." labels).toList = none
  spelling : domain = join "." labels ∨ domain = join "." labels ++ "."

theorem isPublicDomain_iff (domain : String) :
    isPublicDomain domain = true ↔
      trimEndMatches '.' domain ≠ "" ∧ len (trimEndMatches '.' domain) ≤ 253 ∧
      '.' ∈ (trimEndMatches '.' domain).toList ∧ parseIp (trimEndMatches '.' domain) = none ∧
      isReservedName (toAsciiLowercase (trimEndMatches '.' domain)) = false ∧
      ∀ l ∈ split '.' (trimEndMatches '.' domain), isDnsLabel l = true := by
  unfold isPublicDomain
  generalize trimEndMatches '.' domain = core
  simp [contains, isEmpty, and_assoc]

theorem trimEnd_spec (domain : String) :
    ∃ k, domain.toList = (trimEndMatches '.' domain).toList ++ List.replicate k '.' := by
  refine ⟨(domain.toList.rtakeWhile (· == '.')).length, ?_⟩
  have hdots : domain.toList.rtakeWhile (· == '.') =
      List.replicate (domain.toList.rtakeWhile (· == '.')).length '.' := by
    apply List.eq_replicate_of_mem
    intro c hc
    simpa using List.mem_rtakeWhile_imp hc
  rw [← hdots, trimEndMatches, String.toList_ofList, List.rdropWhile_append_rtakeWhile]

theorem split_length (s : String) (h : '.' ∈ s.toList) : 2 ≤ (split '.' s).length := by
  obtain ⟨front, back, hs⟩ := List.append_of_mem h
  have hfront := List.length_pos_of_ne_nil (List.splitOn_ne_nil '.' front)
  have hback := List.length_pos_of_ne_nil (List.splitOn_ne_nil '.' back)
  rw [split, List.length_map, hs, List.splitOn_append_cons_self, List.length_append]
  omega

theorem label_nonempty (label : String) (h : isDnsLabel label = true) : label.toList ≠ [] := by
  simp only [isDnsLabel, isEmpty, Bool.and_eq_true, Bool.not_eq_true'] at h
  intro hnil
  rw [hnil] at h
  simp at h

/-- Two dots at the end leave an empty part behind, which is no number. -/
theorem trailing_dots_le_one (parts : List (List Char)) (k : ℕ)
    (h : ∀ cs ∈ parts ++ List.replicate (k-1) [], ∃ n, Url.ipv4Number cs = some n) : k ≤ 1 := by
  by_contra hk
  have hempty : ([] : List Char) ∈ parts ++ List.replicate (k-1) [] := by
    apply List.mem_append_right
    rw [List.mem_replicate]
    exact ⟨by omega, rfl⟩
  obtain ⟨n, hn⟩ := h [] hempty
  cases hn

theorem parseV4_of_parseIp_none (s : String) (h : parseIp s = none) :
    parseV4 s.toList = none := by
  unfold parseIp at h
  rcases hv4 : parseV4 s.toList with _ | ip
  · rfl
  · rw [hv4] at h
    cases h

/-- An accepted domain that reads as numbers is a numeric host. -/
theorem numericHost_of_accepted (domain : String) (numbers : List ℕ)
    (hpublic : isPublicDomain domain = true) (hnumbers : Url.ipv4Numbers domain = some numbers) :
    NumericHost domain (split '.' (trimEndMatches '.' domain)) := by
  obtain ⟨-, hlen, hdot, hip, -, hlabels⟩ := (isPublicDomain_iff domain).mp hpublic
  obtain ⟨k, hk⟩ := trimEnd_spec domain
  have hjoin := join_split '.' "." (trimEndMatches '.' domain) rfl
  have hcount := split_length _ hdot
  generalize trimEndMatches '.' domain = core at *
  have hnonempty : ∀ l ∈ core.toList.splitOn '.', l ≠ [] := by
    intro l hl
    have hmem : String.ofList l ∈ split '.' core := List.mem_map.mpr ⟨l, hl, rfl⟩
    simpa using label_nonempty _ (hlabels _ hmem)
  simp only [Url.ipv4Numbers] at hnumbers
  rw [hk, Url.ipv4Parts_append_replicate _ k hnonempty] at hnumbers
  split_ifs at hnumbers with hparts
  have hall : ∀ cs ∈ core.toList.splitOn '.' ++ List.replicate (k-1) [],
      ∃ n, Url.ipv4Number cs = some n := by
    intro cs hcs
    obtain ⟨n, -, hn⟩ := forall₂_mem_left ((mapM_eq_some_iff _ _ _).mp hnumbers) cs hcs
    exact ⟨n, hn⟩
  have hk1 := trailing_dots_le_one _ k hall
  refine ⟨⟨hcount, ?_⟩, ?_, ?_, ?_, ?_⟩
  · simp only [List.length_append, List.length_replicate] at hparts
    rw [split, List.length_map]
    omega
  · intro l hl
    refine ⟨?_, ?_⟩
    · obtain ⟨cs, hcs, rfl⟩ := List.mem_map.mp hl
      obtain ⟨n, hn⟩ := hall cs (List.mem_append_left _ hcs)
      rw [String.toList_ofList, hn]
      rfl
    · have hlabel := hlabels l hl
      simp only [isDnsLabel, Bool.and_eq_true, decide_eq_true_eq] at hlabel
      exact hlabel.1.1.1.2
  · rwa [hjoin]
  · rw [hjoin]
    exact parseV4_of_parseIp_none core hip
  · rw [hjoin]
    rcases Nat.le_one_iff_eq_zero_or_eq_one.mp hk1 with rfl | rfl
    · exact Or.inl (String.toList_injective (by simpa using hk))
    · exact Or.inr (String.toList_injective (by simpa using hk))

/-- The symbols a number is written with. -/
def isNumberSymbol (c : Char) : Bool := isHexDigit c || c == 'x' || c == 'X'

theorem number_symbol (c : Char) (h : isNumberSymbol c = true) :
    c.isAlphanum = true ∧ c.toLower ≠ 'l' ∧ c ≠ '.' ∧ c ≠ ':' ∧ c ≠ '-' := by
  -- Every symbol is below `y`, so a table of the first characters decides.
  have htable : ∀ n < 121, isNumberSymbol (Char.ofNat n) = true →
      (Char.ofNat n).isAlphanum = true ∧ (Char.ofNat n).toLower ≠ 'l' ∧
        Char.ofNat n ≠ '.' ∧ Char.ofNat n ≠ ':' ∧ Char.ofNat n ≠ '-' := by decide
  have hsmall : c.toNat < 121 := by
    simp only [isNumberSymbol, Bool.or_eq_true, beq_iff_eq] at h
    rcases h with (h | rfl) | rfl
    · have hrange := isHexDigit_range c h
      omega
    · decide
    · decide
  have hc := htable c.toNat hsmall
  rw [Char.ofNat_toNat] at hc
  exact hc h

theorem isReservedName_of_no_l (lower : String) (h : 'l' ∉ lower.toList) :
    isReservedName lower = false := by
  have hsuffix (s : String) (hs : 'l' ∈ s.toList) : endsWith s lower = false := by
    apply Bool.eq_false_iff.mpr
    intro hends
    exact h ((List.isSuffixOf_iff_suffix.mp hends).subset hs)
  have hlocalhost : (lower == "localhost") = false := by
    apply beq_eq_false_iff_ne.mpr
    intro heq
    exact h (by rw [heq]; decide)
  unfold isReservedName
  rw [hlocalhost, hsuffix _ (by decide), hsuffix _ (by decide), hsuffix _ (by decide)]
  rfl

theorem numeric_label (domain : String) (labels : List String) (h : NumericHost domain labels)
    (l : String) (hl : l ∈ labels) :
    l.toList ≠ [] ∧ ∀ c ∈ l.toList, isNumberSymbol c = true := by
  obtain ⟨n, hn⟩ := Option.isSome_iff_exists.mp (h.numbers l hl).1
  obtain ⟨hne, hsymbols⟩ := Url.ipv4Number_symbols l.toList n hn
  refine ⟨hne, fun c hc => ?_⟩
  rcases hsymbols c hc with hx | rfl | rfl
  · simp [isNumberSymbol, hx]
  · decide
  · decide

theorem numeric_splitOn (domain : String) (labels : List String) (h : NumericHost domain labels) :
    (join "." labels).toList.splitOn '.' = labels.map String.toList := by
  have hdot : ".".toList = ['.'] := rfl
  rw [join, String.toList_ofList, hdot]
  apply List.splitOn_intercalate
  · intro cs hcs hmem
    obtain ⟨l, hl, rfl⟩ := List.mem_map.mp hcs
    have hsymbol := (numeric_label domain labels h l hl).2 '.' hmem
    exact (number_symbol '.' hsymbol).2.2.1 rfl
  · intro hnil
    have hlen := h.count.1
    rw [List.map_eq_nil_iff.mp hnil] at hlen
    simp at hlen

theorem numeric_symbols (domain : String) (labels : List String) (h : NumericHost domain labels) :
    ∀ c ∈ (join "." labels).toList, isNumberSymbol c = true ∨ c = '.' := by
  intro c hc
  rcases mem_join "." labels c hc with hsep | ⟨l, hl, hcl⟩
  · exact Or.inr (by simpa using hsep)
  · exact Or.inl ((numeric_label domain labels h l hl).2 c hcl)

/-- The labels of a numeric host leave nothing for `trim_end_matches` but its last dot. -/
theorem numeric_trimEnd (domain : String) (labels : List String) (h : NumericHost domain labels) :
    trimEndMatches '.' domain = join "." labels := by
  have hlast : (join "." labels).toList.getLast? ≠ some '.' := by
    intro hdot
    obtain ⟨front, hfront⟩ := List.getLast?_eq_some_iff.mp hdot
    have hsplit := numeric_splitOn domain labels h
    rw [hfront, List.splitOn_append_cons_self, List.splitOn_nil] at hsplit
    have hempty : ([] : List Char) ∈ labels.map String.toList := by
      rw [← hsplit]
      simp
    obtain ⟨l, hl, hnil⟩ := List.mem_map.mp hempty
    exact (numeric_label domain labels h l hl).1 hnil
  have hself := trimEndMatches_eq_self '.' (join "." labels) hlast
  rcases h.spelling with hd | hd
  · rw [hd, hself]
  · rw [hd]
    rw [trimEndMatches] at hself ⊢
    have hdots : (join "." labels ++ ".").toList = (join "." labels).toList ++ ['.'] := by
      rw [String.toList_append]
      rfl
    rw [hdots, List.rdropWhile_concat_pos _ _ _ (by decide), hself]

theorem numeric_dnsLabel (domain : String) (labels : List String) (h : NumericHost domain labels)
    (l : String) (hl : l ∈ labels) : isDnsLabel l = true := by
  obtain ⟨hne, hsymbols⟩ := numeric_label domain labels h l hl
  have hdash : '-' ∉ l.toList := fun hmem => (number_symbol _ (hsymbols _ hmem)).2.2.2.2 rfl
  have hstart : startsWith "-" l = false := by
    apply Bool.eq_false_iff.mpr
    intro hs
    exact hdash ((List.isPrefixOf_iff_prefix.mp hs).subset (by decide))
  have hend : endsWith "-" l = false := by
    apply Bool.eq_false_iff.mpr
    intro hs
    exact hdash ((List.isSuffixOf_iff_suffix.mp hs).subset (by decide))
  have halnum : l.toList.all (fun c => c.isAlphanum || c == '-') = true := by
    rw [List.all_eq_true]
    intro c hc
    rw [(number_symbol c (hsymbols c hc)).1]
    rfl
  have hempty : isEmpty l = false := by simpa [isEmpty] using hne
  simp only [isDnsLabel, hempty, halnum, hstart, hend, (h.numbers l hl).2]
  rfl

theorem numeric_dot_mem (domain : String) (labels : List String) (h : NumericHost domain labels) :
    '.' ∈ (join "." labels).toList := by
  by_contra hmem
  have hone := congrArg List.length (List.splitOn_eq_singleton hmem)
  rw [numeric_splitOn domain labels h, List.length_map, List.length_singleton] at hone
  have htwo := h.count.1
  omega

theorem numeric_no_colon (domain : String) (labels : List String) (h : NumericHost domain labels) :
    ':' ∉ (join "." labels).toList := by
  intro hmem
  rcases numeric_symbols domain labels h ':' hmem with hs | hs
  · exact (number_symbol ':' hs).2.2.2.1 rfl
  · exact absurd hs (by decide)

/-- Every reserved name has an `l` in it, and no number has. -/
theorem numeric_not_reserved (domain : String) (labels : List String)
    (h : NumericHost domain labels) : isReservedName (toAsciiLowercase (join "." labels)) = false := by
  apply isReservedName_of_no_l
  intro hmem
  rw [toAsciiLowercase, String.toList_ofList] at hmem
  obtain ⟨c, hc, hlower⟩ := List.mem_map.mp hmem
  rcases numeric_symbols domain labels h c hc with hs | rfl
  · exact (number_symbol c hs).2.1 hlower
  · exact absurd hlower (by decide)

/-- A URL parser drops one dot at the end and reads the labels. -/
theorem numeric_ipv4Parts (domain : String) (labels : List String) (h : NumericHost domain labels) :
    Url.ipv4Parts domain.toList = labels.map String.toList := by
  have hsplit := numeric_splitOn domain labels h
  obtain ⟨k, hk1, hk⟩ : ∃ k ≤ 1, domain.toList = (join "." labels).toList ++
      List.replicate k '.' := by
    rcases h.spelling with hd | hd
    · exact ⟨0, by omega, by rw [hd]; simp⟩
    · exact ⟨1, by omega, by rw [hd, String.toList_append]; rfl⟩
  rw [hk, Url.ipv4Parts_append_replicate, hsplit]
  · rw [Nat.sub_eq_zero_of_le hk1]
    simp
  · intro cs hcs
    rw [hsplit] at hcs
    obtain ⟨l, hl, rfl⟩ := List.mem_map.mp hcs
    exact (numeric_label domain labels h l hl).1

theorem numeric_isPublicDomain (domain : String) (labels : List String)
    (h : NumericHost domain labels) : isPublicDomain domain = true := by
  have hdot := numeric_dot_mem domain labels h
  have hlabels : split '.' (join "." labels) = labels := by
    rw [split, numeric_splitOn domain labels h, List.map_map]
    exact (List.map_congr_left fun l _ => String.ofList_toList).trans (List.map_id _)
  rw [isPublicDomain_iff, numeric_trimEnd domain labels h, hlabels]
  refine ⟨?_, h.length, hdot, ?_, numeric_not_reserved domain labels h,
    numeric_dnsLabel domain labels h⟩
  · intro hempty
    rw [hempty] at hdot
    exact absurd hdot (by decide)
  · exact parseIp_eq_none_of_no_colon _ (numeric_no_colon domain labels h) h.not_quad

theorem accepted_of_numericHost (domain : String) (labels : List String)
    (h : NumericHost domain labels) :
    isPublicDomain domain = true ∧ Url.ipv4Numbers domain ≠ none := by
  refine ⟨numeric_isPublicDomain domain labels h, ?_⟩
  obtain ⟨numbers, hnumbers⟩ := exists_mapM_eq_some Url.ipv4Number
    (labels.map String.toList) (by
      intro cs hcs
      obtain ⟨l, hl, rfl⟩ := List.mem_map.mp hcs
      exact (h.numbers l hl).1)
  have hcount : (labels.map String.toList).length ≤ 4 := by
    rw [List.length_map]
    exact h.count.2
  simp only [Url.ipv4Numbers, numeric_ipv4Parts domain labels h]
  rw [if_pos hcount, hnumbers]
  simp

end Overfwd
