import Overfwd.SearchKey
import Overfwd.Lib.Quoting

namespace Overfwd

open Text Outcome Quoting

/-- A keyword and its argument token. -/
abbrev SearchTerm := String × Token Char

def SearchTerm.tokens (t : SearchTerm) : List (Token Char) := [.bare t.1.toList, t.2]

def pairTokens : List (Token Char) → Option (List SearchTerm)
  | [] => some []
  | .bare keyword :: argument :: rest =>
    (pairTokens rest).map ((String.ofList keyword, argument) :: ·)
  | _ => none

/-- Keys are separated by one space outside quoted strings; in a quoted string `\`
takes the next character and an unescaped `"` ends it. -/
def readKeys (key : String) : Option (List SearchTerm) :=
  (scan '\\' '"' ' ' .gap key.toList).bind pairTokens

def renderTerm (t : SearchTerm) : String := String.ofList (render '\\' '"' ' ' t.tokens)

/-- The terms a request stands for, with `since` already normalised. -/
def SearchRequest.terms (r : SearchRequest) (since : Option String) : List SearchTerm :=
  [("FROM", (setValue r.from).map fun v => Token.quoted v.toList),
    ("SUBJECT", (setValue r.subject).map fun v => Token.quoted v.toList),
    ("TEXT", (setValue r.text).map fun v => Token.quoted v.toList),
    ("SINCE", since.map fun v => Token.bare v.toList)].filterMap fun p => p.2.map (p.1, ·)

/-- The term of each field, whether it is set or not. -/
def SearchRequest.termRows (r : SearchRequest) (since : Option String) :
    List (String × Option (Token Char)) :=
  [("FROM", (setValue r.from).map fun v => Token.quoted v.toList),
    ("SUBJECT", (setValue r.subject).map fun v => Token.quoted v.toList),
    ("TEXT", (setValue r.text).map fun v => Token.quoted v.toList),
    ("SINCE", since.map fun v => Token.bare v.toList)]

theorem terms_eq (r : SearchRequest) (since : Option String) :
    r.terms since = (r.termRows since).filterMap fun p => p.2.map (p.1, ·) := rfl

theorem pairTokens_flatMap (ts : List SearchTerm) :
    pairTokens (ts.flatMap SearchTerm.tokens) = some ts := by
  induction ts with
  | nil => rfl
  | cons t ts ih =>
    simp only [List.flatMap_cons, SearchTerm.tokens, List.cons_append, List.nil_append, pairTokens]
    rw [String.ofList_toList]
    exact congrArg (Option.map (t :: ·)) ih

def SearchTerm.WellFormed (t : SearchTerm) : Prop :=
  ∀ token ∈ t.tokens, token.WellFormed '"' ' '

theorem toList_quoteImap (v : String) : (quoteImap v).toList = quote '\\' '"' v.toList := by
  simp only [quoteImap, String.toList_append, String.toList_ofList]
  rfl

theorem renderTerm_quoted (keyword v : String) :
    renderTerm (keyword, .quoted v.toList) = keyword ++ " " ++ quoteImap v := by
  apply String.toList_injective
  simp only [renderTerm, SearchTerm.tokens, render, String.toList_ofList, String.toList_append,
    toList_quoteImap]
  simp [Token.render]

theorem renderTerm_bare (keyword v : String) :
    renderTerm (keyword, .bare v.toList) = keyword ++ " " ++ v := by
  apply String.toList_injective
  simp only [renderTerm, SearchTerm.tokens, render, String.toList_ofList, String.toList_append]
  simp [Token.render]

/-- A line of rendered terms is read back term by term. -/
theorem readKeys_join (ts : List SearchTerm) (hne : ts ≠ []) (hwf : ∀ t ∈ ts, t.WellFormed) :
    readKeys (join " " (ts.map renderTerm)) = some ts := by
  have hline : (join " " (ts.map renderTerm)).toList =
      render '\\' '"' ' ' (ts.flatMap SearchTerm.tokens) := by
    rw [List.flatMap_def, ← intercalate_render]
    · simp only [join, String.toList_ofList, List.map_map]
      congr 1
      apply List.map_congr_left
      intro t ht
      exact String.toList_ofList
    · intro tokens htokens
      obtain ⟨t, -, rfl⟩ := List.mem_map.mp htokens
      simp [SearchTerm.tokens]
  have htokens : ts.flatMap SearchTerm.tokens ≠ [] := by
    cases ts with
    | nil => exact absurd rfl hne
    | cons t ts => simp [SearchTerm.tokens]
  have hscan := scan_render '\\' '"' ' ' (ts.flatMap SearchTerm.tokens) (by decide) (by decide)
    htokens (by
      intro token htoken
      obtain ⟨t, ht, hmem⟩ := List.mem_flatMap.mp htoken
      exact hwf t ht token hmem)
  unfold readKeys
  rw [hline, hscan, Option.bind_some, pairTokens_flatMap]

/-- An association list with distinct keys, some of them without a value. -/
theorem lookup_filterMap {α : Type} (xs : List (String × Option α))
    (hnd : (xs.map Prod.fst).Nodup) (k : String) (o : Option α) (hmem : (k, o) ∈ xs) :
    (xs.filterMap fun p => p.2.map (p.1, ·)).lookup k = o := by
  induction xs with
  | nil => cases hmem
  | cons x xs ih =>
    obtain ⟨k', o'⟩ := x
    obtain ⟨hfresh, htail⟩ := List.nodup_cons.mp hnd
    rcases List.mem_cons.mp hmem with heq | hrest
    · cases heq
      cases o with
      | some a => simp
      | none =>
        rw [List.filterMap_cons_none rfl, List.lookup_eq_none_iff]
        rintro ⟨k', a⟩ hka
        obtain ⟨⟨k'', o⟩, hx, hsome⟩ := List.mem_filterMap.mp hka
        obtain ⟨a', -, heq⟩ := Option.map_eq_some_iff.mp hsome
        cases heq
        have hne : k ≠ k'' := fun h => hfresh (List.mem_map.mpr ⟨(k'', o), hx, h.symm⟩)
        simpa using hne
    · have hne : k ≠ k' := fun h => hfresh (List.mem_map.mpr ⟨(k, o), hrest, h⟩)
      cases o' with
      | none => simpa using ih htail hrest
      | some a =>
        have hbeq : (k == k') = false := by simpa using hne
        simpa [List.lookup_cons, hbeq] using ih htail hrest

theorem since_normalised (esc : UnicodeEscapes) (r : SearchRequest) (keys : List String)
    (hkeys : List.Forall₂ (fun p k => structuredKey esc p = .ok k) r.setFields keys) :
    ∃ since, (setValue r.since).mapM (imapDate esc) = .ok since := by
  cases hsince : setValue r.since with
  | none => exact ⟨none, rfl⟩
  | some v =>
    have hmem : ("since", v) ∈ r.setFields := by
      simp [SearchRequest.setFields, hsince]
    obtain ⟨k, -, hk⟩ := forall₂_mem_left hkeys _ hmem
    obtain ⟨date, hdate, -⟩ := (bind_eq_ok_iff _ _ _).mp hk
    exact ⟨some date, (bind_eq_ok_iff _ _ _).mpr ⟨date, hdate, rfl⟩⟩

theorem wellFormed_quoted (keyword v : String) (h : keyword ∈ ["FROM", "SUBJECT", "TEXT"]) :
    SearchTerm.WellFormed (keyword, .quoted v.toList) := by
  have hkeyword : ∀ k ∈ ["FROM", "SUBJECT", "TEXT"],
      k.toList ≠ [] ∧ ' ' ∉ k.toList ∧ '"' ∉ k.toList := by decide
  intro token htoken
  rcases List.mem_cons.mp htoken with rfl | htoken
  · exact hkeyword keyword h
  · obtain rfl := List.mem_singleton.mp htoken
    trivial

theorem wellFormed_date (esc : UnicodeEscapes) (v date : String)
    (h : imapDate esc v = .ok date) : SearchTerm.WellFormed ("SINCE", .bare date.toList) := by
  obtain ⟨day, month, year, hfits, rfl⟩ := imapDate_eq_ok esc v date h
  have hchars := date_chars day month year hfits
  intro token htoken
  rcases List.mem_cons.mp htoken with rfl | htoken
  · exact (by decide : "SINCE".toList ≠ [] ∧ ' ' ∉ "SINCE".toList ∧ '"' ∉ "SINCE".toList)
  · obtain rfl := List.mem_singleton.mp htoken
    refine ⟨?_, fun hsep => ?_, fun hquote => ?_⟩
    · simp
    · exact absurd (hchars _ hsep) (by decide)
    · exact absurd (hchars _ hquote) (by decide)

/-- The key of a field is the rendering of a term that can be read back. -/
def CompilesTo (esc : UnicodeEscapes) (p : String × String) (t : SearchTerm) : Prop :=
  structuredKey esc p = .ok (renderTerm t) ∧ SearchTerm.WellFormed t

theorem quoted_compiles (esc : UnicodeEscapes) (field keyword : String) (value : Option String)
    (hkeyword : keyword ∈ ["FROM", "SUBJECT", "TEXT"])
    (hkey : ∀ v, structuredKey esc (field, v) = .ok (keyword ++ " " ++ quoteImap v)) :
    Option.Rel (CompilesTo esc) (value.map (field, ·))
      ((value.map fun v => Token.quoted v.toList).map (keyword, ·)) := by
  cases value with
  | none => exact Option.Rel.none
  | some v =>
    refine Option.Rel.some ⟨?_, wellFormed_quoted keyword v hkeyword⟩
    rw [hkey, renderTerm_quoted]

theorem since_compiles (esc : UnicodeEscapes) (value since : Option String)
    (hsince : value.mapM (imapDate esc) = .ok since) :
    Option.Rel (CompilesTo esc) (value.map ("since", ·))
      ((since.map fun v => Token.bare v.toList).map ("SINCE", ·)) := by
  cases value with
  | none =>
    cases hsince
    exact Option.Rel.none
  | some v =>
    obtain ⟨date, hv, hsince⟩ := (bind_eq_ok_iff _ _ _).mp hsince
    cases hsince
    refine Option.Rel.some ⟨?_, wellFormed_date esc v date hv⟩
    rw [renderTerm_bare]
    exact (bind_eq_ok_iff _ _ _).mpr ⟨date, hv, rfl⟩

/-- Field by field, the compiled key is the rendering of the field's term. -/
theorem setFields_terms (esc : UnicodeEscapes) (r : SearchRequest) (since : Option String)
    (hsince : (setValue r.since).mapM (imapDate esc) = .ok since) :
    List.Forall₂ (CompilesTo esc) r.setFields (r.terms since) := by
  have hrows : List.Forall₂
      (fun (p : String × Option String) (q : String × Option (Token Char)) =>
        Option.Rel (CompilesTo esc) (p.2.map (p.1, ·)) (q.2.map (q.1, ·)))
      [("from", setValue r.from), ("subject", setValue r.subject), ("text", setValue r.text),
        ("since", setValue r.since)] (r.termRows since) := by
    refine .cons ?_ (.cons ?_ (.cons ?_ (.cons ?_ .nil)))
    · exact quoted_compiles esc _ _ _ (by simp) fun v => rfl
    · exact quoted_compiles esc _ _ _ (by simp) fun v => rfl
    · exact quoted_compiles esc _ _ _ (by simp) fun v => rfl
    · exact since_compiles esc _ since hsince
  exact List.rel_filterMap (fun _ _ h => h) hrows

theorem quoted_value_injective (a b : Option String)
    (h : (a.map fun v => Token.quoted v.toList) = b.map fun v => Token.quoted v.toList) :
    a = b := by
  apply Option.map_injective (fun v w hvw => ?_) h
  injection hvw with hvw
  exact String.toList_injective hvw

theorem terms_values (r r' : SearchRequest) (since since' : Option String)
    (h : r'.terms since' = r.terms since) :
    setValue r'.from = setValue r.from ∧ setValue r'.subject = setValue r.subject ∧
      setValue r'.text = setValue r.text := by
  have hkeywords (r : SearchRequest) (since : Option String) :
      ((r.termRows since).map Prod.fst).Nodup := by
    simp [SearchRequest.termRows]
  have hlookup (keyword : String) (value value' : Option (Token Char))
      (hmem : (keyword, value) ∈ r.termRows since)
      (hmem' : (keyword, value') ∈ r'.termRows since') : value' = value := by
    have hvalue := lookup_filterMap _ (hkeywords r since) keyword value hmem
    have hvalue' := lookup_filterMap _ (hkeywords r' since') keyword value' hmem'
    rw [← terms_eq] at hvalue hvalue'
    rw [← hvalue, ← hvalue', h]
  refine ⟨?_, ?_, ?_⟩
  · apply quoted_value_injective
    exact hlookup "FROM" _ _ (by simp [SearchRequest.termRows]) (by simp [SearchRequest.termRows])
  · apply quoted_value_injective
    exact hlookup "SUBJECT" _ _ (by simp [SearchRequest.termRows]) (by simp [SearchRequest.termRows])
  · apply quoted_value_injective
    exact hlookup "TEXT" _ _ (by simp [SearchRequest.termRows]) (by simp [SearchRequest.termRows])

theorem readKeys_searchKey (esc : UnicodeEscapes) (r : SearchRequest) (key : String)
    (hset : r.setFields ≠ []) (hkey : r.searchKey esc = .ok key) :
    ∃ since, (setValue r.since).mapM (imapDate esc) = .ok since ∧
      readKeys key = some (r.terms since) := by
  obtain ⟨-, -, keys, hkeys, rfl⟩ := searchKey_of_set esc r key hset hkey
  obtain ⟨since, hsince⟩ := since_normalised esc r keys hkeys
  have hterms := setFields_terms esc r since hsince
  have hrendered : r.setFields.mapM (structuredKey esc) =
      .ok ((r.terms since).map renderTerm) := by
    rw [mapM_eq_ok_iff, List.forall₂_map_right_iff]
    exact hterms.imp fun _ _ h => h.1
  have hsame : keys = (r.terms since).map renderTerm := by
    rw [(mapM_eq_ok_iff _ _ _).mpr hkeys] at hrendered
    exact Except.ok.inj hrendered
  have hne : r.terms since ≠ [] := by
    intro hnil
    rw [hnil] at hterms
    exact hset (List.forall₂_nil_right_iff.mp hterms)
  refine ⟨since, hsince, ?_⟩
  rw [hsame]
  apply readKeys_join _ hne
  intro t ht
  obtain ⟨p, -, hp⟩ := forall₂_mem_right hterms t ht
  exact hp.2

/-- The compiled key tokenises to the caller's fields in their fixed order, every
value unchanged, so two requests share a key only when they ask for the same values. -/
theorem structured_key_reads_back (esc : UnicodeEscapes) (r : SearchRequest) (key : String)
    (hset : r.setFields ≠ []) (hkey : r.searchKey esc = .ok key) :
    (∃ since, (setValue r.since).mapM (imapDate esc) = .ok since ∧
      readKeys key = some (r.terms since)) ∧
    ∀ r' : SearchRequest, r'.setFields ≠ [] → r'.searchKey esc = .ok key →
      setValue r'.from = setValue r.from ∧ setValue r'.subject = setValue r.subject ∧
        setValue r'.text = setValue r.text := by
  obtain ⟨since, hsince, hread⟩ := readKeys_searchKey esc r key hset hkey
  refine ⟨⟨since, hsince, hread⟩, ?_⟩
  intro r' hset' hkey'
  obtain ⟨since', -, hread'⟩ := readKeys_searchKey esc r' key hset' hkey'
  have hterms : r'.terms since' = r.terms since := by
    rw [hread'] at hread
    exact Option.some.inj hread
  exact terms_values r r' since since' hterms

/-- Quotes, backslashes and keywords stay inside the value they came in. -/
def keywordInValue : SearchRequest :=
  { folder := none, «from» := some " a\" SUBJECT \"b\\ ", subject := none, text := some "ALL",
    since := some "2025-07-01", query := some "  ", limit := none }

theorem keyword_in_value_reads_back :
    (∃ since, (setValue keywordInValue.since).mapM (imapDate fun _ => false) = .ok since ∧
      readKeys "FROM \"a\\\" SUBJECT \\\"b\\\\\" TEXT \"ALL\" SINCE 1-Jul-2025" =
        some (keywordInValue.terms since)) ∧
    ∀ r' : SearchRequest, r'.setFields ≠ [] →
      r'.searchKey (fun _ => false) =
        .ok "FROM \"a\\\" SUBJECT \\\"b\\\\\" TEXT \"ALL\" SINCE 1-Jul-2025" →
      setValue r'.from = setValue keywordInValue.from ∧
        setValue r'.subject = setValue keywordInValue.subject ∧
        setValue r'.text = setValue keywordInValue.text :=
  structured_key_reads_back (fun _ => false) keywordInValue _ (by decide) (by rfl)

end Overfwd
