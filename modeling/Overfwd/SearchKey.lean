import Overfwd.Error
import Overfwd.Lib.Outcome
import Overfwd.Lib.Text

namespace Overfwd

open Text Outcome

/-- Characters beyond ASCII that `{:?}` writes as `\u{..}`: the Unicode tables of
the Rust release, of which nothing below depends on. -/
abbrev UnicodeEscapes := Char → Bool

def hexDigits (n : ℕ) : String := String.ofList (Nat.toDigits 16 n)

/-- `char::escape_debug` as `{:?}` of a `str` applies it: `'` stays as it is. -/
def escapeDebug (esc : UnicodeEscapes) (c : Char) : String :=
  if c = '\x00' then "\\0"
  else if c = '\t' then "\\t"
  else if c = '\r' then "\\r"
  else if c = '\n' then "\\n"
  else if c = '"' then "\\\""
  else if c = '\\' then "\\\\"
  else if isControl c ∨ (0x80 ≤ c.toNat ∧ esc c) then "\\u\x7b" ++ hexDigits c.toNat ++ "\x7d"
  else String.ofList [c]

/-- `format!("{s:?}")`. -/
def debugStr (esc : UnicodeEscapes) (s : String) : String :=
  "\"" ++ join "" (s.toList.map (escapeDebug esc)) ++ "\""

structure SearchRequest where
  folder : Option String
  «from» : Option String
  subject : Option String
  text : Option String
  since : Option String
  query : Option String
  limit : Option ℕ
  deriving DecidableEq

def ALL_SEARCH_QUERY : String := "ALL"

def SEARCH_KEYS : List String :=
  ["ALL", "ANSWERED", "BCC", "BEFORE", "BODY", "CC", "DELETED", "DRAFT", "FLAGGED", "FROM",
    "HEADER", "KEYWORD", "LARGER", "NEW", "NOT", "OLD", "OLDER", "ON", "OR", "RECENT", "SEEN",
    "SENTBEFORE", "SENTON", "SENTSINCE", "SINCE", "SMALLER", "SUBJECT", "TEXT", "TO", "UID",
    "UNANSWERED", "UNDELETED", "UNDRAFT", "UNFLAGGED", "UNKEYWORD", "UNSEEN", "YOUNGER"]

def DEFAULT_SEARCH_LIMIT : ℕ := 10

def MAX_SEARCH_LIMIT : ℕ := 50

def IMAP_MONTHS : List String :=
  ["Jan", "Feb", "Mar", "Apr", "May", "Jun", "Jul", "Aug", "Sep", "Oct", "Nov", "Dec"]

/-- `quote_imap`: `\` and `"` are the two characters escaped in a quoted string. -/
def quoteImap (value : String) : String :=
  "\"" ++ String.ofList (value.toList.flatMap fun c =>
    if c = '\\' ∨ c = '"' then ['\\', c] else [c]) ++ "\""

/-- `structured_value`: the trimmed value, `none` when absent or blank. A control
character is refused outright. -/
def structuredValue (field : String) (value : Option String) :
    Except GatewayError (Option String) :=
  match value.map trim with
  | some v =>
    if isEmpty v then .ok none
    else if v.toList.any isControl then
      .error (.badRequest ("invalid `" ++ field ++
        "`: control characters are not allowed in a search value"))
    else .ok (some v)
  | none => .ok none

/-- Year, month and day of a date in three parts: ISO `2025-07-01` and IMAP
`1-Jul-2025` are told apart by which end holds the four-digit year. -/
def dateParts (bad : GatewayError) (first month last : String) :
    Except GatewayError (String × ℕ × String) :=
  if len first = 4 then do
    let month ← okOr bad (parseUnsigned (2^64) month)
    .ok (first, month, last)
  else do
    let i ← okOr bad (IMAP_MONTHS.findIdx? fun m => eqIgnoreAsciiCase m month)
    .ok (last, i+1, first)

/-- `imap_date`: both spellings become `d-Mmm-yyyy`, the day unpadded. -/
def imapDate (esc : UnicodeEscapes) (value : String) : Except GatewayError String :=
  let bad := GatewayError.badRequest ("invalid `since`: " ++ debugStr esc value ++
    " — expected a date like \"2025-07-01\" or \"1-Jul-2025\"")
  match split '-' value with
  | [first, month, last] => do
    let (year, month, day) ← dateParts bad first month last
    let day ← okOr bad (parseUnsigned (2^32) day)
    if len year ≠ 4 ∨ ¬ year.toList.all Char.isDigit then .error bad
    else if ¬ (1 ≤ month ∧ month ≤ 12) ∨ ¬ (1 ≤ day ∧ day ≤ 31) then .error bad
    -- The month is in range, so the lookup never falls back.
    else .ok (toString day ++ "-" ++ IMAP_MONTHS.getD (month-1) "" ++ "-" ++ year)
  | _ => .error bad

/-- The `structured` vector of `search_key`: the set fields in declaration order. -/
def SearchRequest.structured (r : SearchRequest) : Except GatewayError (List (String × String)) := do
  let sender ← structuredValue "from" r.from
  let subject ← structuredValue "subject" r.subject
  let text ← structuredValue "text" r.text
  let since ← structuredValue "since" r.since
  pure ([("from", sender), ("subject", subject), ("text", text), ("since", since)].filterMap
    fun p => p.2.map (p.1, ·))

/-- The trimmed raw query, `none` when absent or blank. -/
def SearchRequest.rawQuery (r : SearchRequest) : Option String :=
  match r.query.map trim with
  | some q => if isEmpty q then none else some q
  | none => none

/-- One structured param as a SEARCH key. -/
def structuredKey (esc : UnicodeEscapes) : String × String → Except GatewayError String
  | (field, value) =>
    if field = "from" then .ok ("FROM " ++ quoteImap value)
    else if field = "subject" then .ok ("SUBJECT " ++ quoteImap value)
    else if field = "text" then .ok ("TEXT " ++ quoteImap value)
    else do
      let date ← imapDate esc value
      .ok ("SINCE " ++ date)

/-- `head` may begin a SEARCH key: a keyword, a sequence set or a group. -/
def startsSearchKey (head : String) : Bool :=
  SEARCH_KEYS.contains (toAsciiUppercase head) ||
    head.toList.all (fun c => c.isDigit || c == ',' || c == ':' || c == '*') ||
    startsWith "(" head

/-- `validated_query`: only the leading token of the raw query is inspected. -/
def SearchRequest.validatedQuery (esc : UnicodeEscapes) (r : SearchRequest) :
    Except GatewayError String :=
  match r.rawQuery with
  | none => .ok ALL_SEARCH_QUERY
  | some query =>
    -- What follows the first token is taken as it is, line ends included.
    if startsSearchKey ((splitWhitespace query).headD query) then .ok query
    else .error (.badRequest ("invalid criteria: " ++ debugStr esc query ++
      " — bare words are not IMAP SEARCH keys. Did you mean FROM " ++ debugStr esc query ++
      " or TEXT " ++ debugStr esc query ++ "?"))

/-- `search_key`. -/
def SearchRequest.searchKey (esc : UnicodeEscapes) (r : SearchRequest) :
    Except GatewayError String := do
  let structured ← r.structured
  if structured ≠ [] then
    if r.rawQuery.isSome then
      .error (.badRequest ("`query` cannot be combined with the structured params (" ++
        join ", " (structured.map Prod.fst) ++ ") — use one or the other. `query` takes the " ++
        "full IMAP SEARCH grammar; the structured params are ANDed together and quoted for you."))
    else do
      let keys ← structured.mapM (structuredKey esc)
      .ok (join " " keys)
  else r.validatedQuery esc

/-- `effective_limit`. -/
def SearchRequest.effectiveLimit (r : SearchRequest) : ℕ :=
  min (r.limit.getD DEFAULT_SEARCH_LIMIT) MAX_SEARCH_LIMIT

/-- The "unset" rule of every search value: trimmed, and `none` when blank. -/
def setValue (value : Option String) : Option String :=
  (value.map trim).filter fun v => !isEmpty v

theorem structuredValue_eq (field : String) (value : Option String) :
    structuredValue field value = match setValue value with
      | none => .ok none
      | some v => if v.toList.any isControl then
          .error (.badRequest ("invalid `" ++ field ++
            "`: control characters are not allowed in a search value"))
        else .ok (some v) := by
  cases value with
  | none => rfl
  | some s =>
    simp only [structuredValue, setValue, Option.map_some, Option.filter_some]
    by_cases hblank : isEmpty (trim s) <;> simp [hblank]

theorem structuredValue_eq_ok_iff (field : String) (value o : Option String) :
    structuredValue field value = .ok o ↔
      setValue value = o ∧ ∀ v, o = some v → v.toList.any isControl = false := by
  rw [structuredValue_eq]
  cases setValue value with
  | none =>
    constructor
    · intro h
      cases h
      simp
    · rintro ⟨rfl, -⟩
      rfl
  | some v =>
    by_cases hcontrol : v.toList.any isControl = true
    · simp only [hcontrol, if_true]
      constructor
      · intro h
        cases h
      · rintro ⟨rfl, h⟩
        exact absurd hcontrol (by simp [h v rfl])
    · simp only [hcontrol]
      constructor
      · intro h
        cases h
        simpa using hcontrol
      · rintro ⟨rfl, -⟩
        rfl

/-- The structured fields the caller set, trimmed, in the order FROM, SUBJECT, TEXT, SINCE. -/
def SearchRequest.setFields (r : SearchRequest) : List (String × String) :=
  [("from", setValue r.from), ("subject", setValue r.subject), ("text", setValue r.text),
    ("since", setValue r.since)].filterMap fun p => p.2.map (p.1, ·)

theorem structured_eq_ok_iff (r : SearchRequest) (fs : List (String × String)) :
    r.structured = .ok fs ↔
      r.setFields = fs ∧ ∀ p ∈ fs, p.2.toList.any isControl = false := by
  simp only [SearchRequest.structured, bind_eq_ok_iff, structuredValue_eq_ok_iff]
  constructor
  · rintro ⟨_, ⟨rfl, h1⟩, _, ⟨rfl, h2⟩, _, ⟨rfl, h3⟩, _, ⟨rfl, h4⟩, h⟩
    obtain rfl : r.setFields = fs := by
      simpa [pure, Except.pure, SearchRequest.setFields] using h
    refine ⟨rfl, ?_⟩
    rintro ⟨field, v⟩ hp
    simp only [SearchRequest.setFields, List.mem_filterMap, List.mem_cons, List.not_mem_nil,
      or_false, Option.map_eq_some_iff, Prod.mk.injEq] at hp
    obtain ⟨_, rfl | rfl | rfl | rfl, w, hw, _, rfl⟩ := hp
    · exact h1 _ hw
    · exact h2 _ hw
    · exact h3 _ hw
    · exact h4 _ hw
  · rintro ⟨rfl, h⟩
    have hset (field : String) (value : Option String)
        (hmem : (field, value) ∈ [("from", setValue r.from), ("subject", setValue r.subject),
          ("text", setValue r.text), ("since", setValue r.since)]) (v : String)
        (hv : value = some v) : v.toList.any isControl = false :=
      h (field, v) (List.mem_filterMap.mpr ⟨_, hmem, by rw [hv]; rfl⟩)
    exact ⟨_, ⟨rfl, hset "from" _ (by simp)⟩, _, ⟨rfl, hset "subject" _ (by simp)⟩,
      _, ⟨rfl, hset "text" _ (by simp)⟩, _, ⟨rfl, hset "since" _ (by simp)⟩, rfl⟩

/-- Day, month and year of a date that `imap_date` accepts. -/
structure DateFits (day month : ℕ) (year : String) : Prop where
  day_le : 1 ≤ day ∧ day ≤ 31
  month_le : 1 ≤ month ∧ month ≤ 12
  year_len : len year = 4
  year_digits : year.toList.all Char.isDigit = true

/-- What three parts say, whichever end holds the year: year, month and day. -/
def PartsRead (first month last : String) (parts : String × ℕ × String) : Prop :=
  (len first = 4 ∧ ∃ m, parseUnsigned (2^64) month = some m ∧ parts = (first, m, last)) ∨
  (len first ≠ 4 ∧ ∃ i, (IMAP_MONTHS.findIdx? fun m => eqIgnoreAsciiCase m month) = some i ∧
    parts = (last, i+1, first))

theorem dateParts_eq_ok_iff (bad : GatewayError) (first month last : String)
    (parts : String × ℕ × String) :
    dateParts bad first month last = .ok parts ↔ PartsRead first month last parts := by
  unfold dateParts PartsRead
  by_cases hlen : len first = 4
  · simp only [hlen, if_true, bind_eq_ok_iff, okOr_eq_ok_iff, Except.ok.injEq, true_and, ne_eq,
      not_true, false_and, or_false]
    exact exists_congr fun m => and_congr_right fun _ => eq_comm
  · simp only [hlen, if_false, bind_eq_ok_iff, okOr_eq_ok_iff, Except.ok.injEq, false_and, ne_eq,
      not_false_eq_true, true_and, false_or]
    exact exists_congr fun i => and_congr_right fun _ => eq_comm

theorem imapDate_eq_ok_iff (esc : UnicodeEscapes) (value date : String) :
    imapDate esc value = .ok date ↔
      ∃ first month last year m text day, split '-' value = [first, month, last] ∧
        PartsRead first month last (year, m, text) ∧ parseUnsigned (2^32) text = some day ∧
        DateFits day m year ∧
        date = toString day ++ "-" ++ IMAP_MONTHS.getD (m-1) "" ++ "-" ++ year := by
  constructor
  · intro h
    unfold imapDate at h
    split at h
    case h_2 => cases h
    case h_1 first month last hsplit =>
      obtain ⟨⟨year, m, text⟩, hparts, h⟩ := (bind_eq_ok_iff _ _ _).mp h
      obtain ⟨day, hday, h⟩ := (bind_eq_ok_iff _ _ _).mp h
      refine ⟨first, month, last, year, m, text, day, hsplit,
        (dateParts_eq_ok_iff _ _ _ _ _).mp hparts, (okOr_eq_ok_iff _ _ _).mp hday, ?_⟩
      by_cases hyear : len year ≠ 4 ∨ ¬ year.toList.all Char.isDigit
      · rw [if_pos hyear] at h
        cases h
      · by_cases hrange : ¬ (1 ≤ m ∧ m ≤ 12) ∨ ¬ (1 ≤ day ∧ day ≤ 31)
        · rw [if_neg hyear, if_pos hrange] at h
          cases h
        · rw [if_neg hyear, if_neg hrange] at h
          cases h
          simp only [not_or, not_not] at hyear hrange
          exact ⟨⟨hrange.2, hrange.1, hyear.1, hyear.2⟩, rfl⟩
  · rintro ⟨first, month, last, year, m, text, day, hsplit, hparts, hday, hfits, rfl⟩
    have hyear : ¬ (len year ≠ 4 ∨ ¬ year.toList.all Char.isDigit) := by
      simp [hfits.year_len, hfits.year_digits]
    have hrange : ¬ (¬ (1 ≤ m ∧ m ≤ 12) ∨ ¬ (1 ≤ day ∧ day ≤ 31)) := by
      simp [hfits.month_le, hfits.day_le]
    unfold imapDate
    simp only [hsplit, (dateParts_eq_ok_iff _ _ _ _ _).mpr hparts, ok_bind, hday, okOr]
    rw [if_neg hyear, if_neg hrange]

theorem imapDate_eq_ok (esc : UnicodeEscapes) (value date : String)
    (h : imapDate esc value = .ok date) :
    ∃ day month year, DateFits day month year ∧
      date = toString day ++ "-" ++ IMAP_MONTHS.getD (month-1) "" ++ "-" ++ year := by
  obtain ⟨-, -, -, year, month, -, day, -, -, -, hfits, hdate⟩ :=
    (imapDate_eq_ok_iff esc value date).mp h
  exact ⟨day, month, year, hfits, hdate⟩

theorem date_chars (day month : ℕ) (year : String) (h : DateFits day month year) :
    ∀ c ∈ (toString day ++ "-" ++ IMAP_MONTHS.getD (month-1) "" ++ "-" ++ year).toList,
      c.isAlphanum ∨ c = '-' := by
  have hmonths : (IMAP_MONTHS.all fun m => m.toList.all Char.isAlphanum) = true := by decide
  have hindex : month-1 < IMAP_MONTHS.length := by
    have hlen : IMAP_MONTHS.length = 12 := rfl
    have hle := h.month_le
    omega
  intro c hc
  simp only [String.toList_append, List.mem_append] at hc
  rcases hc with (((hc | hc) | hc) | hc) | hc
  · exact Or.inl (by simp [Char.isAlphanum, isDigit_of_mem_toString day c hc])
  · exact Or.inr (by simpa using hc)
  · rw [List.getD_eq_getElem?_getD, List.getElem?_eq_getElem hindex, Option.getD_some] at hc
    have hmonth := List.all_eq_true.mp hmonths _ (List.getElem_mem hindex)
    exact Or.inl (List.all_eq_true.mp hmonth c hc)
  · exact Or.inr (by simpa using hc)
  · have hdigit := List.all_eq_true.mp h.year_digits c hc
    exact Or.inl (by simp [Char.isAlphanum, hdigit])

theorem searchKey_of_unset (esc : UnicodeEscapes) (r : SearchRequest) (h : r.setFields = []) :
    r.searchKey esc = r.validatedQuery esc := by
  have hfields : r.structured = .ok [] := by
    rw [structured_eq_ok_iff]
    exact ⟨h, by simp⟩
  simp only [SearchRequest.searchKey, hfields]
  rfl

theorem searchKey_of_set (esc : UnicodeEscapes) (r : SearchRequest) (key : String)
    (hset : r.setFields ≠ []) (h : r.searchKey esc = .ok key) :
    r.rawQuery = none ∧ (∀ p ∈ r.setFields, p.2.toList.any isControl = false) ∧
      ∃ keys, List.Forall₂ (fun p k => structuredKey esc p = .ok k) r.setFields keys ∧
        key = join " " keys := by
  obtain ⟨fs, hfs, h⟩ := (bind_eq_ok_iff _ _ _).mp h
  obtain ⟨rfl, hcontrol⟩ := (structured_eq_ok_iff r fs).mp hfs
  rw [if_pos hset] at h
  by_cases hraw : r.rawQuery.isSome
  · rw [if_pos hraw] at h
    cases h
  · rw [if_neg hraw] at h
    obtain ⟨keys, hkeys, h⟩ := (bind_eq_ok_iff _ _ _).mp h
    cases h
    exact ⟨by simpa using hraw, hcontrol, keys, (mapM_eq_ok_iff _ _ _).mp hkeys, rfl⟩

theorem validatedQuery_eq_ok_iff (esc : UnicodeEscapes) (r : SearchRequest) (key : String) :
    r.validatedQuery esc = .ok key ↔
      (r.rawQuery = none ∧ key = ALL_SEARCH_QUERY) ∨
      (r.rawQuery = some key ∧ startsSearchKey ((splitWhitespace key).headD key) = true) := by
  unfold SearchRequest.validatedQuery
  -- Only the first word is looked at; what follows it goes to the server as it is.
  cases r.rawQuery with
  | none =>
    constructor
    · intro h
      cases h
      exact Or.inl ⟨rfl, rfl⟩
    · rintro (⟨-, rfl⟩ | ⟨h, -⟩)
      · rfl
      · cases h
  | some query =>
    by_cases hhead : startsSearchKey ((splitWhitespace query).headD query) = true
    · simp only [hhead, if_true]
      constructor
      · intro h
        cases h
        exact Or.inr ⟨rfl, hhead⟩
      · rintro (⟨h, -⟩ | ⟨h, -⟩)
        · cases h
        · cases h
          rfl
    · simp only [hhead]
      constructor
      · intro h
        cases h
      · rintro (⟨h, -⟩ | ⟨h, hkey⟩)
        · cases h
        · cases h
          exact absurd hkey hhead

end Overfwd
