import Overfwd.SearchKey

/-! The IMAP command line that a search key becomes. `uid_search` writes the key
verbatim between `UID SEARCH ` and the CRLF that ends the command. -/
namespace Overfwd

open Text Outcome

/-- The line written after the tag. -/
def uidSearchLine (key : String) : String := "UID SEARCH " ++ key ++ "\r\n"

def isLineEnd (c : Char) : Bool := c == '\r' || c == '\n'

/-- The commands a server reads off the wire: a CR or an LF ends one. -/
def commandLines (wire : String) : List String :=
  ((wire.toList.splitOnP isLineEnd).filter (· ≠ [])).map String.ofList

def SingleLine (key : String) : Prop := '\r' ∉ key.toList ∧ '\n' ∉ key.toList

instance (key : String) : Decidable (SingleLine key) := inferInstanceAs (Decidable (_ ∧ _))

/-- The key holds no line end, so its line is read as one command. -/
def OneCommand (key : String) : Prop :=
  SingleLine key ∧ commandLines (uidSearchLine key) = ["UID SEARCH " ++ key]

instance (key : String) : Decidable (OneCommand key) := inferInstanceAs (Decidable (_ ∧ _))

theorem single_line_iff (key : String) :
    SingleLine key ↔ ∀ c ∈ key.toList, isLineEnd c = false := by
  constructor
  · rintro ⟨hr, hn⟩ c hc
    have hcr : c ≠ '\r' := fun h => hr (h ▸ hc)
    have hcn : c ≠ '\n' := fun h => hn (h ▸ hc)
    simp [isLineEnd, hcr, hcn]
  · intro h
    refine ⟨fun hr => ?_, fun hn => ?_⟩
    · exact absurd (h _ hr) (by decide)
    · exact absurd (h _ hn) (by decide)

theorem one_command_of_single_line (key : String) (h : SingleLine key) : OneCommand key := by
  refine ⟨h, ?_⟩
  have hkey := (single_line_iff key).mp h
  have hline : ∀ c ∈ ("UID SEARCH " ++ key).toList, isLineEnd c = false := by
    intro c hc
    rw [String.toList_append, List.mem_append] at hc
    rcases hc with hc | hc
    · have hcommand : ("UID SEARCH ".toList.all fun c => !isLineEnd c) = true := by decide
      simpa using List.all_eq_true.mp hcommand c hc
    · exact hkey c hc
  have hwire : (uidSearchLine key).toList = ("UID SEARCH " ++ key).toList ++ '\r' :: ['\n'] := by
    unfold uidSearchLine
    rw [String.toList_append]
    rfl
  have hne : ("UID SEARCH " ++ key).toList ≠ [] := by
    rw [String.toList_append]
    simp
  unfold commandLines
  rw [hwire, List.splitOnP_append_cons_of_forall_mem hline _ (by decide)]
  -- The CR ends the command; the LF behind it ends an empty one, which is dropped.
  have htail : List.splitOnP isLineEnd ['\n'] = [[], []] := rfl
  simp only [htail, List.filter_cons, hne, ne_eq, not_false_eq_true, decide_true, if_true,
    not_true_eq_false, decide_false, Bool.false_eq_true, if_false, List.filter_nil, List.map_cons,
    List.map_nil, String.ofList_toList]

/-- A control character is the only way to a line end. -/
theorem single_line_of_no_control (s : String) (h : s.toList.any isControl = false) :
    SingleLine s := by
  rw [List.any_eq_false] at h
  refine ⟨fun hr => h _ hr (by decide), fun hn => h _ hn (by decide)⟩

theorem single_line_append (s t : String) (hs : SingleLine s) (ht : SingleLine t) :
    SingleLine (s ++ t) := by
  simp only [SingleLine, String.toList_append, List.mem_append, not_or]
  exact ⟨⟨hs.1, ht.1⟩, hs.2, ht.2⟩

theorem single_line_join (sep : String) (parts : List String) (hsep : SingleLine sep)
    (hparts : ∀ p ∈ parts, SingleLine p) : SingleLine (join sep parts) := by
  rw [single_line_iff]
  intro c hc
  rcases mem_join sep parts c hc with h | ⟨p, hp, h⟩
  · exact (single_line_iff sep).mp hsep c h
  · exact (single_line_iff p).mp (hparts p hp) c h

theorem single_line_quoteImap (v : String) (h : SingleLine v) : SingleLine (quoteImap v) := by
  have hbody : SingleLine (String.ofList (v.toList.flatMap fun c =>
      if c = '\\' ∨ c = '"' then ['\\', c] else [c])) := by
    rw [single_line_iff]
    intro c hc
    simp only [String.toList_ofList, List.mem_flatMap] at hc
    obtain ⟨d, hd, hc⟩ := hc
    have hcd : c = '\\' ∨ c = d := by
      split_ifs at hc <;> simp at hc <;> tauto
    rcases hcd with rfl | rfl
    · decide
    · exact (single_line_iff v).mp h c hd
  unfold quoteImap
  exact single_line_append _ _ (single_line_append _ _ (by decide) hbody) (by decide)

theorem single_line_date (esc : UnicodeEscapes) (value date : String)
    (h : imapDate esc value = .ok date) : SingleLine date := by
  obtain ⟨day, month, year, hfits, rfl⟩ := imapDate_eq_ok esc value date h
  have hchars := date_chars day month year hfits
  refine ⟨fun hr => ?_, fun hn => ?_⟩
  · exact absurd (hchars _ hr) (by decide)
  · exact absurd (hchars _ hn) (by decide)

theorem single_line_structuredKey (esc : UnicodeEscapes) (p : String × String) (key : String)
    (hcontrol : p.2.toList.any isControl = false) (h : structuredKey esc p = .ok key) :
    SingleLine key := by
  obtain ⟨field, value⟩ := p
  have hquoted := single_line_quoteImap value (single_line_of_no_control value hcontrol)
  simp only [structuredKey] at h
  split_ifs at h
  · cases h
    exact single_line_append _ _ (by decide) hquoted
  · cases h
    exact single_line_append _ _ (by decide) hquoted
  · cases h
    exact single_line_append _ _ (by decide) hquoted
  · obtain ⟨date, hdate, h⟩ := (bind_eq_ok_iff _ _ _).mp h
    cases h
    exact single_line_append _ _ (by decide) (single_line_date esc value date hdate)

/-- The structured mode keeps every value on the line: the control characters
are refused before quoting and a date is rebuilt from its parts. -/
theorem single_line_of_set (esc : UnicodeEscapes) (r : SearchRequest) (key : String)
    (hset : r.setFields ≠ []) (h : r.searchKey esc = .ok key) : SingleLine key := by
  obtain ⟨-, hcontrol, keys, hkeys, rfl⟩ := searchKey_of_set esc r key hset h
  apply single_line_join _ _ (by decide)
  intro k hk
  obtain ⟨p, hp, hpk⟩ := forall₂_mem_right hkeys k hk
  exact single_line_structuredKey esc p k (hcontrol p hp) hpk

/-- A raw query as the structured mode would want it. With every structured field
unset, a query whose leading token starts a key holds no line end. -/
def RawQuerySafe (r : SearchRequest) : Prop :=
  r.setFields = [] → ∀ query, r.rawQuery = some query →
    startsSearchKey ((splitWhitespace query).headD query) = true → SingleLine query

/-- No mode but an unsafe raw query lets a line end through. -/
theorem one_command_of_safe (esc : UnicodeEscapes) (r : SearchRequest) (hsafe : RawQuerySafe r)
    (key : String) (hkey : r.searchKey esc = .ok key) : OneCommand key := by
  apply one_command_of_single_line
  by_cases hset : r.setFields = []
  · rw [searchKey_of_unset esc r hset, validatedQuery_eq_ok_iff] at hkey
    rcases hkey with ⟨-, rfl⟩ | ⟨hraw, hhead⟩
    · decide
    · exact hsafe hset key hraw hhead
  · exact single_line_of_set esc r key hset hkey

/-- Every accepted key is one command exactly when the raw query is safe: no
other route lets a line end through. -/
theorem search_key_one_command_iff (esc : UnicodeEscapes) (r : SearchRequest) :
    (∀ key, r.searchKey esc = .ok key → OneCommand key) ↔ RawQuerySafe r := by
  constructor
  · intro hall hunset query hraw hhead
    have hkey : r.searchKey esc = .ok query := by
      rw [searchKey_of_unset esc r hunset, validatedQuery_eq_ok_iff]
      exact Or.inr ⟨hraw, hhead⟩
    exact (hall query hkey).1
  · exact fun hsafe key hkey => one_command_of_safe esc r hsafe key hkey

/-- `{"criteria": "UNSEEN\r\nA1 LOGOUT"}`: the head is a key, the rest a second command. -/
def pipelinedQuery : SearchRequest :=
  { folder := none, «from» := none, subject := none, text := none, since := none,
    query := some "UNSEEN\r\nA1 LOGOUT", limit := none }

theorem pipelined_query_two_commands :
    pipelinedQuery.searchKey (fun _ => false) = .ok "UNSEEN\r\nA1 LOGOUT" ∧
      commandLines (uidSearchLine "UNSEEN\r\nA1 LOGOUT") = ["UID SEARCH UNSEEN", "A1 LOGOUT"] ∧
      ¬ ∀ key, pipelinedQuery.searchKey (fun _ => false) = .ok key → OneCommand key := by
  have hkey : pipelinedQuery.searchKey (fun _ => false) = .ok "UNSEEN\r\nA1 LOGOUT" := rfl
  refine ⟨hkey, by decide, fun hall => ?_⟩
  exact (hall _ hkey).1.1 (by decide)

end Overfwd
