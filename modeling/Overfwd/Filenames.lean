import Overfwd.Attachments

namespace Overfwd

open Text

/-- The characters a name keeps. -/
def isNameChar (c : Char) : Bool :=
  !isControl c && !isBidiControl c && c != '/' && c != '\\'

/-- A given name without what it may not hold, and without blanks at its ends. -/
def cleanedName (raw : String) : List Char := trimList (raw.toList.filter isNameChar)

/-- A name that neither a header nor a directory can be upset with. -/
structure SafeName (name : String) : Prop where
  ne_nil : name.toList ≠ []
  length_le : name.toList.length ≤ MAX_FILENAME_CHARS
  no_control : ∀ c ∈ name.toList, isControl c = false
  no_bidi : ∀ c ∈ name.toList, isBidiControl c = false
  no_slash : '/' ∉ name.toList
  no_backslash : '\\' ∉ name.toList
  trimmed : IsTrimmed name.toList
  not_dots : ∃ c ∈ name.toList, c ≠ '.'

theorem isNameChar_iff (c : Char) :
    isNameChar c = true ↔
      isControl c = false ∧ isBidiControl c = false ∧ c ≠ '/' ∧ c ≠ '\\' := by
  unfold isNameChar
  rw [Bool.and_eq_true, Bool.and_eq_true, Bool.and_eq_true, Bool.not_eq_true', Bool.not_eq_true',
    bne_iff_ne, bne_iff_ne, and_assoc, and_assoc]

theorem SafeName.isNameChar {name : String} (h : SafeName name) :
    ∀ c ∈ name.toList, isNameChar c = true := by
  intro c hc
  rw [isNameChar_iff]
  refine ⟨h.no_control c hc, h.no_bidi c hc, ?_, ?_⟩
  · intro heq
    exact h.no_slash (heq ▸ hc)
  · intro heq
    exact h.no_backslash (heq ▸ hc)

/-- The part of a cleaned name that is kept: the clamp may leave a blank at its end. -/
def keptName (cleaned : List Char) : List Char :=
  (cleaned.take MAX_FILENAME_CHARS).rdropWhile isWhitespace

theorem sanitizeFilename_eq (raw : String) :
    sanitizeFilename raw =
      if (keptName (cleanedName raw)).isEmpty || (keptName (cleanedName raw)).all (· == '.')
        then FALLBACK_FILENAME
      else String.ofList (keptName (cleanedName raw)) := by
  let clamped := String.ofList ((cleanedName raw).take MAX_FILENAME_CHARS)
  have hname : trimEnd clamped = String.ofList (keptName (cleanedName raw)) := by
    unfold trimEnd clamped
    rw [String.toList_ofList]
    rfl
  change (if isEmpty (trimEnd clamped) || (trimEnd clamped).toList.all (· == '.')
      then FALLBACK_FILENAME
    else trimEnd clamped) = _
  rw [hname]
  unfold isEmpty
  rw [String.toList_ofList]

section Kept

theorem keptName_front (cleaned : List Char) : keptName cleaned <+: cleaned :=
  (List.rdropWhile_prefix _ _).trans (List.take_prefix _ _)

/-- A trimmed name within the limit is kept whole. -/
theorem keptName_eq_self (cleaned : List Char) (hlength : cleaned.length ≤ MAX_FILENAME_CHARS)
    (htrimmed : IsTrimmed cleaned) : keptName cleaned = cleaned := by
  unfold keptName
  rw [List.take_of_length_le hlength, List.rdropWhile_eq_self_iff]
  intro hne
  rw [htrimmed.last _ (List.getLast?_eq_some_getLast hne)]
  exact Bool.false_ne_true

theorem exists_ne_dot (cs : List Char) (h : (cs.all (· == '.')) = false) : ∃ c ∈ cs, c ≠ '.' := by
  rw [List.all_eq_false] at h
  obtain ⟨c, hc, hdot⟩ := h
  exact ⟨c, hc, fun heq => hdot (beq_iff_eq.mpr heq)⟩

theorem safeName_kept (raw : String) (hne : (keptName (cleanedName raw)).isEmpty = false)
    (hdots : (keptName (cleanedName raw)).all (· == '.') = false) :
    SafeName (String.ofList (keptName (cleanedName raw))) := by
  have hchar : ∀ c ∈ keptName (cleanedName raw), isNameChar c = true := by
    intro c hc
    have hcleaned : c ∈ cleanedName raw := (keptName_front _).subset hc
    have hfiltered : c ∈ raw.toList.filter isNameChar :=
      (List.dropWhile_suffix _).subset ((List.rdropWhile_prefix _ _).subset hcleaned)
    exact (List.mem_filter.mp hfiltered).2
  have hallowed := fun c hc => (isNameChar_iff c).mp (hchar c hc)
  have htrimmed : IsTrimmed (keptName (cleanedName raw)) :=
    isTrimmed_rdropWhile _ _ (isTrimmed_trimList _).head (List.take_prefix _ _)
  have hlength : (keptName (cleanedName raw)).length ≤ MAX_FILENAME_CHARS :=
    (List.rdropWhile_prefix _ _).length_le.trans (List.length_take_le _ _)
  constructor
  all_goals rw [String.toList_ofList]
  · exact List.isEmpty_eq_false_iff.mp hne
  · exact hlength
  · exact fun c hc => (hallowed c hc).1
  · exact fun c hc => (hallowed c hc).2.1
  · exact fun hmem => (hallowed '/' hmem).2.2.1 rfl
  · exact fun hmem => (hallowed '\\' hmem).2.2.2 rfl
  · exact htrimmed
  · exact exists_ne_dot _ hdots

end Kept

theorem safeName_fallback : SafeName FALLBACK_FILENAME where
  ne_nil := by decide
  length_le := by decide
  no_control := forall_mem_toList _ (by decide)
  no_bidi := forall_mem_toList _ (by decide)
  no_slash := by decide
  no_backslash := by decide
  trimmed := isTrimmed_of_forall _ (forall_mem_toList _ (by decide))
  not_dots := ⟨'a', by decide, by decide⟩

theorem safeName_sanitizeFilename (raw : String) : SafeName (sanitizeFilename raw) := by
  rw [sanitizeFilename_eq]
  split_ifs with hbad
  · exact safeName_fallback
  · rw [Bool.or_eq_true, not_or, Bool.not_eq_true, Bool.not_eq_true] at hbad
    exact safeName_kept raw hbad.1 hbad.2

/-- A cleaned name that is within the limit and not all dots goes out as it is. -/
theorem sanitizeFilename_of_cleaned (raw : String) (hne : cleanedName raw ≠ [])
    (hlength : (cleanedName raw).length ≤ MAX_FILENAME_CHARS)
    (hdots : ∃ c ∈ cleanedName raw, c ≠ '.') :
    sanitizeFilename raw = String.ofList (cleanedName raw) := by
  have hkept := keptName_eq_self _ hlength (isTrimmed_trimList _)
  obtain ⟨c, hc, hdot⟩ := hdots
  have hall : (cleanedName raw).all (· == '.') = false := by
    rw [List.all_eq_false]
    exact ⟨c, hc, fun heq => hdot (beq_iff_eq.mp heq)⟩
  rw [sanitizeFilename_eq]
  rw [hkept, hall, List.isEmpty_eq_false_iff.mpr hne]
  rfl

/-- A safe name has nothing to be cleaned of. -/
theorem cleanedName_of_safe (name : String) (h : SafeName name) :
    cleanedName name = name.toList := by
  unfold cleanedName
  rw [List.filter_eq_self.mpr h.isNameChar]
  exact trimList_eq_self _ h.trimmed

theorem sanitizeFilename_eq_self_iff (name : String) :
    sanitizeFilename name = name ↔ SafeName name := by
  constructor
  · intro h
    rw [← h]
    exact safeName_sanitizeFilename name
  · intro h
    have hcleaned := cleanedName_of_safe name h
    rw [sanitizeFilename_of_cleaned name (by rw [hcleaned]; exact h.ne_nil)
      (by rw [hcleaned]; exact h.length_le) (by rw [hcleaned]; exact h.not_dots), hcleaned,
      String.ofList_toList]

theorem sanitizeFilename_front (raw : String) :
    (sanitizeFilename raw).toList <+: cleanedName raw ∨
      sanitizeFilename raw = FALLBACK_FILENAME := by
  rw [sanitizeFilename_eq]
  split_ifs
  · exact Or.inr rfl
  · rw [String.toList_ofList]
    exact Or.inl (keptName_front _)

/-- Every name comes out safe and would come out the same again. It is a front part of the
cleaned name or the fallback, and the cleaned name itself whenever that is short enough and
has more to it than dots. -/
theorem sanitized_names (raw : String) :
    SafeName (sanitizeFilename raw) ∧
      sanitizeFilename (sanitizeFilename raw) = sanitizeFilename raw ∧
      ((sanitizeFilename raw).toList <+: cleanedName raw ∨
        sanitizeFilename raw = FALLBACK_FILENAME) ∧
      (cleanedName raw ≠ [] → (cleanedName raw).length ≤ MAX_FILENAME_CHARS →
        (∃ c ∈ cleanedName raw, c ≠ '.') →
          sanitizeFilename raw = String.ofList (cleanedName raw)) := by
  have hsafe := safeName_sanitizeFilename raw
  exact ⟨hsafe, (sanitizeFilename_eq_self_iff _).mpr hsafe, sanitizeFilename_front raw,
    sanitizeFilename_of_cleaned raw⟩

end Overfwd
