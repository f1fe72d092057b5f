import Mathlib.Data.List.GetD
import Overfwd.Lib.AsciiCase
import Overfwd.SearchKey

namespace Overfwd

open Text Outcome

/-- A date as its caller means it; the year is its four digits. -/
@[ext]
structure CalendarDate where
  day : ℕ
  month : ℕ
  year : String
  fits : DateFits day month year

def CalendarDate.monthName (d : CalendarDate) : String := IMAP_MONTHS.getD (d.month-1) ""

/-- `1-Jul-2025` -/
def CalendarDate.imapText (d : CalendarDate) : String :=
  toString d.day ++ "-" ++ d.monthName ++ "-" ++ d.year

def twoDigits (n : ℕ) : String := if n < 10 then "0" ++ toString n else toString n

/-- `2025-07-01` -/
def CalendarDate.isoText (d : CalendarDate) : String :=
  d.year ++ "-" ++ twoDigits d.month ++ "-" ++ twoDigits d.day

/-- The value says `d` with the year first and the month in digits. -/
def CalendarDate.ReadsIso (d : CalendarDate) (value : String) : Prop :=
  ∃ month day, value = d.year ++ "-" ++ month ++ "-" ++ day ∧ Numeral d.month month ∧
    Numeral d.day day

/-- The value says `d` with the day first and the month by its name, in any case. -/
def CalendarDate.ReadsImap (d : CalendarDate) (value : String) : Prop :=
  ∃ day month, value = day ++ "-" ++ month ++ "-" ++ d.year ∧ Numeral d.day day ∧
    eqIgnoreAsciiCase d.monthName month = true

def CalendarDate.Reads (d : CalendarDate) (value : String) : Prop :=
  d.ReadsIso value ∨ d.ReadsImap value

section Months

/-- The twelve names differ in more than their case. -/
theorem months_nodup : (IMAP_MONTHS.map toAsciiLowercase).Nodup := by decide

theorem month_index_unique (i j : ℕ) (month : String) (hi : i < 12) (hj : j < 12)
    (himonth : eqIgnoreAsciiCase (IMAP_MONTHS.getD i "") month = true)
    (hjmonth : eqIgnoreAsciiCase (IMAP_MONTHS.getD j "") month = true) : i = j := by
  have hlower (k : ℕ) (hk : k < 12)
      (hkmonth : eqIgnoreAsciiCase (IMAP_MONTHS.getD k "") month = true) :
      (IMAP_MONTHS.map toAsciiLowercase)[k]? = some (toAsciiLowercase month) := by
    have hlen : k < IMAP_MONTHS.length := hk
    rw [List.getElem?_map, List.getElem?_eq_getElem hlen, ← List.getD_eq_getElem _ "" hlen]
    exact congrArg some (beq_iff_eq.mp hkmonth)
  have hlen : i < (IMAP_MONTHS.map toAsciiLowercase).length := hi
  have hsame := (hlower i hi himonth).trans (hlower j hj hjmonth).symm
  exact (List.getElem?_inj hlen months_nodup).mp hsame

theorem position_eq_some_iff (month : String) (i : ℕ) :
    (IMAP_MONTHS.findIdx? fun m => eqIgnoreAsciiCase m month) = some i ↔
      i < 12 ∧ eqIgnoreAsciiCase (IMAP_MONTHS.getD i "") month = true := by
  rw [List.findIdx?_eq_some_iff_getElem]
  constructor
  · rintro ⟨hi, hmonth, -⟩
    exact ⟨hi, by rwa [List.getD_eq_getElem _ _ hi]⟩
  · rintro ⟨hi, hmonth⟩
    have hlen : i < IMAP_MONTHS.length := hi
    refine ⟨hlen, by rwa [List.getD_eq_getElem _ _ hlen] at hmonth, ?_⟩
    intro j hj hjmonth
    rw [← List.getD_eq_getElem _ "" (hj.trans hlen)] at hjmonth
    have hsame := month_index_unique i j month hi (hj.trans hi) hmonth hjmonth
    omega

/-- A month's name is made of letters. -/
theorem month_letters (i : ℕ) (month : String) (hi : i < 12)
    (h : eqIgnoreAsciiCase (IMAP_MONTHS.getD i "") month = true) :
    month.toList ≠ [] ∧ ∀ c ∈ month.toList, 97 ≤ c.toLower.toNat := by
  have hletters : ∀ k < 12, (toAsciiLowercase (IMAP_MONTHS.getD k "")).toList ≠ [] ∧
      (toAsciiLowercase (IMAP_MONTHS.getD k "")).toList.all (fun c => 97 ≤ c.toNat) = true := by
    decide
  have hname := hletters i hi
  rw [beq_iff_eq.mp h, toList_toAsciiLowercase, List.all_eq_true] at hname
  refine ⟨fun hnil => hname.1 (by rw [hnil]; rfl), ?_⟩
  intro c hc
  exact of_decide_eq_true (hname.2 _ (List.mem_map_of_mem hc))

theorem toLower_of_numeral (n : ℕ) (s : String) (h : Numeral n s) :
    ∀ c ∈ s.toList, c.toLower.toNat < 97 ∧ c ≠ '-' := by
  intro c hc
  rcases symbol_of_numeral n s h c hc with hdigit | rfl
  · have hrange : 48 ≤ c.toNat ∧ c.toNat ≤ 57 := by
      simpa [Char.isDigit, Char.le_def, UInt32.le_iff_toNat_le] using hdigit
    constructor
    · rw [toNat_toLower]
      split_ifs
      · omega
      · omega
    · rintro rfl
      exact absurd hrange.1 (by decide)
  · decide

/-- No number is a month's name. -/
theorem month_not_numeral (i n : ℕ) (month : String) (hi : i < 12)
    (h : eqIgnoreAsciiCase (IMAP_MONTHS.getD i "") month = true) : ¬ Numeral n month := by
  intro hnumeral
  obtain ⟨hne, hletters⟩ := month_letters i month hi h
  obtain ⟨c, hc⟩ := List.exists_mem_of_ne_nil _ hne
  have hletter := hletters c hc
  have hdigit := (toLower_of_numeral n month hnumeral c hc).1
  omega

theorem month_no_dash (i : ℕ) (month : String) (hi : i < 12)
    (h : eqIgnoreAsciiCase (IMAP_MONTHS.getD i "") month = true) : '-' ∉ month.toList := by
  intro hdash
  exact absurd ((month_letters i month hi h).2 '-' hdash) (by decide)

end Months

section Parts

theorem join_three (first month last : String) :
    join "-" [first, month, last] = first ++ "-" ++ month ++ "-" ++ last := by
  apply String.toList_injective
  simp [join]

theorem split_three (first month last : String) (hfirst : '-' ∉ first.toList)
    (hmonth : '-' ∉ month.toList) (hlast : '-' ∉ last.toList) :
    split '-' (first ++ "-" ++ month ++ "-" ++ last) = [first, month, last] := by
  rw [← join_three]
  apply split_join '-' "-" _ rfl (List.cons_ne_nil _ _)
  intro p hp
  simp only [List.mem_cons, List.not_mem_nil, or_false] at hp
  rcases hp with rfl | rfl | rfl
  · exact hfirst
  · exact hmonth
  · exact hlast

theorem numeral_no_dash (n : ℕ) (s : String) (h : Numeral n s) : '-' ∉ s.toList := by
  intro hdash
  exact (toLower_of_numeral n s h '-' hdash).2 rfl

theorem year_no_dash (d : CalendarDate) : '-' ∉ d.year.toList := by
  intro hdash
  exact absurd (List.all_eq_true.mp d.fits.year_digits '-' hdash) (by decide)

/-- The month a date stands for is one of the twelve. -/
theorem month_index_lt (d : CalendarDate) : d.month-1 < 12 := by
  have hle := d.fits.month_le
  omega

theorem split_of_readsIso (d : CalendarDate) (value : String) (h : d.ReadsIso value) :
    ∃ month day, split '-' value = [d.year, month, day] ∧ Numeral d.month month ∧
      Numeral d.day day := by
  obtain ⟨month, day, rfl, hmonth, hday⟩ := h
  exact ⟨month, day, split_three _ _ _ (year_no_dash d) (numeral_no_dash _ _ hmonth)
    (numeral_no_dash _ _ hday), hmonth, hday⟩

theorem split_of_imap (d : CalendarDate) (day month : String) (hday : Numeral d.day day)
    (hmonth : eqIgnoreAsciiCase d.monthName month = true) :
    split '-' (day ++ "-" ++ month ++ "-" ++ d.year) = [day, month, d.year] :=
  split_three _ _ _ (numeral_no_dash _ _ hday) (month_no_dash _ _ (month_index_lt d) hmonth)
    (year_no_dash d)

end Parts

section Readings

variable (esc : UnicodeEscapes)

/-- What is accepted has been read in one of the two forms. -/
theorem reads_of_imapDate (value out : String) (h : imapDate esc value = .ok out) :
    ∃ d : CalendarDate, out = d.imapText ∧ d.Reads value := by
  obtain ⟨first, month, last, year, m, text, day, hsplit, hparts, hday, hfits, rfl⟩ :=
    (imapDate_eq_ok_iff esc value out).mp h
  have hvalue : value = first ++ "-" ++ month ++ "-" ++ last := by
    rw [← join_three, ← hsplit, join_split '-' "-" value rfl]
  have hnumeral := ((parseUnsigned_eq_some_iff _ _ _).mp hday).1
  rcases hparts with ⟨-, n, hmonth, hparts⟩ | ⟨-, i, hmonth, hparts⟩
  · cases hparts
    have hn := ((parseUnsigned_eq_some_iff _ _ _).mp hmonth).1
    exact ⟨⟨day, m, first, hfits⟩, rfl, Or.inl ⟨month, last, hvalue, hn, hnumeral⟩⟩
  · cases hparts
    have hname := ((position_eq_some_iff _ _).mp hmonth).2
    exact ⟨⟨day, i+1, last, hfits⟩, rfl, Or.inr ⟨first, month, hvalue, hnumeral, hname⟩⟩

theorem imapDate_of_readsIso (d : CalendarDate) (value : String) (h : d.ReadsIso value) :
    imapDate esc value = .ok d.imapText := by
  obtain ⟨month, day, hsplit, hmonth, hday⟩ := split_of_readsIso d value h
  have hmonth_le := d.fits.month_le
  have hday_le := d.fits.day_le
  have hm : parseUnsigned (2^64) month = some d.month :=
    (parseUnsigned_eq_some_iff _ _ _).mpr ⟨hmonth, by omega⟩
  have hd : parseUnsigned (2^32) day = some d.day :=
    (parseUnsigned_eq_some_iff _ _ _).mpr ⟨hday, by omega⟩
  apply (imapDate_eq_ok_iff esc value _).mpr
  exact ⟨d.year, month, day, d.year, d.month, day, d.day, hsplit,
    Or.inl ⟨d.fits.year_len, d.month, hm, rfl⟩, hd, d.fits, rfl⟩

/-- A day of four bytes would be taken for a year; no other spelling is lost. -/
theorem imapDate_of_imap (d : CalendarDate) (day month : String) (hday : Numeral d.day day)
    (hlen : len day ≠ 4) (hmonth : eqIgnoreAsciiCase d.monthName month = true) :
    imapDate esc (day ++ "-" ++ month ++ "-" ++ d.year) = .ok d.imapText := by
  have hday_le := d.fits.day_le
  have hmonth_le := d.fits.month_le
  have hd : parseUnsigned (2^32) day = some d.day :=
    (parseUnsigned_eq_some_iff _ _ _).mpr ⟨hday, by omega⟩
  have hposition := (position_eq_some_iff month (d.month-1)).mpr ⟨month_index_lt d, hmonth⟩
  have hindex : d.month-1+1 = d.month := by omega
  apply (imapDate_eq_ok_iff esc _ _).mpr
  refine ⟨day, month, d.year, d.year, d.month, day, d.day, split_of_imap d day month hday hmonth,
    Or.inr ⟨hlen, d.month-1, hposition, ?_⟩, hd, d.fits, rfl⟩
  rw [hindex]

/-- A value says one date: its three parts are told apart by the one in the middle. -/
theorem reads_unique (d d' : CalendarDate) (value : String) (h : d.Reads value)
    (h' : d'.Reads value) : d = d' := by
  -- The same middle part would be a number in one form and a name in the other.
  have hforms (d d' : CalendarDate) (h : d.ReadsIso value) (h' : d'.ReadsImap value) : False := by
    obtain ⟨month, day, hsplit, hmonth, -⟩ := split_of_readsIso d value h
    obtain ⟨day', month', rfl, hday', hmonth'⟩ := h'
    rw [split_of_imap d' day' month' hday' hmonth'] at hsplit
    cases hsplit
    exact month_not_numeral _ _ _ (month_index_lt d') hmonth' hmonth
  rcases h with h | h
  · rcases h' with h' | h'
    · obtain ⟨month, day, hsplit, hmonth, hday⟩ := split_of_readsIso d value h
      obtain ⟨month', day', hsplit', hmonth', hday'⟩ := split_of_readsIso d' value h'
      obtain ⟨hyear, rfl, rfl⟩ : d.year = d'.year ∧ month = month' ∧ day = day' := by
        simpa [hsplit] using hsplit'
      exact CalendarDate.ext (numeral_unique _ _ _ hday hday') (numeral_unique _ _ _ hmonth hmonth')
        hyear
    · exact (hforms d d' h h').elim
  · rcases h' with h' | h'
    · exact (hforms d' d h' h).elim
    · obtain ⟨day, month, rfl, hday, hmonth⟩ := h
      obtain ⟨day', month', hvalue, hday', hmonth'⟩ := h'
      have hsplit := split_of_imap d day month hday hmonth
      rw [hvalue, split_of_imap d' day' month' hday' hmonth'] at hsplit
      obtain ⟨rfl, rfl, hyear⟩ : day' = day ∧ month' = month ∧ d'.year = d.year := by
        simpa using hsplit
      have hindex := month_index_unique _ _ _ (month_index_lt d) (month_index_lt d') hmonth hmonth'
      have hle := d.fits.month_le
      have hle' := d'.fits.month_le
      exact CalendarDate.ext (numeral_unique _ _ _ hday hday') (by omega) hyear.symm

end Readings

section NormalForm

variable (esc : UnicodeEscapes)

/-- No day of a month takes four bytes when it is written without leading zeros. -/
theorem len_day (d : CalendarDate) : len (toString d.day) ≠ 4 := by
  have hlen : ∀ n < 32, len (toString n) ≠ 4 := by decide
  have hle := d.fits.day_le
  exact hlen d.day (by omega)

theorem numeral_twoDigits (n : ℕ) : Numeral n (twoDigits n) := by
  unfold twoDigits
  split_ifs
  · exact numeral_zero_toString n
  · exact numeral_toString n

theorem imapDate_isoText (d : CalendarDate) : imapDate esc d.isoText = .ok d.imapText := by
  apply imapDate_of_readsIso
  exact ⟨twoDigits d.month, twoDigits d.day, rfl, numeral_twoDigits _, numeral_twoDigits _⟩

theorem imapDate_imapText (d : CalendarDate) : imapDate esc d.imapText = .ok d.imapText := by
  have hname : eqIgnoreAsciiCase d.monthName d.monthName = true := beq_self_eq_true _
  exact imapDate_of_imap esc d _ d.monthName (numeral_toString d.day) (len_day d) hname

/-- `IMAP_MONTHS[month - 1]`, with nothing where the subtraction or the lookup would panic. -/
def indexedMonth (month : ℕ) : Option String :=
  if 1 ≤ month then IMAP_MONTHS[month-1]? else none

/-- `imap_date` with a panic of its indexing as an outcome of its own: `none`. -/
def imapDateIndexed (value : String) : Option (Except GatewayError String) :=
  let bad := GatewayError.badRequest ("invalid `since`: " ++ debugStr esc value ++
    " — expected a date like \"2025-07-01\" or \"1-Jul-2025\"")
  match split '-' value with
  | [first, month, last] =>
    match dateParts bad first month last with
    | .error e => some (.error e)
    | .ok (year, month, day) =>
      match okOr bad (parseUnsigned (2^32) day) with
      | .error e => some (.error e)
      | .ok day =>
        if len year ≠ 4 ∨ ¬ year.toList.all Char.isDigit then some (.error bad)
        else if ¬ (1 ≤ month ∧ month ≤ 12) ∨ ¬ (1 ≤ day ∧ day ≤ 31) then some (.error bad)
        else (indexedMonth month).map fun name =>
          .ok (toString day ++ "-" ++ name ++ "-" ++ year)
  | _ => some (.error bad)

theorem indexedMonth_eq (month : ℕ) (h : 1 ≤ month ∧ month ≤ 12) :
    indexedMonth month = some (IMAP_MONTHS.getD (month-1) "") := by
  have hindex : month-1 < IMAP_MONTHS.length := by
    have hlen : IMAP_MONTHS.length = 12 := rfl
    omega
  unfold indexedMonth
  rw [if_pos h.1, List.getElem?_eq_getElem hindex, List.getD_eq_getElem _ _ hindex]

/-- The ranges are checked before the table is indexed, on every path. -/
theorem imapDateIndexed_eq (value : String) :
    imapDateIndexed esc value = some (imapDate esc value) := by
  unfold imapDateIndexed imapDate
  dsimp only
  generalize GatewayError.badRequest _ = bad
  generalize split '-' value = parts
  rcases parts with _ | ⟨first, _ | ⟨month, _ | ⟨last, _ | ⟨more, rest⟩⟩⟩⟩
  · rfl
  · rfl
  · rfl
  · dsimp only
    cases dateParts bad first month last with
    | error e => rfl
    | ok parts =>
      obtain ⟨year, m, text⟩ := parts
      rw [ok_bind]
      dsimp only
      cases okOr bad (parseUnsigned (2^32) text) with
      | error e => rfl
      | ok day =>
        rw [ok_bind]
        dsimp only
        split_ifs with hyear hrange
        · rfl
        · rfl
        · simp only [not_or, not_not] at hrange
          rw [indexedMonth_eq m hrange.1]
          rfl
  · rfl

end NormalForm

/-- What `imap_date` gives is the normal form of the one date that the value says, and is
left alone when it is given back; the two spellings of a date have the same normal form,
and no value makes the month table be read outside its bounds. -/
theorem imapDate_normal_form (esc : UnicodeEscapes) (value : String) :
    (∀ out, imapDate esc value = .ok out →
      ∃ d : CalendarDate, out = d.imapText ∧ d.Reads value ∧ d.Reads out ∧
        (∀ d' : CalendarDate, d'.Reads value ∨ d'.Reads out → d' = d) ∧
        imapDate esc out = .ok out) ∧
      (∀ d : CalendarDate, imapDate esc d.isoText = .ok d.imapText ∧
        imapDate esc d.imapText = .ok d.imapText) ∧
      imapDateIndexed esc value = some (imapDate esc value) := by
  refine ⟨?_, fun d => ⟨imapDate_isoText esc d, imapDate_imapText esc d⟩,
    imapDateIndexed_eq esc value⟩
  intro out hout
  obtain ⟨d, rfl, hreads⟩ := reads_of_imapDate esc value out hout
  have hnormal := imapDate_imapText esc d
  have hself : d.Reads d.imapText := by
    have hname : eqIgnoreAsciiCase d.monthName d.monthName = true := beq_self_eq_true _
    exact Or.inr ⟨toString d.day, d.monthName, rfl, numeral_toString d.day, hname⟩
  refine ⟨d, rfl, hreads, hself, ?_, hnormal⟩
  rintro d' (h | h)
  · exact reads_unique d' d value h hreads
  · exact reads_unique d' d d.imapText h hself

-- A leading `+` and further zeros are read as the numbers they are.
example : imapDate (fun _ => false) "2025-+007-01" = .ok "1-Jul-2025" := by decide +kernel

end Overfwd
