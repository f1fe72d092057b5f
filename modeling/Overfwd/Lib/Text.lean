import Mathlib.Algebra.GroupWithZero.Nat
import Mathlib.Data.List.DropRight
import Mathlib.Data.List.TakeWhile
import Mathlib.Data.List.Basic

/-! Rust's `str` operations on Lean strings, by their documented behaviour.
Every function works on the list of Unicode scalar values of the string. -/
namespace Text

/-- `char::is_whitespace`: the Unicode `White_Space` property. -/
def isWhitespace (c : Char) : Bool :=
  let n := c.toNat
  (9 ≤ n && n ≤ 13) || n == 0x20 || n == 0x85 || n == 0xA0 || n == 0x1680 ||
    (0x2000 ≤ n && n ≤ 0x200A) || n == 0x2028 || n == 0x2029 || n == 0x202F ||
    n == 0x205F || n == 0x3000

/-- `char::is_control`: the general category `Cc`. -/
def isControl (c : Char) : Bool := c.toNat < 0x20 || (0x7F ≤ c.toNat && c.toNat ≤ 0x9F)

def trimList (cs : List Char) : List Char := (cs.dropWhile isWhitespace).rdropWhile isWhitespace

/-- `str::trim`. -/
def trim (s : String) : String := String.ofList (trimList s.toList)

/-- `str::trim_end_matches` for one character. -/
def trimEndMatches (c : Char) (s : String) : String :=
  String.ofList (s.toList.rdropWhile (· == c))

/-- `str::trim_end_matches` for any of several characters. -/
def trimEndMatchesAny (cs : List Char) (s : String) : String :=
  String.ofList (s.toList.rdropWhile fun c => cs.contains c)

/-- `str::trim_end`. -/
def trimEnd (s : String) : String := String.ofList (s.toList.rdropWhile isWhitespace)

/-- `str::as_bytes`. -/
def bytes (s : String) : List UInt8 := s.toUTF8.data.toList

/-- `String::from_utf8`. -/
def fromUtf8 (bs : List UInt8) : Option String := String.fromUTF8? ⟨bs.toArray⟩

/-- `str::split` for one character. -/
def split (c : Char) (s : String) : List String := (s.toList.splitOn c).map String.ofList

/-- `str::split_whitespace`. -/
def splitWhitespace (s : String) : List String :=
  ((s.toList.splitOnP isWhitespace).filter (· ≠ [])).map String.ofList

/-- `[String]::join`. -/
def join (sep : String) (parts : List String) : String :=
  String.ofList (sep.toList.intercalate (parts.map String.toList))

def splitOnceList (c : Char) : List Char → Option (List Char × List Char)
  | [] => none
  | d :: ds => if d = c then some ([], ds) else (splitOnceList c ds).map fun p => (d :: p.1, p.2)

/-- `str::split_once` for one character. -/
def splitOnce (c : Char) (s : String) : Option (String × String) :=
  (splitOnceList c s.toList).map fun p => (String.ofList p.1, String.ofList p.2)

/-- `str::rsplit_once` for one character: the split at its last occurrence. -/
def rsplitOnce (c : Char) (s : String) : Option (String × String) :=
  (splitOnceList c s.toList.reverse).map fun p =>
    (String.ofList p.2.reverse, String.ofList p.1.reverse)

/-- `str::strip_prefix`. -/
def stripPrefix (p s : String) : Option String :=
  if p.toList.isPrefixOf s.toList then some (String.ofList (s.toList.drop p.toList.length))
  else none

/-- `str::strip_suffix`. -/
def stripSuffix (p s : String) : Option String :=
  if p.toList.isSuffixOf s.toList then
    some (String.ofList (s.toList.take (s.toList.length - p.toList.length)))
  else none

/-- `str::starts_with`. -/
def startsWith (p s : String) : Bool := p.toList.isPrefixOf s.toList

/-- `str::ends_with`. -/
def endsWith (p s : String) : Bool := p.toList.isSuffixOf s.toList

/-- `str::contains` for one character. -/
def contains (c : Char) (s : String) : Bool := s.toList.contains c

/-- `str::to_ascii_lowercase`. -/
def toAsciiLowercase (s : String) : String := String.ofList (s.toList.map Char.toLower)

/-- `str::to_ascii_uppercase`. -/
def toAsciiUppercase (s : String) : String := String.ofList (s.toList.map Char.toUpper)

/-- `str::eq_ignore_ascii_case`. -/
def eqIgnoreAsciiCase (s t : String) : Bool := toAsciiLowercase s == toAsciiLowercase t

/-- `str::len`: the length in UTF-8 bytes. -/
def len (s : String) : ℕ := s.utf8ByteSize

/-- `str::is_empty`. -/
def isEmpty (s : String) : Bool := s.toList.isEmpty

def decimalValue (cs : List Char) : ℕ := cs.foldl (fun n c => 10*n + (c.toNat - 48)) 0

/-- `str::parse` into an unsigned integer type with values below `bound`: an
optional `+`, then at least one ASCII digit. -/
def parseUnsigned (bound : ℕ) (s : String) : Option ℕ :=
  let digits := match s.toList with
    | '+' :: ds => ds
    | ds => ds
  if digits ≠ [] ∧ digits.all Char.isDigit ∧ decimalValue digits < bound then
    some (decimalValue digits)
  else none

theorem isEmpty_eq_true_iff (s : String) : isEmpty s = true ↔ s = "" := by
  rw [isEmpty, List.isEmpty_iff]
  constructor
  · intro h
    exact String.toList_injective h
  · intro h
    rw [h]
    rfl

theorem mem_join (sep : String) (parts : List String) (c : Char)
    (hc : c ∈ (join sep parts).toList) : c ∈ sep.toList ∨ ∃ p ∈ parts, c ∈ p.toList := by
  simp only [join, String.toList_ofList] at hc
  induction parts with
  | nil => simp at hc
  | cons p ps ih =>
    cases ps with
    | nil => exact Or.inr ⟨p, by simp, by simpa using hc⟩
    | cons q qs =>
      simp only [List.map_cons, List.intercalate_cons_cons, List.mem_append] at hc
      rcases hc with (hc | hc) | hc
      · exact Or.inr ⟨p, by simp, hc⟩
      · exact Or.inl hc
      · rcases ih (by simpa using hc) with h | ⟨x, hx, hcx⟩
        · exact Or.inl h
        · exact Or.inr ⟨x, by simp [hx], hcx⟩

/-- A property of every character of a text that is at hand is a matter of computation. -/
theorem forall_mem_toList {p : Char → Prop} [DecidablePred p] (s : String)
    (h : (s.toList.all fun c => decide (p c)) = true) : ∀ c ∈ s.toList, p c := by
  intro c hc
  exact of_decide_eq_true (List.all_eq_true.mp h c hc)

theorem bytes_ofList (cs : List Char) :
    bytes (String.ofList cs) = cs.flatMap String.utf8EncodeChar := by
  unfold bytes
  rw [String.toUTF8_eq_toByteArray, String.toByteArray_ofList]
  unfold List.utf8Encode
  rw [List.data_toByteArray]

theorem fromUtf8_eq_some_iff (bs : List UInt8) (s : String) :
    fromUtf8 bs = some s ↔ bs = bytes s := by
  unfold fromUtf8 String.fromUTF8? bytes
  rw [String.toUTF8_eq_toByteArray]
  constructor
  · intro h
    split_ifs at h with hvalid
    cases h
    rfl
  · intro h
    have hba : (⟨bs.toArray⟩ : ByteArray) = s.toByteArray := by
      rw [h]
    have hvalid : (⟨bs.toArray⟩ : ByteArray).IsValidUTF8 := by
      rw [hba]
      exact s.isValidUTF8
    rw [dif_pos hvalid]
    exact congrArg some (String.toByteArray_inj.mp hba)

theorem utf8EncodeChar_of_ascii (c : Char) (h : c.toNat < 128) :
    String.utf8EncodeChar c = [UInt8.ofNat c.toNat] := by
  have hval : c.val.toNat ≤ 0x7f := Nat.le_of_lt_succ h
  unfold String.utf8EncodeChar
  exact if_pos hval

theorem toNat_ofNat_of_ascii (n : ℕ) (h : n < 128) : (Char.ofNat n).toNat = n := by
  revert n
  decide

/-- ASCII bytes are the UTF-8 form of the characters they stand for. -/
theorem flatMap_ascii (bs : List UInt8) (h : ∀ b ∈ bs, b.toNat < 128) :
    (bs.map fun b => Char.ofNat b.toNat).flatMap String.utf8EncodeChar = bs := by
  induction bs with
  | nil => rfl
  | cons b bs ih =>
    have hb := h b (by simp)
    have hnat : (Char.ofNat b.toNat).toNat = b.toNat := toNat_ofNat_of_ascii _ hb
    rw [List.map_cons, List.flatMap_cons, utf8EncodeChar_of_ascii _ (by omega), hnat,
      UInt8.ofNat_toNat, ih fun d hd => h d (by simp [hd])]
    rfl

theorem bytes_of_ascii (s : String) (h : ∀ c ∈ s.toList, c.toNat < 128) :
    bytes s = s.toList.map fun c => UInt8.ofNat c.toNat := by
  rw [← String.ofList_toList (s := s), bytes_ofList, String.toList_ofList]
  generalize s.toList = cs at h
  induction cs with
  | nil => rfl
  | cons c cs ih =>
    rw [List.flatMap_cons, utf8EncodeChar_of_ascii c (h c (by simp)),
      ih fun d hd => h d (by simp [hd])]
    rfl

/-- ASCII bytes survive a trip through text. -/
theorem bytes_ofNat (bs : List UInt8) (h : ∀ b ∈ bs, b.toNat < 128) :
    bytes (String.ofList (bs.map fun b => Char.ofNat b.toNat)) = bs := by
  rw [bytes_ofList, flatMap_ascii bs h]

/-- ASCII text survives a trip through bytes. -/
theorem ofNat_bytes (s : String) (h : ∀ c ∈ s.toList, c.toNat < 128) :
    String.ofList ((bytes s).map fun b => Char.ofNat b.toNat) = s := by
  have hsame : (bytes s).map (fun b => Char.ofNat b.toNat) = s.toList := by
    rw [bytes_of_ascii s h, List.map_map]
    apply (List.map_congr_left _).trans (List.map_id _)
    intro c hc
    have hc256 : c.toNat < 256 := (h c hc).trans (by decide)
    rw [Function.comp_apply, UInt8.toNat_ofNat_of_lt' hc256, Char.ofNat_toNat, id]
  rw [hsame, String.ofList_toList]

theorem bytes_injective (s t : String) (h : bytes s = bytes t) : s = t := by
  have hs := (fromUtf8_eq_some_iff (bytes s) s).mpr rfl
  rw [(fromUtf8_eq_some_iff (bytes s) t).mpr h] at hs
  exact (Option.some.inj hs).symm

/-- A text that holds no `c` is cut at the `c` after it. -/
theorem splitOnce_append (c : Char) (front sep back : String) (hfront : c ∉ front.toList)
    (hsep : sep.toList = [c]) : splitOnce c (front ++ sep ++ back) = some (front, back) := by
  have hlist (cs : List Char) (h : c ∉ cs) :
      splitOnceList c (cs ++ c :: back.toList) = some (cs, back.toList) := by
    induction cs with
    | nil => simp [splitOnceList]
    | cons d ds ih =>
      have hd : d ≠ c := fun hdc => h (by simp [hdc])
      have hds := ih fun hmem => h (List.mem_cons_of_mem _ hmem)
      rw [List.cons_append, splitOnceList, if_neg hd, hds]
      rfl
  have hall : (front ++ sep ++ back).toList = front.toList ++ c :: back.toList := by
    rw [String.toList_append, String.toList_append, hsep, List.append_assoc, List.singleton_append]
  rw [splitOnce, hall, hlist _ hfront]
  simp

theorem splitOnce_of_not_mem (c : Char) (s : String) (h : c ∉ s.toList) : splitOnce c s = none := by
  have hlist (cs : List Char) (hcs : c ∉ cs) : splitOnceList c cs = none := by
    induction cs with
    | nil => rfl
    | cons d ds ih =>
      have hd : d ≠ c := fun hdc => hcs (by simp [hdc])
      rw [splitOnceList, if_neg hd, ih fun hmem => hcs (List.mem_cons_of_mem _ hmem)]
      rfl
  rw [splitOnce, hlist _ h]
  rfl

theorem splitOnce_eq_none_iff (c : Char) (s : String) : splitOnce c s = none ↔ c ∉ s.toList := by
  constructor
  · intro h hmem
    obtain ⟨front, back, hs, hfront⟩ := List.eq_append_cons_of_mem hmem
    have htext : s = String.ofList front ++ String.ofList [c] ++ String.ofList back := by
      apply String.toList_injective
      simp [hs]
    rw [htext, splitOnce_append c _ _ _ (by simpa using hfront) String.toList_ofList] at h
    cases h
  · exact splitOnce_of_not_mem c s

theorem trimEndMatches_eq_self (c : Char) (s : String) (h : s.toList.getLast? ≠ some c) :
    trimEndMatches c s = s := by
  have hrdrop : s.toList.rdropWhile (· == c) = s.toList := by
    rw [List.rdropWhile_eq_self_iff]
    intro hl hlast
    apply h
    rw [List.getLast?_eq_some_getLast hl]
    simpa using hlast
  rw [trimEndMatches, hrdrop, String.ofList_toList]

/-- The text that is left ends in none of the characters, and what was cut off is made of
them. -/
theorem trimEndMatchesAny_spec (cs : List Char) (s : String) :
    ∃ w, s = trimEndMatchesAny cs s ++ w ∧ (∀ c ∈ w.toList, c ∈ cs) ∧
      ∀ c ∈ (trimEndMatchesAny cs s).toList.getLast?, c ∉ cs := by
  refine ⟨String.ofList (s.toList.rtakeWhile fun c => cs.contains c), ?_, ?_, ?_⟩
  · apply String.toList_injective
    rw [String.toList_append, trimEndMatchesAny, String.toList_ofList, String.toList_ofList,
      List.rdropWhile_append_rtakeWhile]
  · intro c hc
    rw [String.toList_ofList] at hc
    exact List.contains_iff_mem.mp (List.mem_rtakeWhile_imp hc)
  · intro c hc hmem
    rw [trimEndMatchesAny, String.toList_ofList] at hc
    obtain ⟨hne, hlast⟩ := List.mem_getLast?_eq_getLast hc
    have hnot := List.rdropWhile_last_not (fun c => cs.contains c) s.toList hne
    rw [← hlast] at hnot
    exact hnot (List.contains_iff_mem.mpr hmem)

theorem trimEndMatchesAny_append (cs : List Char) (s w : String)
    (hs : ∀ c ∈ s.toList.getLast?, c ∉ cs) (hw : ∀ c ∈ w.toList, c ∈ cs) :
    trimEndMatchesAny cs (s ++ w) = s := by
  have hdrop : s.toList.rdropWhile (fun c => cs.contains c) = s.toList := by
    rw [List.rdropWhile_eq_self_iff]
    intro hl hlast
    exact hs _ (List.getLast?_eq_some_getLast hl) (List.contains_iff_mem.mp hlast)
  have hback : ∀ c ∈ w.toList.reverse, cs.contains c = true := by
    intro c hc
    exact List.contains_iff_mem.mpr (hw c (List.mem_reverse.mp hc))
  have happend : (s.toList ++ w.toList).rdropWhile (fun c => cs.contains c) =
      s.toList.rdropWhile fun c => cs.contains c := by
    unfold List.rdropWhile
    rw [List.reverse_append, List.dropWhile_append_of_pos hback]
  rw [trimEndMatchesAny, String.toList_append, happend, hdrop, String.ofList_toList]

theorem stripPrefix_append (p s : String) : stripPrefix p (p ++ s) = some s := by
  have hprefix : p.toList.isPrefixOf (p ++ s).toList = true := by
    rw [List.isPrefixOf_iff_prefix, String.toList_append]
    exact List.prefix_append _ _
  rw [stripPrefix, if_pos hprefix, String.toList_append, List.drop_left, String.ofList_toList]

theorem stripPrefix_eq_some_iff (p s rest : String) :
    stripPrefix p s = some rest ↔ s = p ++ rest := by
  constructor
  · intro h
    unfold stripPrefix at h
    split_ifs at h with hp
    cases h
    apply String.toList_injective
    rw [String.toList_append, String.toList_ofList]
    exact (List.prefix_iff_eq_append.mp (List.isPrefixOf_iff_prefix.mp hp)).symm
  · rintro rfl
    exact stripPrefix_append p rest

/-- Of two fronts that differ in their first character, either one is taken off. -/
theorem stripPrefix_or_eq_some_iff (p q s rest : String) (a b : Char) (as bs : List Char)
    (hp : p.toList = a :: as) (hq : q.toList = b :: bs) (hab : a ≠ b) :
    (stripPrefix p s).or (stripPrefix q s) = some rest ↔ s = p ++ rest ∨ s = q ++ rest := by
  rw [Option.or_eq_some_iff, stripPrefix_eq_some_iff, stripPrefix_eq_some_iff]
  constructor
  · exact Or.imp_right And.right
  · rintro (h | h)
    · exact Or.inl h
    · refine Or.inr ⟨?_, h⟩
      cases hstrip : stripPrefix p s with
      | none => rfl
      | some r =>
        rw [stripPrefix_eq_some_iff, h] at hstrip
        have hheads := congrArg (fun text => text.toList.head?) hstrip
        simp only [String.toList_append, hp, hq, List.cons_append, List.head?_cons,
          Option.some.injEq] at hheads
        exact absurd hheads.symm hab

theorem stripPrefix_sublist (p s rest : String) (h : stripPrefix p s = some rest) :
    rest.toList.Sublist s.toList := by
  unfold stripPrefix at h
  split_ifs at h
  cases h
  rw [String.toList_ofList]
  exact List.drop_sublist _ _

theorem stripSuffix_sublist (p s rest : String) (h : stripSuffix p s = some rest) :
    rest.toList.Sublist s.toList := by
  unfold stripSuffix at h
  split_ifs at h
  cases h
  rw [String.toList_ofList]
  exact List.take_sublist _ _

theorem isDigit_of_mem_toString (n : ℕ) (c : Char) (hc : c ∈ (toString n).toList) :
    c.isDigit = true := by
  have hdigits : (toString n).toList = Nat.toDigits 10 n := Nat.toList_repr
  rw [hdigits] at hc
  exact Nat.isDigit_of_mem_toDigits (by omega) (by omega) hc

section Numerals

/-- The number as it may be written in decimal: leading zeros and a `+` change nothing. -/
def Numeral (n : ℕ) (s : String) : Prop :=
  ∃ digits, (s.toList = digits ∨ s.toList = '+' :: digits) ∧ digits ≠ [] ∧
    digits.all Char.isDigit = true ∧ decimalValue digits = n

/-- The digits of a number: what follows the `+`, or the whole of it. -/
theorem parseUnsigned_eq (bound : ℕ) (s : String) :
    ∃ digits, (s.toList = digits ∧ (∀ ds, s.toList ≠ '+' :: ds) ∨ s.toList = '+' :: digits) ∧
      parseUnsigned bound s =
        if digits ≠ [] ∧ digits.all Char.isDigit ∧ decimalValue digits < bound then
          some (decimalValue digits)
        else none := by
  unfold parseUnsigned
  cases hs : s.toList with
  | nil => exact ⟨[], Or.inl ⟨rfl, by simp⟩, rfl⟩
  | cons c ds =>
    by_cases hc : c = '+'
    · exact ⟨ds, Or.inr (by rw [hc]), by simp [hc]⟩
    · exact ⟨c :: ds, Or.inl ⟨rfl, by simp [hc]⟩, by simp [hc]⟩

theorem parseUnsigned_eq_some_iff (bound n : ℕ) (s : String) :
    parseUnsigned bound s = some n ↔ Numeral n s ∧ n < bound := by
  obtain ⟨digits, hs, hparse⟩ := parseUnsigned_eq bound s
  rw [hparse]
  constructor
  · intro h
    split_ifs at h with hdigits
    cases h
    exact ⟨⟨digits, hs.imp_left And.left, hdigits.1, hdigits.2.1, rfl⟩, hdigits.2.2⟩
  · rintro ⟨⟨ds, hds, hne, hall, rfl⟩, hlt⟩
    -- A `+` is no digit, so both readings cut the text at the same place.
    have hplus : ∀ rest, ds ≠ '+' :: rest := by
      rintro rest rfl
      exact absurd (List.all_eq_true.mp hall '+' (by simp)) (by decide)
    have hsame : ds = digits := by
      rcases hs with ⟨hs, hno⟩ | hs
      · rcases hds with hds | hds
        · rw [← hds, hs]
        · exact absurd hds (hno ds)
      · rcases hds with hds | hds
        · exact absurd (hds ▸ hs) (hplus digits)
        · rw [hs] at hds
          exact (List.cons.inj hds).2.symm
    rw [← hsame, if_pos ⟨hne, hall, hlt⟩]

theorem numeral_unique (n m : ℕ) (s : String) (hn : Numeral n s) (hm : Numeral m s) : n = m := by
  have h := (parseUnsigned_eq_some_iff (n+m+1) n s).mpr ⟨hn, by omega⟩
  rw [(parseUnsigned_eq_some_iff (n+m+1) m s).mpr ⟨hm, by omega⟩] at h
  exact (Option.some.inj h).symm

theorem decimalValue_toDigits (n : ℕ) : decimalValue (Nat.toDigits 10 n) = n :=
  Nat.ofDigitChars_ten_toDigits

theorem all_isDigit_toDigits (n : ℕ) : (Nat.toDigits 10 n).all Char.isDigit = true := by
  rw [List.all_eq_true]
  intro c hc
  exact Nat.isDigit_of_mem_toDigits (by omega) (by omega) hc

theorem numeral_toString (n : ℕ) : Numeral n (toString n) :=
  ⟨Nat.toDigits 10 n, Or.inl Nat.toList_repr, Nat.toDigits_ne_nil, all_isDigit_toDigits n,
    decimalValue_toDigits n⟩

/-- A leading zero leaves the number as it is. -/
theorem numeral_zero_toString (n : ℕ) : Numeral n ("0" ++ toString n) := by
  refine ⟨'0' :: Nat.toDigits 10 n, Or.inl ?_, List.cons_ne_nil _ _, ?_, decimalValue_toDigits n⟩
  · rw [String.toList_append, show (toString n).toList = _ from Nat.toList_repr]
    rfl
  · rw [List.all_cons, all_isDigit_toDigits n]
    rfl

theorem symbol_of_numeral (n : ℕ) (s : String) (h : Numeral n s) :
    ∀ c ∈ s.toList, c.isDigit = true ∨ c = '+' := by
  obtain ⟨digits, hs, -, hall, -⟩ := h
  have hdigit := List.all_eq_true.mp hall
  intro c hc
  rcases hs with hs | hs
  · exact Or.inl (hdigit c (hs ▸ hc))
  · rw [hs] at hc
    rcases List.mem_cons.mp hc with hplus | hc
    · exact Or.inr hplus
    · exact Or.inl (hdigit c hc)

end Numerals

section Trimming

/-- Whitespace at neither end. -/
structure IsTrimmed (cs : List Char) : Prop where
  head : ∀ c ∈ cs.head?, isWhitespace c = false
  last : ∀ c ∈ cs.getLast?, isWhitespace c = false

theorem trimList_eq_self (cs : List Char) (h : IsTrimmed cs) : trimList cs = cs := by
  have hdrop : cs.dropWhile isWhitespace = cs := by
    rw [List.dropWhile_eq_self_iff]
    intro hl
    rw [h.head _ (by rw [List.head?_eq_getElem?, List.getElem?_eq_getElem hl]; rfl)]
    exact Bool.false_ne_true
  have hrdrop : cs.rdropWhile isWhitespace = cs := by
    rw [List.rdropWhile_eq_self_iff]
    intro hl
    rw [h.last _ (List.getLast?_eq_some_getLast hl)]
    exact Bool.false_ne_true
  rw [trimList, hdrop, hrdrop]

theorem isTrimmed_of_forall (cs : List Char) (h : ∀ c ∈ cs, isWhitespace c = false) :
    IsTrimmed cs where
  head c hc := h c (List.mem_of_mem_head? hc)
  last c hc := h c (List.mem_of_getLast? hc)

theorem trim_eq_self (s : String) (h : ∀ c ∈ s.toList, isWhitespace c = false) : trim s = s := by
  rw [trim, trimList_eq_self _ (isTrimmed_of_forall _ h), String.ofList_toList]

/-- What is left of a front part keeps its first character and loses the blanks at the end. -/
theorem isTrimmed_rdropWhile (cs front : List Char)
    (hhead : ∀ c ∈ cs.head?, isWhitespace c = false) (hfront : front <+: cs) :
    IsTrimmed (front.rdropWhile isWhitespace) := by
  have hprefix := (List.rdropWhile_prefix isWhitespace (l := front)).trans hfront
  constructor
  · intro c hc
    apply hhead c
    obtain ⟨rest, hrest⟩ := hprefix
    rw [← hrest, List.head?_append, hc]
    rfl
  · intro c hc
    obtain ⟨hne, hlast⟩ := List.mem_getLast?_eq_getLast hc
    rw [hlast]
    exact Bool.eq_false_iff.mpr (List.rdropWhile_last_not _ _ hne)

theorem isTrimmed_trimList (cs : List Char) : IsTrimmed (trimList cs) := by
  apply isTrimmed_rdropWhile (cs.dropWhile isWhitespace) _ _ (List.prefix_refl _)
  intro c hc
  have hhead := List.head?_dropWhile_not isWhitespace cs
  rw [hc] at hhead
  exact hhead

theorem trimList_of_append_left (front cs : List Char)
    (hfront : ∀ c ∈ front, isWhitespace c = true) : trimList (front ++ cs) = trimList cs := by
  unfold trimList
  rw [List.dropWhile_append_of_pos hfront]

theorem trimList_of_append_right (cs back : List Char)
    (hback : ∀ c ∈ back, isWhitespace c = true) : trimList (cs ++ back) = trimList cs := by
  unfold trimList
  rw [List.dropWhile_append]
  by_cases hempty : (cs.dropWhile isWhitespace).isEmpty = true
  · rw [if_pos hempty, List.isEmpty_iff.mp hempty, List.dropWhile_eq_nil_iff.mpr hback]
  · rw [if_neg hempty]
    unfold List.rdropWhile
    rw [List.reverse_append, List.dropWhile_append_of_pos]
    intro c hc
    exact hback c (List.mem_reverse.mp hc)

/-- Trimming takes whitespace off both ends and nothing else. -/
theorem trim_spec (s : String) : ∃ before after, s = before ++ trim s ++ after ∧
    (∀ c ∈ before.toList, isWhitespace c = true) ∧ ∀ c ∈ after.toList, isWhitespace c = true := by
  refine ⟨String.ofList (s.toList.takeWhile isWhitespace),
    String.ofList ((s.toList.dropWhile isWhitespace).rtakeWhile isWhitespace), ?_, ?_, ?_⟩
  · apply String.toList_injective
    simp only [String.toList_append, trim, trimList, String.toList_ofList]
    rw [List.append_assoc, List.rdropWhile_append_rtakeWhile, List.takeWhile_append_dropWhile]
  · intro c hc
    rw [String.toList_ofList] at hc
    exact List.mem_takeWhile_imp hc
  · intro c hc
    rw [String.toList_ofList] at hc
    exact List.mem_rtakeWhile_imp hc

theorem isTrimmed_trim (s : String) : IsTrimmed (trim s).toList := by
  rw [trim, String.toList_ofList]
  exact isTrimmed_trimList s.toList

theorem trim_of_surrounded (before s after : String) (hs : IsTrimmed s.toList)
    (hbefore : ∀ c ∈ before.toList, isWhitespace c = true)
    (hafter : ∀ c ∈ after.toList, isWhitespace c = true) : trim (before ++ s ++ after) = s := by
  rw [trim, String.toList_append, String.toList_append, trimList_of_append_right _ _ hafter,
    trimList_of_append_left _ _ hbefore, trimList_eq_self _ hs, String.ofList_toList]

end Trimming

/-- The text in front of the first `c`, or the whole of it. -/
theorem split_headD (c : Char) (s : String) :
    (split c s).headD "" = String.ofList (s.toList.takeWhile (· != c)) := by
  have hlist (cs : List Char) : (cs.splitOn c).head? = some (cs.takeWhile (· != c)) := by
    induction cs with
    | nil => rfl
    | cons d ds ih =>
      rw [List.splitOn_cons_eq_if_modifyHead, List.takeWhile_cons]
      by_cases hd : d = c
      · simp [hd]
      · simp [hd, ih]
  unfold split
  rw [List.headD_eq_head?_getD, List.head?_map, hlist]
  rfl

theorem join_split (c : Char) (sep s : String) (hsep : sep.toList = [c]) :
    join sep (split c s) = s := by
  have hmap : (split c s).map String.toList = s.toList.splitOn c := by
    rw [split, List.map_map]
    exact (List.map_congr_left fun l _ => String.toList_ofList).trans (List.map_id _)
  rw [join, hmap, hsep, List.intercalate_splitOn, String.ofList_toList]

/-- Texts without the separator are the parts of their join. -/
theorem split_join (c : Char) (sep : String) (parts : List String) (hsep : sep.toList = [c])
    (hne : parts ≠ []) (hparts : ∀ p ∈ parts, c ∉ p.toList) : split c (join sep parts) = parts := by
  have hlists : ∀ l ∈ parts.map String.toList, c ∉ l := by
    intro l hl
    obtain ⟨p, hp, rfl⟩ := List.mem_map.mp hl
    exact hparts p hp
  have hmap : (parts.map String.toList).map String.ofList = parts := by
    rw [List.map_map]
    exact (List.map_congr_left fun p _ => String.ofList_toList).trans (List.map_id _)
  have hlists_ne : parts.map String.toList ≠ [] := by simpa using hne
  rw [join, split, String.toList_ofList, hsep, List.splitOn_intercalate c hlists hlists_ne, hmap]

theorem splitOnce_eq_some (c : Char) (s front back : String)
    (h : splitOnce c s = some (front, back)) :
    s.toList = front.toList ++ c :: back.toList ∧ c ∉ front.toList := by
  have hlist (cs fs bs : List Char) (h : splitOnceList c cs = some (fs, bs)) :
      cs = fs ++ c :: bs ∧ c ∉ fs := by
    induction cs generalizing fs with
    | nil => cases h
    | cons d ds ih =>
      rw [splitOnceList] at h
      split_ifs at h with hd
      · cases h
        exact ⟨by rw [hd]; rfl, List.not_mem_nil⟩
      · obtain ⟨⟨fs', bs'⟩, hrest, heq⟩ := Option.map_eq_some_iff.mp h
        cases heq
        obtain ⟨hds, hfs⟩ := ih fs' hrest
        refine ⟨by rw [hds]; rfl, ?_⟩
        rw [List.mem_cons, not_or]
        exact ⟨fun hc => hd hc.symm, hfs⟩
  unfold splitOnce at h
  obtain ⟨⟨fs, bs⟩, hsplit, heq⟩ := Option.map_eq_some_iff.mp h
  cases heq
  rw [String.toList_ofList, String.toList_ofList]
  exact hlist _ _ _ hsplit

theorem splitOnce_eq_some_iff (c : Char) (sep s front back : String) (hsep : sep.toList = [c]) :
    splitOnce c s = some (front, back) ↔ s = front ++ sep ++ back ∧ c ∉ front.toList := by
  constructor
  · intro h
    obtain ⟨hs, hfront⟩ := splitOnce_eq_some c s front back h
    refine ⟨String.toList_injective ?_, hfront⟩
    rw [hs, String.toList_append, String.toList_append, hsep, List.append_assoc,
      List.singleton_append]
  · rintro ⟨rfl, hfront⟩
    exact splitOnce_append c front sep back hfront hsep

end Text
