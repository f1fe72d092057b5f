import Overfwd.Attachments
import Overfwd.Lib.Mime

namespace Overfwd

open Text Outcome

/-- A content type as it is written: two lowercase tokens, and not of the types that hold
parts of their own. -/
structure Essence where
  kind : String
  subtype : String
  kind_token : Mime.IsToken kind
  subtype_token : Mime.IsToken subtype
  kind_lower : toAsciiLowercase kind = kind
  subtype_lower : toAsciiLowercase subtype = subtype
  kind_ne : kind ≠ "multipart"

def Essence.text (e : Essence) : String := e.kind ++ "/" ++ e.subtype

/-- Two tokens in any case make a content type. -/
def Essence.ofTokens (kind subtype : String) (hkind : Mime.IsToken kind)
    (hsubtype : Mime.IsToken subtype) (hne : eqIgnoreAsciiCase kind "multipart" = false) :
    Essence where
  kind := toAsciiLowercase kind
  subtype := toAsciiLowercase subtype
  kind_token := (Mime.isToken_toAsciiLowercase kind).mpr hkind
  subtype_token := (Mime.isToken_toAsciiLowercase subtype).mpr hsubtype
  kind_lower := toAsciiLowercase_idempotent kind
  subtype_lower := toAsciiLowercase_idempotent subtype
  kind_ne := by
    have hlower : toAsciiLowercase "multipart" = "multipart" := by decide
    unfold eqIgnoreAsciiCase at hne
    rw [hlower] at hne
    exact ne_of_beq_false hne

/-- Blanks that may surround a content type: spaces of any kind that are no controls. -/
def IsBlank (s : String) : Prop := ∀ c ∈ s.toList, isWhitespace c = true ∧ isControl c = false

section Tokens

theorem isToken_iff (part : String) : isToken part = true ↔ Mime.IsToken part := by
  have hchar (c : Char) : (0x21 ≤ c.toNat && c.toNat ≤ 0x7E &&
      !("()<>@,;:\\\"/[]?=".toList.contains c)) = true ↔ Mime.IsTokenChar c := by
    unfold Mime.IsTokenChar Mime.tspecials
    simp only [Bool.and_eq_true, decide_eq_true_eq, Bool.not_eq_true', List.contains_eq_mem,
      decide_eq_false_iff_not, and_assoc]
    exact and_congr Nat.succ_le_iff (and_congr Nat.lt_succ_iff.symm Iff.rfl)
  unfold isToken isEmpty
  rw [Bool.and_eq_true, Bool.not_eq_true', List.isEmpty_eq_false_iff, List.all_eq_true]
  constructor
  · rintro ⟨hne, hall⟩
    exact ⟨hne, fun c hc => (hchar c).mp (hall c hc)⟩
  · intro h
    exact ⟨h.ne_nil, fun c hc => (hchar c).mpr (h.chars c hc)⟩

theorem isToken_toAsciiLowercase (part : String) :
    isToken (toAsciiLowercase part) = isToken part := by
  rw [Bool.eq_iff_iff, isToken_iff, isToken_iff]
  exact Mime.isToken_toAsciiLowercase part

theorem eqIgnoreAsciiCase_toAsciiLowercase (s t : String) :
    eqIgnoreAsciiCase (toAsciiLowercase s) t = eqIgnoreAsciiCase s t := by
  unfold eqIgnoreAsciiCase
  rw [toAsciiLowercase_idempotent]

end Tokens

/-- What the last check refuses. -/
theorem refused_eq_false_iff (kind subtype : String) :
    (!isToken kind || !isToken subtype || eqIgnoreAsciiCase kind "multipart") = false ↔
      Mime.IsToken kind ∧ Mime.IsToken subtype ∧ eqIgnoreAsciiCase kind "multipart" = false := by
  rw [Bool.or_eq_false_iff, Bool.or_eq_false_iff, Bool.not_eq_false', Bool.not_eq_false',
    isToken_iff, isToken_iff, and_assoc]

/-- A pair of tokens is cut at its slash: none is part of a token. -/
theorem splitOnce_pair (s kind subtype : String) (hkind : Mime.IsToken kind) :
    splitOnce '/' s = some (kind, subtype) ↔ s = kind ++ "/" ++ subtype := by
  have hslash : '/' ∉ kind.toList := fun hmem =>
    (hkind.chars '/' hmem).ne_of_mem '/' (by decide) rfl
  rw [splitOnce_eq_some_iff '/' "/" s kind subtype rfl]
  exact ⟨And.left, fun h => ⟨h, hslash⟩⟩

/-- The exact grammar of what is accepted, and what becomes of it. -/
theorem contentTypeEssence_eq_some_iff (raw result : String) :
    contentTypeEssence raw = some result ↔
      raw.toList.any isControl = false ∧ ∃ kind subtype,
        trim ((split ';' raw).headD "") = kind ++ "/" ++ subtype ∧
          Mime.IsToken kind ∧ Mime.IsToken subtype ∧ eqIgnoreAsciiCase kind "multipart" = false ∧
          result = toAsciiLowercase kind ++ "/" ++ toAsciiLowercase subtype := by
  unfold contentTypeEssence
  cases hcontrol : raw.toList.any isControl with
  | true =>
    constructor
    · intro h
      cases h
    · intro h
      cases h.1
  | false =>
    rw [if_neg Bool.false_ne_true]
    constructor
    · intro h
      obtain ⟨⟨kind, subtype⟩, hsplit, h⟩ := Option.bind_eq_some_iff.mp h
      dsimp only at h
      split_ifs at h with hrefused
      cases h
      obtain ⟨hkind, hsubtype, hne⟩ :=
        (refused_eq_false_iff kind subtype).mp (Bool.eq_false_iff.mpr hrefused)
      have htrim := (splitOnce_pair _ kind subtype hkind).mp hsplit
      exact ⟨rfl, kind, subtype, htrim, hkind, hsubtype, hne, rfl⟩
    · rintro ⟨-, kind, subtype, htrim, hkind, hsubtype, hne, rfl⟩
      have hsplit := (splitOnce_pair _ kind subtype hkind).mpr htrim
      have haccepted := (refused_eq_false_iff kind subtype).mpr ⟨hkind, hsubtype, hne⟩
      rw [hsplit]
      dsimp only [Option.bind_eq_bind, Option.bind_some]
      rw [haccepted, if_neg Bool.false_ne_true]

section Invariance

theorem contentTypeEssence_toAsciiLowercase (raw : String) :
    contentTypeEssence (toAsciiLowercase raw) = contentTypeEssence raw := by
  have hsemicolon (d : Char) : d.toLower = ';' ↔ d = ';' :=
    toLower_eq_iff d ';' (by decide) (by decide)
  have hslash (d : Char) : d.toLower = '/' ↔ d = '/' :=
    toLower_eq_iff d '/' (by decide) (by decide)
  unfold contentTypeEssence
  rw [any_isControl_toAsciiLowercase, split_headD_toAsciiLowercase ';' hsemicolon,
    trim_toAsciiLowercase, splitOnce_toAsciiLowercase '/' hslash]
  cases splitOnce '/' (trim ((split ';' raw).headD "")) with
  | none => rfl
  | some p =>
    dsimp only [Option.map_some, Option.bind_eq_bind, Option.bind_some]
    rw [isToken_toAsciiLowercase, isToken_toAsciiLowercase, eqIgnoreAsciiCase_toAsciiLowercase,
      toAsciiLowercase_idempotent, toAsciiLowercase_idempotent]

theorem contentTypeEssence_of_eqIgnoreAsciiCase (raw other : String)
    (h : eqIgnoreAsciiCase raw other = true) :
    contentTypeEssence raw = contentTypeEssence other := by
  have hlower : toAsciiLowercase raw = toAsciiLowercase other := eq_of_beq h
  rw [← contentTypeEssence_toAsciiLowercase raw, hlower, contentTypeEssence_toAsciiLowercase]

/-- Only what is trimmed off the part in front of the first semicolon, and whether there are
controls, matters. -/
theorem contentTypeEssence_congr (raw other : String)
    (hcontrol : raw.toList.any isControl = other.toList.any isControl)
    (htrim : trimList (raw.toList.takeWhile (· != ';')) =
      trimList (other.toList.takeWhile (· != ';'))) :
    contentTypeEssence raw = contentTypeEssence other := by
  have hsame : trim ((split ';' raw).headD "") = trim ((split ';' other).headD "") := by
    rw [split_headD, split_headD]
    unfold trim
    rw [String.toList_ofList, String.toList_ofList, htrim]
  unfold contentTypeEssence
  rw [hcontrol, hsame]

theorem contentTypeEssence_blanks (front raw back : String) (hfront : IsBlank front)
    (hback : IsBlank back) : contentTypeEssence (front ++ raw ++ back) = contentTypeEssence raw := by
  have hnocontrol (s : String) (hs : IsBlank s) : s.toList.any isControl = false := by
    rw [List.any_eq_false]
    exact fun c hc => Bool.eq_false_iff.mp (hs c hc).2
  have hnosemicolon (s : String) (hs : IsBlank s) : ∀ c ∈ s.toList, (c != ';') = true := by
    intro c hc
    rw [bne_iff_ne]
    intro heq
    have hspace := (hs c hc).1
    rw [heq] at hspace
    revert hspace
    decide
  apply contentTypeEssence_congr
  · rw [String.toList_append, String.toList_append, List.any_append, List.any_append,
      hnocontrol front hfront, hnocontrol back hback, Bool.or_false, Bool.false_or]
  · rw [String.toList_append, String.toList_append, List.append_assoc,
      List.takeWhile_append_of_pos (hnosemicolon front hfront),
      trimList_of_append_left _ _ fun c hc => (hfront c hc).1, List.takeWhile_append]
    split_ifs with hall
    · have hself : raw.toList.takeWhile (· != ';') = raw.toList :=
        (List.takeWhile_prefix _).eq_of_length hall
      have hback' : back.toList.takeWhile (· != ';') = back.toList :=
        List.takeWhile_eq_self_iff.mpr (hnosemicolon back hback)
      rw [hself, hback', trimList_of_append_right _ _ fun c hc => (hback c hc).1]
    · rfl

theorem contentTypeEssence_parameters (raw parameters : String)
    (hcontrol : parameters.toList.any isControl = false) :
    contentTypeEssence (raw ++ ";" ++ parameters) = contentTypeEssence raw := by
  apply contentTypeEssence_congr
  · have hsemicolon : (";" : String).toList.any isControl = false := by decide
    rw [String.toList_append, String.toList_append, List.any_append, List.any_append, hcontrol,
      hsemicolon, Bool.or_false, Bool.or_false]
  · have hstop (rest : List Char) : (';' :: rest).takeWhile (· != ';') = [] := rfl
    have hcons : (";" : String).toList ++ parameters.toList = ';' :: parameters.toList := rfl
    rw [String.toList_append, String.toList_append, List.append_assoc, hcons,
      List.takeWhile_append, hstop, List.append_nil]
    split_ifs with hall
    · rw [(List.takeWhile_prefix _).eq_of_length hall]
    · rfl

end Invariance

section Pairs

variable {kind subtype : String} (hkind : Mime.IsToken kind) (hsubtype : Mime.IsToken subtype)

include hkind hsubtype

theorem pair_chars (c : Char) (hc : c ∈ (kind ++ "/" ++ subtype).toList) :
    Mime.IsTokenChar c ∨ c = '/' := by
  rw [String.toList_append, String.toList_append, List.mem_append, List.mem_append] at hc
  rcases hc with (hc | hc) | hc
  · exact Or.inl (hkind.chars c hc)
  · exact Or.inr (List.mem_singleton.mp hc)
  · exact Or.inl (hsubtype.chars c hc)

/-- Nothing in a pair of tokens ends a line, a word or the value. -/
theorem pair_clean (c : Char) (hc : c ∈ (kind ++ "/" ++ subtype).toList) :
    isControl c = false ∧ isWhitespace c = false ∧ c ≠ '"' ∧ c ≠ ';' := by
  rcases pair_chars hkind hsubtype c hc with htoken | rfl
  · exact ⟨htoken.isControl_eq_false, htoken.isWhitespace_eq_false,
      htoken.ne_of_mem '"' (by decide), htoken.ne_of_mem ';' (by decide)⟩
  · decide

theorem pair_count : (kind ++ "/" ++ subtype).toList.count '/' = 1 := by
  have hnone (s : String) (hs : Mime.IsToken s) : s.toList.count '/' = 0 :=
    List.count_eq_zero.mpr fun hmem => (hs.chars '/' hmem).ne_of_mem '/' (by decide) rfl
  rw [String.toList_append, String.toList_append, List.count_append, List.count_append,
    hnone kind hkind, hnone subtype hsubtype]
  rfl

/-- A bare pair of tokens is accepted as it stands. -/
theorem contentTypeEssence_pair (hne : eqIgnoreAsciiCase kind "multipart" = false) :
    contentTypeEssence (kind ++ "/" ++ subtype) =
      some (toAsciiLowercase kind ++ "/" ++ toAsciiLowercase subtype) := by
  have hclean := pair_clean hkind hsubtype
  rw [contentTypeEssence_eq_some_iff]
  refine ⟨?_, kind, subtype, ?_, hkind, hsubtype, hne, rfl⟩
  · rw [List.any_eq_false]
    exact fun c hc => Bool.eq_false_iff.mp (hclean c hc).1
  · have hall : ∀ c ∈ (kind ++ "/" ++ subtype).toList, (c != ';') = true :=
      fun c hc => bne_iff_ne.mpr (hclean c hc).2.2.2
    rw [split_headD, List.takeWhile_eq_self_iff.mpr hall, String.ofList_toList]
    exact trim_eq_self _ fun c hc => (hclean c hc).2.1

end Pairs

theorem Essence.accepted (e : Essence) : contentTypeEssence e.text = some e.text := by
  have hlower : toAsciiLowercase "multipart" = "multipart" := by decide
  have hne : eqIgnoreAsciiCase e.kind "multipart" = false := by
    unfold eqIgnoreAsciiCase
    rw [e.kind_lower, hlower]
    exact beq_false_of_ne e.kind_ne
  unfold Essence.text
  rw [contentTypeEssence_pair e.kind_token e.subtype_token hne, e.kind_lower, e.subtype_lower]

theorem exists_essence (raw result : String) (h : contentTypeEssence raw = some result) :
    ∃ e : Essence, result = e.text := by
  obtain ⟨-, kind, subtype, -, hkind, hsubtype, hne, rfl⟩ :=
    (contentTypeEssence_eq_some_iff raw result).mp h
  exact ⟨Essence.ofTokens kind subtype hkind hsubtype hne, rfl⟩

/-- What is accepted is written as a lowercase pair of tokens that is not `multipart`, which
itself would be accepted unchanged. Neither the case of the letters, blanks around it nor
parameters change the result; every pair of tokens is accepted unless it is `multipart`, and
nothing that holds a control. -/
theorem content_types_are_essences :
    (∀ raw result, contentTypeEssence raw = some result →
      (∃ e : Essence, result = e.text) ∧
        (∀ c ∈ result.toList, isControl c = false ∧ isWhitespace c = false ∧ c ≠ '"' ∧ c ≠ ';') ∧
        result.toList.count '/' = 1 ∧ contentTypeEssence result = some result) ∧
      (∀ raw other, eqIgnoreAsciiCase raw other = true →
        contentTypeEssence raw = contentTypeEssence other) ∧
      (∀ front raw back, IsBlank front → IsBlank back →
        contentTypeEssence (front ++ raw ++ back) = contentTypeEssence raw) ∧
      (∀ raw parameters, parameters.toList.any isControl = false →
        contentTypeEssence (raw ++ ";" ++ parameters) = contentTypeEssence raw) ∧
      (∀ kind subtype, Mime.IsToken kind → Mime.IsToken subtype →
        eqIgnoreAsciiCase kind "multipart" = false →
        contentTypeEssence (kind ++ "/" ++ subtype) =
          some (toAsciiLowercase kind ++ "/" ++ toAsciiLowercase subtype)) ∧
      ∀ raw, raw.toList.any isControl = true → contentTypeEssence raw = none := by
  refine ⟨?_, contentTypeEssence_of_eqIgnoreAsciiCase, contentTypeEssence_blanks,
    contentTypeEssence_parameters, ?_, ?_⟩
  · intro raw result h
    obtain ⟨e, rfl⟩ := exists_essence raw result h
    exact ⟨⟨e, rfl⟩, pair_clean e.kind_token e.subtype_token,
      pair_count e.kind_token e.subtype_token, e.accepted⟩
  · intro kind subtype hkind hsubtype hne
    exact contentTypeEssence_pair hkind hsubtype hne
  · intro raw hcontrol
    unfold contentTypeEssence
    rw [if_pos hcontrol]

end Overfwd
