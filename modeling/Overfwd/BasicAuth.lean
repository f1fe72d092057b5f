import Overfwd.Auth
import Overfwd.Base64Payloads

namespace Overfwd

open Text Outcome

/-- Nothing but carriage returns and line feeds. -/
def LineEnds (w : String) : Prop := ∀ c ∈ w.toList, c ∈ ['\r', '\n']

/-- A username and a password that one text can carry: the first colon parts them, and the
last character belongs to the credential. -/
@[ext]
structure BasicCredential where
  username : String
  password : String
  named : username ≠ ""
  no_colon : ':' ∉ username.toList
  ended : ∀ c ∈ password.toList.getLast?, c ∉ ['\r', '\n']

def BasicCredential.text (c : BasicCredential) : String := c.username ++ ":" ++ c.password

/-- The value in which a client sends a credential, with line ends that its encoder added. -/
def BasicCredential.value (c : BasicCredential) (w : String) : String :=
  "Basic " ++ base64Text (bytes (c.text ++ w))

/-- The value is the scheme, a blank and the rest. -/
def StartsBasic (value rest : String) : Prop := value = "Basic " ++ rest ∨ value = "basic " ++ rest

/-- The value holds the text in padded base64 after its scheme. -/
def Holds (value text : String) : Prop :=
  ∃ rest, StartsBasic value rest ∧ Base64.encode (bytes text) = bytes (trim rest)

/-- What a value may lack. -/
inductive MissingPart (value : String) : Prop
  | scheme (h : ∀ rest, ¬StartsBasic value rest)
  | base64 (rest : String) (hrest : StartsBasic value rest)
      (h : ∀ bs, Base64.encode bs ≠ bytes (trim rest))
  | utf8 (rest : String) (hrest : StartsBasic value rest) (bs : List UInt8)
      (hbs : Base64.encode bs = bytes (trim rest)) (h : ∀ text, bs ≠ bytes text)
  | colon (text : String) (htext : Holds value text) (h : ':' ∉ text.toList)
  | username (text : String) (htext : Holds value text) (h : text.toList.head? = some ':')

section Scheme

theorem stripScheme_eq_some_iff (value rest : String) :
    (stripPrefix "Basic " value).or (stripPrefix "basic " value) = some rest ↔
      StartsBasic value rest :=
  stripPrefix_or_eq_some_iff _ _ _ _ 'B' 'b' _ _ rfl rfl (by decide)

theorem startsBasic_unique (value rest rest' : String) (h : StartsBasic value rest)
    (h' : StartsBasic value rest') : rest = rest' := by
  have hsome := (stripScheme_eq_some_iff value rest).mpr h
  rw [(stripScheme_eq_some_iff value rest').mpr h'] at hsome
  exact (Option.some.inj hsome).symm

theorem holds_unique (value text text' : String) (h : Holds value text) (h' : Holds value text') :
    text = text' := by
  obtain ⟨rest, hrest, htext⟩ := h
  obtain ⟨rest', hrest', htext'⟩ := h'
  obtain rfl := startsBasic_unique value rest rest' hrest hrest'
  have hdecode := (Base64.decode_eq_some_iff _ _).mpr htext
  rw [(Base64.decode_eq_some_iff _ _).mpr htext'] at hdecode
  exact (bytes_injective _ _ (Option.some.inj hdecode)).symm

end Scheme

section Reading

/-- What becomes of the text once it is decoded. -/
def readText (text : String) : Except GatewayError (String × String) := do
  let (user, pass) ← okOr malformedAuth (splitOnce ':' (trimEndMatchesAny ['\r', '\n'] text))
  if isEmpty user then .error malformedAuth else .ok (user, pass)

theorem parseBasic_of_holds (value text : String) (h : Holds value text) :
    parseBasic value = readText text := by
  obtain ⟨rest, hrest, hencode⟩ := h
  have hdecode := (Base64.decode_eq_some_iff _ _).mpr hencode
  have hutf8 := (fromUtf8_eq_some_iff (bytes text) text).mpr rfl
  unfold parseBasic
  simp only [(stripScheme_eq_some_iff value rest).mpr hrest, okOr, ok_bind, hdecode, hutf8]
  rfl

/-- A value of the right scheme either holds a text or is refused at once. -/
theorem parseBasic_unread (value : String) (h : ∀ text, ¬Holds value text) :
    parseBasic value = .error malformedAuth ∧ MissingPart value := by
  unfold parseBasic
  cases hscheme : (stripPrefix "Basic " value).or (stripPrefix "basic " value) with
  | none =>
    refine ⟨rfl, .scheme fun rest hrest => ?_⟩
    rw [(stripScheme_eq_some_iff value rest).mpr hrest] at hscheme
    cases hscheme
  | some rest =>
    have hrest := (stripScheme_eq_some_iff value rest).mp hscheme
    simp only [okOr, ok_bind]
    cases hdecode : Base64.decode (bytes (trim rest)) with
    | none =>
      refine ⟨rfl, .base64 rest hrest fun bs hbs => ?_⟩
      rw [(Base64.decode_eq_some_iff _ _).mpr hbs] at hdecode
      cases hdecode
    | some bs =>
      have hbs := (Base64.decode_eq_some_iff _ _).mp hdecode
      cases hutf8 : fromUtf8 bs with
      | none =>
        simp only [ok_bind, hutf8]
        refine ⟨rfl, .utf8 rest hrest bs hbs fun text htext => ?_⟩
        rw [(fromUtf8_eq_some_iff bs text).mpr htext] at hutf8
        cases hutf8
      | some text =>
        have htext := (fromUtf8_eq_some_iff bs text).mp hutf8
        exact absurd ⟨rest, hrest, htext ▸ hbs⟩ (h text)

theorem getLast_of_colon (user pass : String) :
    (user ++ ":" ++ pass).toList.getLast? = some (pass.toList.getLast?.getD ':') := by
  have htext : (user ++ ":" ++ pass).toList = user.toList ++ ':' :: pass.toList := by
    rw [String.toList_append, String.toList_append, List.append_assoc]
    rfl
  rw [htext, List.getLast?_append_of_ne_nil _ (List.cons_ne_nil _ _), List.getLast?_cons]

/-- Line ends after a credential are no part of it, whatever the credential ends in. -/
theorem trim_text (c : BasicCredential) (w : String) (hw : LineEnds w) :
    trimEndMatchesAny ['\r', '\n'] (c.text ++ w) = c.text := by
  apply trimEndMatchesAny_append _ _ _ _ hw
  intro d hd
  rw [BasicCredential.text, getLast_of_colon] at hd
  obtain rfl : c.password.toList.getLast?.getD ':' = d := Option.some.inj hd
  cases hlast : c.password.toList.getLast? with
  | none => decide
  | some b => exact c.ended b hlast

theorem readText_text (c : BasicCredential) (w : String) (hw : LineEnds w) :
    readText (c.text ++ w) = .ok (c.username, c.password) := by
  have hsplit : splitOnce ':' c.text = some (c.username, c.password) :=
    (splitOnce_eq_some_iff ':' ":" _ _ _ rfl).mpr ⟨rfl, c.no_colon⟩
  have hnamed : ¬isEmpty c.username = true := by
    intro hempty
    exact c.named ((isEmpty_eq_true_iff c.username).mp hempty)
  unfold readText
  rw [trim_text c w hw, hsplit, okOr, ok_bind]
  exact if_neg hnamed

/-- A text is a credential with line ends after it, or lacks its colon or its username. -/
theorem readText_cases (text : String) :
    (∃ (c : BasicCredential) (w : String), LineEnds w ∧ text = c.text ++ w) ∨
      ((':' ∉ text.toList ∨ text.toList.head? = some ':') ∧
        readText text = .error malformedAuth) := by
  obtain ⟨w, htext, hw, hlast⟩ := trimEndMatchesAny_spec ['\r', '\n'] text
  unfold readText
  generalize trimEndMatchesAny ['\r', '\n'] text = credential at htext hlast
  cases hsplit : splitOnce ':' credential with
  | none =>
    refine Or.inr ⟨Or.inl ?_, rfl⟩
    intro hcolon
    rw [htext, String.toList_append] at hcolon
    rcases List.mem_append.mp hcolon with hcolon | hcolon
    · exact (splitOnce_eq_none_iff ':' credential).mp hsplit hcolon
    · exact absurd (hw ':' hcolon) (by decide)
  | some parts =>
    obtain ⟨user, pass⟩ := parts
    obtain ⟨hcredential, hcolon⟩ := (splitOnce_eq_some_iff ':' ":" _ _ _ rfl).mp hsplit
    rw [hcredential] at htext hlast
    rw [okOr, ok_bind]
    dsimp only
    split_ifs with hempty
    · refine Or.inr ⟨Or.inr ?_, rfl⟩
      simp [htext, (isEmpty_eq_true_iff user).mp hempty]
    · have hnamed : user ≠ "" := fun huser => hempty ((isEmpty_eq_true_iff user).mpr huser)
      have hended : ∀ c ∈ pass.toList.getLast?, c ∉ ['\r', '\n'] := by
        intro c hc
        apply hlast c
        rw [getLast_of_colon, hc]
        rfl
      exact Or.inl ⟨⟨user, pass, hnamed, hcolon, hended⟩, w, hw, htext⟩

end Reading

section Values

theorem base64Text_ascii (bs : List UInt8) :
    ∀ c ∈ (base64Text bs).toList, 32 < c.toNat ∧ c.toNat < 128 := by
  intro c hc
  rw [base64Text, String.toList_ofList] at hc
  obtain ⟨b, hb, rfl⟩ := List.mem_map.mp hc
  have hvisible := encode_visible bs b hb
  rwa [toNat_ofNat_of_ascii _ hvisible.2]

/-- Base64 has no blanks that trimming could take. -/
theorem trim_base64Text (bs : List UInt8) : trim (base64Text bs) = base64Text bs := by
  apply trim_eq_self
  intro c hc
  have hc := base64Text_ascii bs c hc
  simp only [isWhitespace, Bool.or_eq_false_iff, Bool.and_eq_false_iff, decide_eq_false_iff_not,
    beq_eq_false_iff_ne]
  omega

theorem bytes_base64Text (bs : List UInt8) : bytes (base64Text bs) = Base64.encode bs := by
  rw [base64Text, bytes_ofNat _ fun c hc => (encode_visible bs c hc).2]

theorem holds_value (c : BasicCredential) (w : String) : Holds (c.value w) (c.text ++ w) := by
  refine ⟨base64Text (bytes (c.text ++ w)), Or.inl rfl, ?_⟩
  rw [trim_base64Text, bytes_base64Text]

theorem parseBasic_value (c : BasicCredential) (w : String) (hw : LineEnds w) :
    parseBasic (c.value w) = .ok (c.username, c.password) := by
  rw [parseBasic_of_holds _ _ (holds_value c w), readText_text c w hw]

theorem parseBasic_injective (c c' : BasicCredential) (w w' : String) (hw : LineEnds w)
    (hw' : LineEnds w') (h : parseBasic (c.value w) = parseBasic (c'.value w')) : c = c' := by
  rw [parseBasic_value c w hw, parseBasic_value c' w' hw'] at h
  obtain ⟨husername, hpassword⟩ := Prod.mk.inj (Except.ok.inj h)
  exact BasicCredential.ext husername hpassword

/-- A value that holds a text lacks only what the text lacks. -/
theorem missingPart_iff (value text : String) (h : Holds value text) :
    MissingPart value ↔ ':' ∉ text.toList ∨ text.toList.head? = some ':' := by
  have hrest (rest : String) (hrest : StartsBasic value rest) :
      Base64.encode (bytes text) = bytes (trim rest) := by
    obtain ⟨rest', hrest', hencode⟩ := h
    rwa [startsBasic_unique value rest rest' hrest hrest']
  constructor
  · intro hpart
    cases hpart with
    | scheme hnone =>
      obtain ⟨rest, hstarts, -⟩ := h
      exact absurd hstarts (hnone rest)
    | base64 rest hstarts hnone => exact absurd (hrest rest hstarts) (hnone _)
    | utf8 rest hstarts bs hbs hnone =>
      have hdecode := (Base64.decode_eq_some_iff _ _).mpr hbs
      rw [(Base64.decode_eq_some_iff _ _).mpr (hrest rest hstarts)] at hdecode
      exact absurd (Option.some.inj hdecode).symm (hnone text)
    | colon text' htext' hcolon =>
      rw [holds_unique value text text' h htext']
      exact Or.inl hcolon
    | username text' htext' hhead =>
      rw [holds_unique value text text' h htext']
      exact Or.inr hhead
  · intro htext
    rcases htext with hcolon | hhead
    · exact .colon text h hcolon
    · exact .username text h hhead

/-- A credential's text has its colon, and something in front of it. -/
theorem text_complete (c : BasicCredential) (w : String) :
    ':' ∈ (c.text ++ w).toList ∧ (c.text ++ w).toList.head? ≠ some ':' := by
  have hne : c.username.toList ≠ [] := fun hnil => c.named (String.toList_injective hnil)
  have hhead : c.username.toList.head? ≠ some ':' :=
    fun hcolon => c.no_colon (List.mem_of_mem_head? hcolon)
  constructor
  · simp [BasicCredential.text]
  · cases husername : c.username.toList with
    | nil => exact absurd husername hne
    | cons b bs =>
      rw [husername] at hhead
      simpa [BasicCredential.text, husername] using hhead

/-- One error for whatever is missing, and none when nothing is. -/
theorem parseBasic_eq_error_iff (value : String) (e : GatewayError) :
    parseBasic value = .error e ↔ e = malformedAuth ∧ MissingPart value := by
  have hrefused (herror : parseBasic value = .error malformedAuth) (hpart : MissingPart value) :
      parseBasic value = .error e ↔ e = malformedAuth ∧ MissingPart value := by
    rw [herror]
    constructor
    · intro h
      exact ⟨(Except.error.inj h).symm, hpart⟩
    · intro h
      rw [h.1]
  by_cases hholds : ∃ text, Holds value text
  · obtain ⟨text, htext⟩ := hholds
    have hread := parseBasic_of_holds value text htext
    have hmissing := missingPart_iff value text htext
    rcases readText_cases text with ⟨c, w, hw, rfl⟩ | ⟨hlacks, herror⟩
    · rw [hread, readText_text c w hw, hmissing]
      obtain ⟨hcolon, hhead⟩ := text_complete c w
      constructor
      · intro h
        cases h
      · rintro ⟨-, hlacks⟩
        exact absurd hlacks (not_or.mpr ⟨fun h => h hcolon, hhead⟩)
    · exact hrefused (hread.trans herror) (hmissing.mpr hlacks)
  · obtain ⟨herror, hpart⟩ := parseBasic_unread value (not_exists.mp hholds)
    exact hrefused herror hpart

end Values

/-- A credential survives its encoding whatever line ends were added, so two of them are
never taken for one another; a value that lacks a part is refused, and no other one. -/
theorem basic_credential_survives :
    (∀ (c : BasicCredential) (w : String), LineEnds w →
      parseBasic (c.value w) = .ok (c.username, c.password)) ∧
      (∀ (c c' : BasicCredential) (w w' : String), LineEnds w → LineEnds w' →
        parseBasic (c.value w) = parseBasic (c'.value w') → c = c') ∧
      ∀ (value : String) (e : GatewayError),
        parseBasic value = .error e ↔ e = malformedAuth ∧ MissingPart value :=
  ⟨parseBasic_value, parseBasic_injective, parseBasic_eq_error_iff⟩

end Overfwd
