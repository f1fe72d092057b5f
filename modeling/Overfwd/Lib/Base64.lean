import Mathlib.Data.Nat.Notation
import Mathlib.Data.List.DropRight

/-! Base64 over the standard alphabet with padding, read strictly: the padding is
required and the bits that no byte is made of are zero. -/
namespace Base64

/-- The sign `=`. -/
def pad : UInt8 := 61

/-- The symbol of six bits. -/
def symbol (n : ℕ) : UInt8 :=
  UInt8.ofNat (if n < 26 then n + 65 else if n < 52 then n + 71 else if n < 62 then n - 4
    else if n = 62 then 43 else 47)

/-- The six bits of a symbol. -/
def value (c : UInt8) : Option ℕ :=
  let n := c.toNat
  if 65 ≤ n ∧ n ≤ 90 then some (n - 65)
  else if 97 ≤ n ∧ n ≤ 122 then some (n - 71)
  else if 48 ≤ n ∧ n ≤ 57 then some (n + 4)
  else if n = 43 then some 62
  else if n = 47 then some 63
  else none

/-- Three bytes become four symbols; one or two bytes at the end are padded. -/
def encode : List UInt8 → List UInt8
  | [] => []
  | [a] => [symbol (a.toNat / 4), symbol (a.toNat % 4 * 16), pad, pad]
  | [a, b] => [symbol (a.toNat / 4), symbol (a.toNat % 4 * 16 + b.toNat / 16),
      symbol (b.toNat % 16 * 4), pad]
  | a :: b :: c :: rest =>
    symbol (a.toNat / 4) :: symbol (a.toNat % 4 * 16 + b.toNat / 16) ::
      symbol (b.toNat % 16 * 4 + c.toNat / 64) :: symbol (c.toNat % 64) :: encode rest

/-- Four symbols without padding. -/
def decodeFull (w x y z : UInt8) : Option (List UInt8) := do
  let w ← value w
  let x ← value x
  let y ← value y
  let z ← value z
  some [UInt8.ofNat (w * 4 + x / 16), UInt8.ofNat (x % 16 * 16 + y / 4),
    UInt8.ofNat (y % 4 * 64 + z)]

/-- The last four symbols, of which two may be padding. -/
def decodeLast (w x y z : UInt8) : Option (List UInt8) :=
  if z ≠ pad then decodeFull w x y z
  else do
    let w ← value w
    let x ← value x
    if y = pad then if x % 16 = 0 then some [UInt8.ofNat (w * 4 + x / 16)] else none
    else do
      let y ← value y
      if y % 4 = 0 then
        some [UInt8.ofNat (w * 4 + x / 16), UInt8.ofNat (x % 16 * 16 + y / 4)]
      else none

def decode : List UInt8 → Option (List UInt8)
  | [] => some []
  | w :: x :: y :: z :: rest =>
    if rest.isEmpty then decodeLast w x y z
    else do
      let bytes ← decodeFull w x y z
      let more ← decode rest
      some (bytes ++ more)
  | _ => none

theorem value_symbol (n : ℕ) (hn : n < 64) : value (symbol n) = some n := by
  have hall : ∀ m < 64, value (symbol m) = some m := by decide
  exact hall n hn

theorem value_eq_some (c : UInt8) (n : ℕ) (h : value c = some n) : n < 64 ∧ symbol n = c := by
  have hc : UInt8.ofNat c.toNat = c := UInt8.ofNat_toNat
  have hlt := c.toNat_lt
  rw [← hc]
  unfold value at h
  dsimp only at h
  generalize c.toNat = m at h hlt
  split_ifs at h with h1 h2 h3 h4 h5
  all_goals
    cases h
    refine ⟨by omega, ?_⟩
    unfold symbol
    congr 1
    split_ifs <;> omega

theorem value_pad : value pad = none := by decide

theorem symbol_ne_pad (n : ℕ) (hn : n < 64) : symbol n ≠ pad := by
  intro h
  have hvalue := value_symbol n hn
  rw [h, value_pad] at hvalue
  cases hvalue

section Groups

variable (w x y z : UInt8) (bytes : List UInt8)

theorem decodeFull_eq_some (h : decodeFull w x y z = some bytes) (rest : List UInt8) :
    encode (bytes ++ rest) = w :: x :: y :: z :: encode rest := by
  obtain ⟨m, hm, h⟩ := Option.bind_eq_some_iff.mp h
  obtain ⟨n, hn, h⟩ := Option.bind_eq_some_iff.mp h
  obtain ⟨k, hk, h⟩ := Option.bind_eq_some_iff.mp h
  obtain ⟨l, hl, h⟩ := Option.bind_eq_some_iff.mp h
  cases h
  obtain ⟨hm64, hw⟩ := value_eq_some w m hm
  obtain ⟨hn64, hx⟩ := value_eq_some x n hn
  obtain ⟨hk64, hy⟩ := value_eq_some y k hk
  obtain ⟨hl64, hz⟩ := value_eq_some z l hl
  have h1 : (m * 4 + n / 16) % 2^8 / 4 = m := by omega
  have h2 : (m * 4 + n / 16) % 2^8 % 4 * 16 + (n % 16 * 16 + k / 4) % 2^8 / 16 = n := by omega
  have h3 : (n % 16 * 16 + k / 4) % 2^8 % 16 * 4 + (k % 4 * 64 + l) % 2^8 / 64 = k := by omega
  have h4 : (k % 4 * 64 + l) % 2^8 % 64 = l := by omega
  simp only [List.cons_append, List.nil_append, encode, UInt8.toNat_ofNat', h1, h2, h3, h4,
    hw, hx, hy, hz]

theorem decodeLast_eq_some (h : decodeLast w x y z = some bytes) :
    encode bytes = [w, x, y, z] := by
  unfold decodeLast at h
  split_ifs at h with hz hy
  · have hfull := decodeFull_eq_some w x y z bytes h []
    rw [List.append_nil] at hfull
    exact hfull
  · -- One byte: the low four bits of the second symbol are no part of it.
    obtain ⟨m, hm, h⟩ := Option.bind_eq_some_iff.mp h
    obtain ⟨n, hn, h⟩ := Option.bind_eq_some_iff.mp h
    split_ifs at h with hbits
    cases h
    obtain ⟨hm64, hw⟩ := value_eq_some w m hm
    obtain ⟨hn64, hx⟩ := value_eq_some x n hn
    have h1 : (m * 4 + n / 16) % 2^8 / 4 = m := by omega
    have h2 : (m * 4 + n / 16) % 2^8 % 4 * 16 = n := by omega
    simp only [encode, UInt8.toNat_ofNat', h1, h2, hw, hx, hy, not_not.mp hz]
  · -- Two bytes: the low two bits of the third symbol are no part of them.
    obtain ⟨m, hm, h⟩ := Option.bind_eq_some_iff.mp h
    obtain ⟨n, hn, h⟩ := Option.bind_eq_some_iff.mp h
    obtain ⟨k, hk, h⟩ := Option.bind_eq_some_iff.mp h
    split_ifs at h with hbits
    cases h
    obtain ⟨hm64, hw⟩ := value_eq_some w m hm
    obtain ⟨hn64, hx⟩ := value_eq_some x n hn
    obtain ⟨hk64, hy⟩ := value_eq_some y k hk
    have h1 : (m * 4 + n / 16) % 2^8 / 4 = m := by omega
    have h2 : (m * 4 + n / 16) % 2^8 % 4 * 16 + (n % 16 * 16 + k / 4) % 2^8 / 16 = n := by omega
    have h3 : (n % 16 * 16 + k / 4) % 2^8 % 16 * 4 = k := by omega
    simp only [encode, UInt8.toNat_ofNat', h1, h2, h3, hw, hx, hy, not_not.mp hz]

end Groups

/-- What decodes is what was encoded. -/
theorem encode_of_decode (cs bytes : List UInt8) (h : decode cs = some bytes) :
    encode bytes = cs := by
  induction cs using decode.induct generalizing bytes with
  | case1 =>
    cases h
    rfl
  | case2 w x y z rest hrest =>
    rw [decode, if_pos hrest] at h
    rw [decodeLast_eq_some w x y z bytes h, List.isEmpty_iff.mp hrest]
  | case3 w x y z rest hrest ih =>
    rw [decode, if_neg hrest] at h
    obtain ⟨front, hfront, h⟩ := Option.bind_eq_some_iff.mp h
    obtain ⟨more, hmore, h⟩ := Option.bind_eq_some_iff.mp h
    cases h
    rw [decodeFull_eq_some w x y z front hfront, ih more hmore]
  | case4 cs h1 h2 =>
    unfold decode at h
    split at h
    · exact absurd rfl h1
    · exact absurd rfl (h2 _ _ _ _ _)
    · cases h

theorem encode_isEmpty (bytes : List UInt8) : (encode bytes).isEmpty = bytes.isEmpty := by
  cases bytes using encode.induct with
  | case1 => rfl
  | case2 a => rfl
  | case3 a b => rfl
  | case4 a b c rest => rfl

theorem decodeFull_symbols (a b c : UInt8) :
    decodeFull (symbol (a.toNat / 4)) (symbol (a.toNat % 4 * 16 + b.toNat / 16))
      (symbol (b.toNat % 16 * 4 + c.toNat / 64)) (symbol (c.toNat % 64)) = some [a, b, c] := by
  have ha := a.toNat_lt
  have hb := b.toNat_lt
  have hc := c.toNat_lt
  have h1 : a.toNat / 4 * 4 + (a.toNat % 4 * 16 + b.toNat / 16) / 16 = a.toNat := by omega
  have h2 : (a.toNat % 4 * 16 + b.toNat / 16) % 16 * 16 +
      (b.toNat % 16 * 4 + c.toNat / 64) / 4 = b.toNat := by omega
  have h3 : (b.toNat % 16 * 4 + c.toNat / 64) % 4 * 64 + c.toNat % 64 = c.toNat := by omega
  unfold decodeFull
  rw [value_symbol _ (by omega), value_symbol _ (by omega), value_symbol _ (by omega),
    value_symbol _ (by omega)]
  simp only [Option.bind_eq_bind, Option.bind_some, h1, h2, h3, UInt8.ofNat_toNat]

theorem decode_encode (bytes : List UInt8) : decode (encode bytes) = some bytes := by
  induction bytes using encode.induct with
  | case1 => rfl
  | case2 a =>
    have ha := a.toNat_lt
    have h1 : a.toNat / 4 * 4 + a.toNat % 4 * 16 / 16 = a.toNat := by omega
    have h2 : a.toNat % 4 * 16 % 16 = 0 := by omega
    rw [encode, decode, List.isEmpty_nil, if_pos rfl, decodeLast, if_neg (by simp),
      value_symbol _ (by omega), value_symbol _ (by omega)]
    simp only [Option.bind_eq_bind, Option.bind_some, h1, h2, if_true, UInt8.ofNat_toNat]
  | case3 a b =>
    have ha := a.toNat_lt
    have hb := b.toNat_lt
    have h1 : a.toNat / 4 * 4 + (a.toNat % 4 * 16 + b.toNat / 16) / 16 = a.toNat := by omega
    have h2 : (a.toNat % 4 * 16 + b.toNat / 16) % 16 * 16 + b.toNat % 16 * 4 / 4 = b.toNat := by
      omega
    have h3 : b.toNat % 16 * 4 % 4 = 0 := by omega
    have hy : symbol (b.toNat % 16 * 4) ≠ pad := symbol_ne_pad _ (by omega)
    rw [encode, decode, List.isEmpty_nil, if_pos rfl, decodeLast, if_neg (by simp),
      value_symbol _ (by omega), value_symbol _ (by omega), value_symbol _ (by omega)]
    simp only [Option.bind_eq_bind, Option.bind_some, h1, h2, h3, hy, if_true, if_false,
      UInt8.ofNat_toNat]
  | case4 a b c rest ih =>
    rw [encode, decode, encode_isEmpty, ih]
    -- A full quantum is decoded as the last one or as one before it, to the same bytes.
    by_cases hrest : rest.isEmpty = true
    · rw [if_pos hrest, decodeLast, if_pos (symbol_ne_pad _ (by omega)), decodeFull_symbols,
        List.isEmpty_iff.mp hrest]
    · rw [if_neg hrest, decodeFull_symbols]
      rfl

theorem decode_eq_some_iff (cs bytes : List UInt8) : decode cs = some bytes ↔ encode bytes = cs := by
  constructor
  · exact encode_of_decode cs bytes
  · rintro rfl
    exact decode_encode bytes

/-- A text is made of symbols and padding. -/
theorem mem_encode (bytes : List UInt8) :
    ∀ c ∈ encode bytes, c = pad ∨ ∃ n < 64, c = symbol n := by
  have hsymbol (n : ℕ) (hn : n < 64) : symbol n = pad ∨ ∃ m < 64, symbol n = symbol m :=
    Or.inr ⟨n, hn, rfl⟩
  induction bytes using encode.induct with
  | case1 => simp [encode]
  | case2 a =>
    have ha := a.toNat_lt
    intro c hc
    simp only [encode, List.mem_cons, List.not_mem_nil, or_false] at hc
    rcases hc with rfl | rfl | rfl | rfl
    · exact hsymbol _ (by omega)
    · exact hsymbol _ (by omega)
    · exact Or.inl rfl
    · exact Or.inl rfl
  | case3 a b =>
    have ha := a.toNat_lt
    have hb := b.toNat_lt
    intro c hc
    simp only [encode, List.mem_cons, List.not_mem_nil, or_false] at hc
    rcases hc with rfl | rfl | rfl | rfl
    · exact hsymbol _ (by omega)
    · exact hsymbol _ (by omega)
    · exact hsymbol _ (by omega)
    · exact Or.inl rfl
  | case4 a b c rest ih =>
    have ha := a.toNat_lt
    have hb := b.toNat_lt
    have hc := c.toNat_lt
    intro d hd
    simp only [encode, List.mem_cons] at hd
    rcases hd with rfl | rfl | rfl | rfl | hd
    · exact hsymbol _ (by omega)
    · exact hsymbol _ (by omega)
    · exact hsymbol _ (by omega)
    · exact hsymbol _ (by omega)
    · exact ih d hd

/-- How many padding signs a text ends with. -/
def trailingPads (cs : List UInt8) : ℕ := (cs.rtakeWhile (· == pad)).length

theorem trailingPads_cons (c : UInt8) (cs : List UInt8) (hc : c ≠ pad) :
    trailingPads (c :: cs) = trailingPads cs := by
  unfold trailingPads List.rtakeWhile
  rw [List.reverse_cons, List.takeWhile_append, List.takeWhile_cons_of_neg (by simpa using hc)]
  split_ifs with hall
  · rw [List.append_nil]
    simp only [List.length_reverse] at hall ⊢
    exact hall.symm
  · rfl

theorem trailingPads_concat_ne (cs : List UInt8) (c : UInt8) (hc : c ≠ pad) :
    trailingPads (cs ++ [c]) = 0 := by
  unfold trailingPads
  rw [List.rtakeWhile_concat_neg _ _ _ (by simpa using hc), List.length_nil]

theorem trailingPads_concat_pad (cs : List UInt8) :
    trailingPads (cs ++ [pad]) = trailingPads cs + 1 := by
  unfold trailingPads
  rw [List.rtakeWhile_concat_pos _ _ _ (by simp), List.length_append, List.length_singleton]

theorem encode_length (bytes : List UInt8) :
    (encode bytes).length = 4 * ((bytes.length + 2) / 3) := by
  induction bytes using encode.induct with
  | case1 => rfl
  | case2 a => simp [encode]
  | case3 a b => simp [encode]
  | case4 a b c rest ih =>
    simp only [encode, List.length_cons, ih]
    omega

theorem trailingPads_encode (bytes : List UInt8) :
    trailingPads (encode bytes) = (3 - bytes.length % 3) % 3 := by
  induction bytes using encode.induct with
  | case1 => rfl
  | case2 a =>
    have ha := a.toNat_lt
    rw [encode, trailingPads_cons _ _ (symbol_ne_pad _ (by omega)),
      trailingPads_cons _ _ (symbol_ne_pad _ (by omega))]
    rfl
  | case3 a b =>
    have ha := a.toNat_lt
    have hb := b.toNat_lt
    rw [encode, trailingPads_cons _ _ (symbol_ne_pad _ (by omega)),
      trailingPads_cons _ _ (symbol_ne_pad _ (by omega)),
      trailingPads_cons _ _ (symbol_ne_pad _ (by omega))]
    rfl
  | case4 a b c rest ih =>
    have ha := a.toNat_lt
    have hb := b.toNat_lt
    have hc := c.toNat_lt
    rw [encode, trailingPads_cons _ _ (symbol_ne_pad _ (by omega)),
      trailingPads_cons _ _ (symbol_ne_pad _ (by omega)),
      trailingPads_cons _ _ (symbol_ne_pad _ (by omega)),
      trailingPads_cons _ _ (symbol_ne_pad _ (by omega)), ih]
    simp only [List.length_cons]
    omega

/-- The length of the bytes shows in the length of the text and in its padding. -/
theorem length_of_encode (bytes cs : List UInt8) (h : encode bytes = cs) :
    cs.length % 4 = 0 ∧ trailingPads cs ≤ 2 ∧ cs.length / 4 * 3 - trailingPads cs = bytes.length := by
  rw [← h, encode_length, trailingPads_encode]
  omega

end Base64
