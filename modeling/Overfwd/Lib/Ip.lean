import Overfwd.Lib.Outcome
import Overfwd.Lib.Text

/-! IP addresses and their textual forms: the strict parser of the standard
library, given by the documented grammar, and the documented address predicates. -/
namespace Net

open Outcome

structure Ipv4Addr where
  a : BitVec 8
  b : BitVec 8
  c : BitVec 8
  d : BitVec 8
  deriving DecidableEq

structure Ipv6Addr where
  s0 : BitVec 16
  s1 : BitVec 16
  s2 : BitVec 16
  s3 : BitVec 16
  s4 : BitVec 16
  s5 : BitVec 16
  s6 : BitVec 16
  s7 : BitVec 16
  deriving DecidableEq

inductive IpAddr
  | v4 (ip : Ipv4Addr)
  | v6 (ip : Ipv6Addr)
  deriving DecidableEq

namespace Ipv4Addr

def isLoopback (ip : Ipv4Addr) : Bool := ip.a == 127

def isPrivate (ip : Ipv4Addr) : Bool :=
  ip.a == 10 || (ip.a == 172 && 16 ≤ ip.b && ip.b ≤ 31) || (ip.a == 192 && ip.b == 168)

def isLinkLocal (ip : Ipv4Addr) : Bool := ip.a == 169 && ip.b == 254

def isUnspecified (ip : Ipv4Addr) : Bool := ip == ⟨0, 0, 0, 0⟩

def isBroadcast (ip : Ipv4Addr) : Bool := ip == ⟨255, 255, 255, 255⟩

def isMulticast (ip : Ipv4Addr) : Bool := 224 ≤ ip.a && ip.a ≤ 239

def isDocumentation (ip : Ipv4Addr) : Bool :=
  (ip.a == 192 && ip.b == 0 && ip.c == 2) || (ip.a == 198 && ip.b == 51 && ip.c == 100) ||
    (ip.a == 203 && ip.b == 0 && ip.c == 113)

end Ipv4Addr

namespace Ipv6Addr

def isLoopback (ip : Ipv6Addr) : Bool := ip == ⟨0, 0, 0, 0, 0, 0, 0, 1⟩

def isUnspecified (ip : Ipv6Addr) : Bool := ip == ⟨0, 0, 0, 0, 0, 0, 0, 0⟩

def isMulticast (ip : Ipv6Addr) : Bool := ip.s0 &&& 0xff00 == 0xff00

/-- `::ffff:a.b.c.d`, the only form that embeds an IPv4 address. -/
def toIpv4Mapped (ip : Ipv6Addr) : Option Ipv4Addr :=
  if ip.s0 = 0 ∧ ip.s1 = 0 ∧ ip.s2 = 0 ∧ ip.s3 = 0 ∧ ip.s4 = 0 ∧ ip.s5 = 0xffff then
    some ⟨(ip.s6 >>> 8).setWidth 8, ip.s6.setWidth 8, (ip.s7 >>> 8).setWidth 8, ip.s7.setWidth 8⟩
  else none

end Ipv6Addr

def isHexDigit (c : Char) : Bool :=
  c.isDigit || ('a' ≤ c && c ≤ 'f') || ('A' ≤ c && c ≤ 'F')

def hexDigitValue (c : Char) : ℕ :=
  if c.isDigit then c.toNat - 48 else if 'a' ≤ c then c.toNat - 87 else c.toNat - 55

def hexValue (cs : List Char) : ℕ := cs.foldl (fun n c => 16*n + hexDigitValue c) 0

/-- One to three decimal digits without a leading zero, at most 255. -/
def octet (cs : List Char) : Option (BitVec 8) :=
  if 1 ≤ cs.length ∧ cs.length ≤ 3 ∧ cs.all Char.isDigit ∧ (cs.length = 1 ∨ cs.head? ≠ some '0') ∧
      Text.decimalValue cs ≤ 255 then
    some (BitVec.ofNat 8 (Text.decimalValue cs))
  else none

def parseV4 (cs : List Char) : Option Ipv4Addr :=
  match (cs.splitOn '.').mapM octet with
  | some [a, b, c, d] => some ⟨a, b, c, d⟩
  | _ => none

/-- One to four hexadecimal digits. -/
def group (cs : List Char) : Option (BitVec 16) :=
  if 1 ≤ cs.length ∧ cs.length ≤ 4 ∧ cs.all isHexDigit then some (BitVec.ofNat 16 (hexValue cs))
  else none

def groups (cs : List Char) : Option (List (BitVec 16)) :=
  if cs = [] then some [] else (cs.splitOn ':').mapM group

/-- The groups of the last part of an address: its last piece may be a dotted
quad, which stands for two groups. -/
def tailGroups : List (List Char) → Option (List (BitVec 16))
  | [] => some []
  | [last] =>
    match group last with
    | some g => some [g]
    -- Only in this place may a dotted quad stand.
    | none => (parseV4 last).map fun ip => [ip.a ++ ip.b, ip.c ++ ip.d]
  | piece :: pieces => do
    let g ← group piece
    let gs ← tailGroups pieces
    some (g :: gs)

def backGroups (cs : List Char) : Option (List (BitVec 16)) :=
  if cs = [] then some [] else tailGroups (cs.splitOn ':')

def splitDoubleColon : List Char → Option (List Char × List Char)
  | ':' :: ':' :: rest => some ([], rest)
  | c :: rest => (splitDoubleColon rest).map fun p => (c :: p.1, p.2)
  | [] => none

def ofGroups : List (BitVec 16) → Option Ipv6Addr
  | [a, b, c, d, e, f, g, h] => some ⟨a, b, c, d, e, f, g, h⟩
  | _ => none

/-- Eight groups, or fewer with one `::` that stands for at least one zero group. -/
def parseV6 (cs : List Char) : Option Ipv6Addr :=
  match splitDoubleColon cs with
  | none => (tailGroups (cs.splitOn ':')).bind ofGroups
  | some (front, back) => do
    let hs ← groups front
    let ts ← backGroups back
    if hs.length + ts.length ≤ 7 then
      ofGroups (hs ++ List.replicate (8 - (hs.length + ts.length)) 0 ++ ts)
    else none

/-- `str::parse::<IpAddr>`. -/
def parseIp (s : String) : Option IpAddr :=
  match parseV4 s.toList with
  | some ip => some (.v4 ip)
  | none => (parseV6 s.toList).map .v6

inductive SocketAddr
  | v4 (ip : Ipv4Addr) (port : BitVec 16)
  | v6 (ip : Ipv6Addr) (port : BitVec 16) (scopeId : BitVec 32)
  deriving DecidableEq

/-- Decimal digits of a value below `2^w`; leading zeros are allowed, a sign is not. -/
def number (w : ℕ) (cs : List Char) : Option (BitVec w) :=
  if cs ≠ [] ∧ cs.all Char.isDigit ∧ Text.decimalValue cs < 2^w then
    some (BitVec.ofNat w (Text.decimalValue cs))
  else none

def parseSocketV4 (cs : List Char) : Option SocketAddr := do
  let (host, port) ← Text.splitOnceList ':' cs
  let ip ← parseV4 host
  let port ← number 16 port
  some (.v4 ip port)

/-- What stands between the brackets: an address, and its scope after a `%`. -/
def parseScoped (cs : List Char) : Option (Ipv6Addr × BitVec 32) :=
  match Text.splitOnceList '%' cs with
  | none => (parseV6 cs).map fun ip => (ip, 0)
  | some (host, scope) => do
    let ip ← parseV6 host
    let scopeId ← number 32 scope
    some (ip, scopeId)

def parseSocketV6 : List Char → Option SocketAddr
  | '[' :: cs => do
    let (inner, port) ← Text.splitOnceList ']' cs
    let (ip, scopeId) ← parseScoped inner
    match port with
    | ':' :: digits => (number 16 digits).map fun port => .v6 ip port scopeId
    | _ => none
  | _ => none

/-- `str::parse::<SocketAddr>`. -/
def parseSocketAddr (s : String) : Option SocketAddr :=
  match parseSocketV4 s.toList with
  | some addr => some addr
  | none => parseSocketV6 s.toList

theorem isHexDigit_range (c : Char) (h : isHexDigit c = true) :
    (48 ≤ c.toNat ∧ c.toNat ≤ 57) ∨ (65 ≤ c.toNat ∧ c.toNat ≤ 70) ∨
      (97 ≤ c.toNat ∧ c.toNat ≤ 102) := by
  simp only [isHexDigit, Char.isDigit, Bool.or_eq_true, Bool.and_eq_true, decide_eq_true_eq,
    Char.le_def, UInt32.le_iff_toNat_le] at h
  simp only [Char.toNat]
  rcases h with (h | h) | h
  · exact Or.inl h
  · exact Or.inr (Or.inr h)
  · exact Or.inr (Or.inl h)

theorem isHexDigit_plain (c : Char) (h : isHexDigit c = true) :
    Text.isWhitespace c = false ∧ c ≠ '[' := by
  have hrange := isHexDigit_range c h
  constructor
  · simp only [Text.isWhitespace, Bool.or_eq_false_iff, Bool.and_eq_false_iff,
      decide_eq_false_iff_not, beq_eq_false_iff_ne]
    omega
  · rintro rfl
    exact absurd h (by decide)

/-- What any text of an address looks like: hexadecimal digits, dots and colons,
the last symbol not a dot. -/
structure AddressText (cs : List Char) : Prop where
  nonempty : cs ≠ []
  symbols : ∀ c ∈ cs, isHexDigit c = true ∨ c = '.' ∨ c = ':'
  last : cs.getLast? ≠ some '.'

theorem address_text_of_digits (cs : List Char) (hne : cs ≠ []) (hdigits : cs.all isHexDigit) :
    AddressText cs := by
  have hall := List.all_eq_true.mp hdigits
  refine ⟨hne, fun c hc => Or.inl (hall c hc), fun hlast => ?_⟩
  have hdot := hall _ (List.mem_of_getLast? hlast)
  exact absurd hdot (by decide)

theorem address_text_append (front back : List Char) (hfront : ∀ c ∈ front,
    isHexDigit c = true ∨ c = '.' ∨ c = ':') (hback : AddressText back) :
    AddressText (front ++ back) := by
  refine ⟨by simp [hback.nonempty], fun c hc => ?_, ?_⟩
  · rcases List.mem_append.mp hc with hc | hc
    · exact hfront c hc
    · exact hback.symbols c hc
  · rw [List.getLast?_append_of_ne_nil _ hback.nonempty]
    exact hback.last

theorem address_text_intercalate (sep : Char) (pieces : List (List Char))
    (hsep : sep = '.' ∨ sep = ':') (hne : pieces ≠ []) (hpieces : ∀ p ∈ pieces, AddressText p) :
    AddressText ([sep].intercalate pieces) := by
  induction pieces with
  | nil => exact absurd rfl hne
  | cons p ps ih =>
    have hp := hpieces p (by simp)
    cases ps with
    | nil => simpa using hp
    | cons q qs =>
      have hrest := ih (by simp) (fun x hx => hpieces x (by simp [hx]))
      rw [List.intercalate_cons_cons]
      apply address_text_append _ _ _ hrest
      intro c hc
      rcases List.mem_append.mp hc with hc | hc
      · exact hp.symbols c hc
      · obtain rfl := List.mem_singleton.mp hc
        exact Or.inr hsep

theorem address_text_splitOn (sep : Char) (cs : List Char) (hsep : sep = '.' ∨ sep = ':')
    (hpieces : ∀ p ∈ cs.splitOn sep, AddressText p) : AddressText cs := by
  have h := address_text_intercalate sep _ hsep (List.splitOn_ne_nil _ _) hpieces
  rwa [List.intercalate_splitOn] at h

theorem octet_text (cs : List Char) (o : BitVec 8) (h : octet cs = some o) : AddressText cs := by
  unfold octet at h
  split_ifs at h with hcs
  obtain ⟨hlen, -, hdigits, -⟩ := hcs
  apply address_text_of_digits
  · rintro rfl
    simp at hlen
  · rw [List.all_eq_true] at hdigits ⊢
    intro c hc
    simp [isHexDigit, hdigits c hc]

theorem parseV4_text (cs : List Char) (ip : Ipv4Addr) (h : parseV4 cs = some ip) :
    AddressText cs := by
  unfold parseV4 at h
  split at h
  case h_2 => cases h
  case h_1 a b c d hocts =>
    apply address_text_splitOn '.' cs (Or.inl rfl)
    intro p hp
    obtain ⟨o, -, ho⟩ := forall₂_mem_left ((mapM_eq_some_iff _ _ _).mp hocts) p hp
    exact octet_text p o ho

theorem group_text (cs : List Char) (g : BitVec 16) (h : group cs = some g) : AddressText cs := by
  unfold group at h
  split_ifs at h with hcs
  apply address_text_of_digits cs _ hcs.2.2
  rintro rfl
  simp at hcs

theorem tailGroups_text (pieces : List (List Char)) (gs : List (BitVec 16))
    (h : tailGroups pieces = some gs) : ∀ p ∈ pieces, AddressText p := by
  induction pieces generalizing gs with
  | nil => simp
  | cons piece pieces ih =>
    cases pieces with
    | nil =>
      intro p hp
      obtain rfl := List.mem_singleton.mp hp
      simp only [tailGroups] at h
      split at h
      case h_1 g hg => exact group_text p g hg
      case h_2 =>
        obtain ⟨ip, hip, -⟩ := Option.map_eq_some_iff.mp h
        exact parseV4_text p ip hip
    | cons next pieces =>
      obtain ⟨g, hg, h⟩ := Option.bind_eq_some_iff.mp h
      obtain ⟨gs, hgs, -⟩ := Option.bind_eq_some_iff.mp h
      intro p hp
      rcases List.mem_cons.mp hp with rfl | hp
      · exact group_text p g hg
      · exact ih gs hgs p hp

theorem splitDoubleColon_eq (cs front back : List Char)
    (h : splitDoubleColon cs = some (front, back)) : cs = front ++ ':' :: ':' :: back := by
  induction cs using splitDoubleColon.induct generalizing front back with
  | case1 rest =>
    simp only [splitDoubleColon] at h
    cases h
    rfl
  | case2 c rest hne ih =>
    rw [splitDoubleColon] at h
    · obtain ⟨⟨f, b⟩, hfb, heq⟩ := Option.map_eq_some_iff.mp h
      cases heq
      rw [ih f b hfb]
      rfl
    · exact hne
  | case3 => simp [splitDoubleColon] at h

theorem parseV6_text (cs : List Char) (ip : Ipv6Addr) (h : parseV6 cs = some ip) :
    AddressText cs := by
  unfold parseV6 at h
  split at h
  case h_1 =>
    obtain ⟨gs, hgs, -⟩ := Option.bind_eq_some_iff.mp h
    exact address_text_splitOn ':' cs (Or.inr rfl) (tailGroups_text _ gs hgs)
  case h_2 front back hsplit =>
    obtain ⟨hs, hhs, h⟩ := Option.bind_eq_some_iff.mp h
    obtain ⟨ts, hts, -⟩ := Option.bind_eq_some_iff.mp h
    rw [splitDoubleColon_eq cs front back hsplit]
    apply address_text_append
    · intro c hc
      unfold groups at hhs
      split_ifs at hhs with hempty
      · simp [hempty] at hc
      · have htext : AddressText front := by
          apply address_text_splitOn ':' front (Or.inr rfl)
          intro p hp
          obtain ⟨g, -, hg⟩ := forall₂_mem_left ((mapM_eq_some_iff _ _ _).mp hhs) p hp
          exact group_text p g hg
        exact htext.symbols c hc
    · unfold backGroups at hts
      split_ifs at hts with hempty
      · subst hempty
        exact ⟨by simp, by simp, by simp⟩
      · have hback := address_text_splitOn ':' back (Or.inr rfl) (tailGroups_text _ ts hts)
        exact address_text_append [':', ':'] back (by simp) hback

theorem parseIp_eq_none_of_no_colon (s : String) (hcolon : ':' ∉ s.toList)
    (hv4 : parseV4 s.toList = none) : parseIp s = none := by
  have hsplit : splitDoubleColon s.toList = none := by
    rcases hdouble : splitDoubleColon s.toList with _ | ⟨front, back⟩
    · rfl
    · have heq := splitDoubleColon_eq _ _ _ hdouble
      exact absurd (by rw [heq]; simp) hcolon
  have hv6 : parseV6 s.toList = none := by
    unfold parseV6
    rw [hsplit, List.splitOn_eq_singleton hcolon]
    simp only [tailGroups, hv4]
    rcases group s.toList with _ | g
    · rfl
    · rfl
  unfold parseIp
  rw [hv4, hv6]
  rfl

theorem parseIp_text (s : String) (ip : IpAddr) (h : parseIp s = some ip) :
    AddressText s.toList := by
  unfold parseIp at h
  split at h
  case h_1 v4 hv4 => exact parseV4_text _ v4 hv4
  case h_2 =>
    obtain ⟨v6, hv6, -⟩ := Option.map_eq_some_iff.mp h
    exact parseV6_text _ v6 hv6

section Words

theorem toNat_concat {m n : ℕ} (x : BitVec m) (y : BitVec n) :
    (x ++ y).toNat = x.toNat * 2^n + y.toNat := by
  rw [BitVec.toNat_append, ← Nat.shiftLeft_add_eq_or_of_lt y.isLt, Nat.shiftLeft_eq]

/-- The address as one word, its first octet foremost. -/
def Ipv4Addr.bits (ip : Ipv4Addr) : BitVec 32 := ip.a ++ ip.b ++ ip.c ++ ip.d

def Ipv6Addr.bits (ip : Ipv6Addr) : BitVec 128 :=
  ip.s0 ++ ip.s1 ++ ip.s2 ++ ip.s3 ++ ip.s4 ++ ip.s5 ++ ip.s6 ++ ip.s7

theorem Ipv4Addr.toNat_bits (ip : Ipv4Addr) :
    ip.bits.toNat = ip.a.toNat * 2^24 + ip.b.toNat * 2^16 + ip.c.toNat * 2^8 + ip.d.toNat := by
  rw [Ipv4Addr.bits, toNat_concat, toNat_concat, toNat_concat]
  omega

theorem Ipv6Addr.toNat_bits (ip : Ipv6Addr) :
    ip.bits.toNat = ip.s0.toNat * 2^112 + ip.s1.toNat * 2^96 + ip.s2.toNat * 2^80 +
      ip.s3.toNat * 2^64 + ip.s4.toNat * 2^48 + ip.s5.toNat * 2^32 + ip.s6.toNat * 2^16 +
      ip.s7.toNat := by
  rw [Ipv6Addr.bits, toNat_concat, toNat_concat, toNat_concat, toNat_concat, toNat_concat,
    toNat_concat, toNat_concat]
  omega

/-- The segments are the digits of the word to the base 2^16. -/
theorem Ipv6Addr.bits_injective (x y : Ipv6Addr) (h : x.bits = y.bits) : x = y := by
  have hnat := congrArg BitVec.toNat h
  rw [Ipv6Addr.toNat_bits, Ipv6Addr.toNat_bits] at hnat
  cases x with
  | mk a0 a1 a2 a3 a4 a5 a6 a7 =>
    cases y with
    | mk b0 b1 b2 b3 b4 b5 b6 b7 =>
      simp only [Ipv6Addr.mk.injEq, ← BitVec.toNat_inj]
      dsimp only at hnat
      omega

/-- `::ffff:a.b.c.d` -/
def Ipv4Addr.mapped (ip : Ipv4Addr) : Ipv6Addr :=
  ⟨0, 0, 0, 0, 0, 0xffff, ip.a ++ ip.b, ip.c ++ ip.d⟩

theorem halves_concat (x y : BitVec 8) :
    ((x ++ y) >>> 8).setWidth 8 = x ∧ (x ++ y).setWidth 8 = y := by
  have hx := x.isLt
  have hy := y.isLt
  constructor
  · rw [← BitVec.toNat_inj, BitVec.toNat_setWidth, BitVec.toNat_ushiftRight, toNat_concat,
      Nat.shiftRight_eq_div_pow]
    omega
  · rw [← BitVec.toNat_inj, BitVec.toNat_setWidth, toNat_concat]
    omega

theorem concat_halves (x : BitVec 16) : (x >>> 8).setWidth 8 ++ x.setWidth 8 = x := by
  have hx := x.isLt
  rw [← BitVec.toNat_inj, toNat_concat, BitVec.toNat_setWidth, BitVec.toNat_setWidth,
    BitVec.toNat_ushiftRight, Nat.shiftRight_eq_div_pow]
  omega

theorem toIpv4Mapped_eq_some_iff (ip : Ipv6Addr) (v4 : Ipv4Addr) :
    ip.toIpv4Mapped = some v4 ↔ ip = v4.mapped := by
  constructor
  · intro h
    unfold Ipv6Addr.toIpv4Mapped at h
    split_ifs at h with hmapped
    cases h
    obtain ⟨h0, h1, h2, h3, h4, h5⟩ := hmapped
    cases ip
    simp_all [Ipv4Addr.mapped, concat_halves]
  · rintro rfl
    simp [Ipv6Addr.toIpv4Mapped, Ipv4Addr.mapped, halves_concat]

end Words

end Net
