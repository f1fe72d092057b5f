import Overfwd.Lib.Ip

namespace Url

open Outcome Net Text

def isOctalDigit (c : Char) : Bool := '0' ≤ c && c ≤ '7'

def octalValue (cs : List Char) : ℕ := cs.foldl (fun n c => 8*n + (c.toNat - 48)) 0

/-- The IPv4 number parser: `0x` alone is zero, the empty string a failure. -/
def ipv4Number : List Char → Option ℕ
  | [] => none
  | ['0'] => some 0
  | '0' :: c :: cs =>
    -- A leading zero makes the number octal, so `08` is a failure.
    if c = 'x' ∨ c = 'X' then if cs.all isHexDigit then some (hexValue cs) else none
    else if (c :: cs).all isOctalDigit then some (octalValue (c :: cs)) else none
  | cs => if cs.all Char.isDigit then some (Text.decimalValue cs) else none

/-- The parts between dots; one empty part at the end is dropped. -/
def ipv4Parts (cs : List Char) : List (List Char) :=
  let parts := cs.splitOn '.'
  if 1 < parts.length ∧ parts.getLast? = some [] then parts.dropLast else parts

def ipv4Numbers (s : String) : Option (List ℕ) :=
  let parts := ipv4Parts s.toList
  if parts.length ≤ 4 then parts.mapM ipv4Number else none

/-- The address the numbers stand for: the last one fills the remaining bytes. -/
def ipv4Value (numbers : List ℕ) : Option ℕ :=
  let last := numbers.getLastD 0
  let front := numbers.dropLast
  if front.all (· ≤ 255) ∧ last < 256^(5 - numbers.length) then
    some ((front.zipIdx.map fun p => p.1 * 256^(3 - p.2)).sum + last)
  else none

theorem ipv4Number_symbols (cs : List Char) (n : ℕ) (h : ipv4Number cs = some n) :
    cs ≠ [] ∧ ∀ c ∈ cs, isHexDigit c = true ∨ c = 'x' ∨ c = 'X' := by
  have hdecimal (c : Char) (hc : c.isDigit = true) : isHexDigit c = true := by
    simp [isHexDigit, hc]
  have hoctal (c : Char) (hc : isOctalDigit c = true) : isHexDigit c = true := by
    apply hdecimal
    simp only [isOctalDigit, Bool.and_eq_true, decide_eq_true_eq, Char.le_def] at hc
    simp only [Char.isDigit, Bool.and_eq_true, decide_eq_true_eq]
    exact ⟨hc.1, UInt32.le_trans hc.2 (by decide)⟩
  have hzero : isHexDigit '0' = true := by decide
  unfold ipv4Number at h
  split at h
  case h_1 => cases h
  case h_2 => simp [hzero]
  case h_3 c ds =>
    -- A leading zero: hexadecimal after an `x`, octal otherwise.
    refine ⟨by simp, ?_⟩
    split_ifs at h with hx hhex hoct
    · have hds := List.all_eq_true.mp hhex
      intro d hd
      rcases List.mem_cons.mp hd with rfl | hd
      · exact Or.inl hzero
      · rcases List.mem_cons.mp hd with rfl | hd
        · exact Or.inr hx
        · exact Or.inl (hds d hd)
    · have hds := List.all_eq_true.mp hoct
      intro d hd
      rcases List.mem_cons.mp hd with rfl | hd
      · exact Or.inl hzero
      · exact Or.inl (hoctal d (hds d hd))
  case h_4 hne _ _ =>
    refine ⟨hne, ?_⟩
    split_ifs at h with hall
    intro d hd
    exact Or.inl (hdecimal d (List.all_eq_true.mp hall d hd))

theorem splitOn_append_replicate (cs : List Char) (k : ℕ) :
    (cs ++ List.replicate k '.').splitOn '.' = cs.splitOn '.' ++ List.replicate k [] := by
  induction k generalizing cs with
  | zero => simp
  | succ k ih =>
    have htail := ih []
    rw [List.nil_append, List.splitOn_nil] at htail
    rw [List.replicate_succ, List.splitOn_append_cons_self, htail]
    simp [List.replicate_succ]

/-- Trailing dots: the parts of a text whose labels are not empty. -/
theorem ipv4Parts_append_replicate (cs : List Char) (k : ℕ)
    (hlabels : ∀ l ∈ cs.splitOn '.', l ≠ []) :
    ipv4Parts (cs ++ List.replicate k '.') = cs.splitOn '.' ++ List.replicate (k-1) [] := by
  have hne := List.splitOn_ne_nil '.' cs
  unfold ipv4Parts
  simp only [splitOn_append_replicate]
  cases k with
  | zero =>
    have hlast : (cs.splitOn '.').getLast? ≠ some [] := by
      intro h
      exact hlabels [] (List.mem_of_getLast? h) rfl
    simp [hlast]
  | succ k =>
    have hlen : 1 < (cs.splitOn '.' ++ List.replicate (k+1) []).length := by
      have hpos := List.length_pos_of_ne_nil hne
      simp only [List.length_append, List.length_replicate]
      omega
    have hlast : (cs.splitOn '.' ++ List.replicate (k+1) []).getLast? = some [] := by
      simp [List.getLast?_append, List.getLast?_replicate]
    rw [if_pos ⟨hlen, hlast⟩, List.replicate_succ', ← List.append_assoc, List.dropLast_concat]
    rfl

section Components

structure Parts where
  scheme : Option String
  authority : Option String
  path : String
  query : Option String
  fragment : Option String
  deriving DecidableEq

/-- What stands before the first `c`, and what after it when there is one. -/
def breakAt (c : Char) (s : String) : String × Option String :=
  match splitOnce c s with
  | some (front, back) => (front, some back)
  | none => (s, none)

/-- The scheme before the first `:`, which is not behind a slash. -/
def breakScheme (s : String) : Option String × String :=
  match splitOnce ':' s with
  | some (front, back) => if isEmpty front || contains '/' front then (none, s) else (some front, back)
  | none => (none, s)

/-- The authority between `//` and the next slash. -/
def breakAuthority (s : String) : Option String × String :=
  match stripPrefix "//" s with
  | some rest => (some (String.ofList (rest.toList.takeWhile (· != '/'))),
      String.ofList (rest.toList.dropWhile (· != '/')))
  | none => (none, s)

def parts (s : String) : Parts :=
  -- The fragment is cut off first: a `?` after the `#` begins no query.
  let tail := breakAt '#' s
  let front := breakAt '?' tail.1
  let start := breakScheme front.1
  let hier := breakAuthority start.2
  { scheme := start.1, authority := hier.1, path := hier.2, query := front.2, fragment := tail.2 }

theorem breakAt_append (c : Char) (front sep back : String) (hfront : c ∉ front.toList)
    (hsep : sep.toList = [c]) : breakAt c (front ++ sep ++ back) = (front, some back) := by
  unfold breakAt
  rw [splitOnce_append c front sep back hfront hsep]

theorem breakAt_of_not_mem (c : Char) (s : String) (h : c ∉ s.toList) : breakAt c s = (s, none) := by
  unfold breakAt
  rw [splitOnce_of_not_mem c s h]

theorem exists_cut (c : Char) (s : String) (h : c ∈ s.toList) :
    ∃ front sep back : String, c ∉ front.toList ∧ sep.toList = [c] ∧ s = front ++ sep ++ back := by
  obtain ⟨before, after, hsplit, hbefore⟩ := List.eq_append_cons_of_mem h
  refine ⟨String.ofList before, String.ofList [c], String.ofList after, ?_, String.toList_ofList, ?_⟩
  · rwa [String.toList_ofList]
  · apply String.toList_injective
    simp [hsplit]

/-- A prefix without `c` stays in front of the cut. -/
theorem breakAt_initial (c : Char) (front s : String) (hfront : c ∉ front.toList) :
    breakAt c (front ++ s) = (front ++ (breakAt c s).1, (breakAt c s).2) := by
  by_cases hs : c ∈ s.toList
  · obtain ⟨before, sep, after, hbefore, hsep, rfl⟩ := exists_cut c s hs
    have hcut : c ∉ (front ++ before).toList := by simp [hfront, hbefore]
    have hwhole := breakAt_append c _ sep after hcut hsep
    rw [breakAt_append c before sep after hbefore hsep, ← String.append_assoc,
      ← String.append_assoc, hwhole]
  · have hwhole : c ∉ (front ++ s).toList := by simp [hfront, hs]
    rw [breakAt_of_not_mem c s hs, breakAt_of_not_mem c _ hwhole]

/-- Whatever follows the first `?` leaves the components before it as they are. -/
theorem parts_query (base value : String) (hbase : ∀ c ∈ base.toList, c ≠ '?' ∧ c ≠ '#') :
    parts (base ++ "?" ++ value) =
      { parts base with
        query := some (breakAt '#' value).1, fragment := (breakAt '#' value).2 } := by
  have hquestion : '?' ∉ base.toList := fun h => (hbase _ h).1 rfl
  have hhash : '#' ∉ base.toList := fun h => (hbase _ h).2 rfl
  have hfront : '#' ∉ (base ++ "?").toList := by simp [hhash]
  unfold parts
  dsimp only
  rw [breakAt_initial '#' _ value hfront, breakAt_of_not_mem '#' base hhash]
  dsimp only
  rw [breakAt_append '?' base "?" _ hquestion rfl, breakAt_of_not_mem '?' base hquestion]

section Hierarchy

variable (authority path : String)

/-- The scheme brings in neither `?` nor `#`. -/
theorem https_plain (hplain : ∀ c ∈ (authority ++ path).toList, c ≠ '?' ∧ c ≠ '#') :
    ∀ c ∈ ("https://" ++ authority ++ path).toList, c ≠ '?' ∧ c ≠ '#' := by
  intro c hc
  rw [String.append_assoc, String.toList_append, List.mem_append] at hc
  rcases hc with hc | hc
  · revert c
    exact forall_mem_toList _ (by decide)
  · exact hplain c hc

theorem breakScheme_https : breakScheme ("https://" ++ authority ++ path) =
    (some "https", "//" ++ (authority ++ path)) := by
  have hcolon : "https://" ++ authority ++ path = "https" ++ ":" ++ ("//" ++ (authority ++ path)) := by
    apply String.toList_injective
    simp
  unfold breakScheme
  rw [hcolon, splitOnce_append ':' "https" ":" _ (by decide) rfl]
  rfl

/-- The authority ends where the path begins. -/
theorem breakAuthority_append (hauthority : '/' ∉ authority.toList)
    (hpath : path.toList.head? = some '/') :
    breakAuthority ("//" ++ (authority ++ path)) = (some authority, path) := by
  obtain ⟨rest, hrest⟩ : ∃ rest, path.toList = '/' :: rest := by
    cases hcs : path.toList with
    | nil => simp [hcs] at hpath
    | cons c cs =>
      rw [hcs, List.head?_cons, Option.some_inj] at hpath
      exact ⟨cs, by rw [hpath]⟩
  have hall : ∀ c ∈ authority.toList, (c != '/') = true := by
    intro c hc
    exact bne_iff_ne.mpr fun h => hauthority (h ▸ hc)
  have htake : path.toList.takeWhile (· != '/') = [] := by simp [hrest]
  have hdrop : path.toList.dropWhile (· != '/') = path.toList := by simp [hrest]
  unfold breakAuthority
  rw [stripPrefix_append]
  dsimp only
  rw [String.toList_append, List.takeWhile_append_of_pos hall, List.dropWhile_append_of_pos hall,
    htake, hdrop, List.append_nil, String.ofList_toList, String.ofList_toList]

theorem parts_of_hierarchy (hauthority : '/' ∉ authority.toList)
    (hpath : path.toList.head? = some '/')
    (hplain : ∀ c ∈ (authority ++ path).toList, c ≠ '?' ∧ c ≠ '#') :
    parts ("https://" ++ authority ++ path) =
      { scheme := some "https", authority := some authority, path := path, query := none,
        fragment := none } := by
  have hchars := https_plain authority path hplain
  have hhash : '#' ∉ ("https://" ++ authority ++ path).toList := fun h => (hchars _ h).2 rfl
  have hquestion : '?' ∉ ("https://" ++ authority ++ path).toList := fun h => (hchars _ h).1 rfl
  unfold parts
  dsimp only
  rw [breakAt_of_not_mem '#' _ hhash]
  dsimp only
  rw [breakAt_of_not_mem '?' _ hquestion]
  dsimp only
  rw [breakScheme_https]
  dsimp only
  rw [breakAuthority_append authority path hauthority hpath]

end Hierarchy

end Components

end Url
