import Mathlib.Algebra.Order.Group.Multiset
import Mathlib.Tactic.Abel
import Overfwd.Credential

namespace Overfwd

/-- `ring::digest::digest` with `SHA256`. -/
abbrev Sha256 := ByteArray → Vector UInt8 32

structure PoolKey where
  host : String
  port : UInt16
  username : String
  secretDigest : Vector UInt8 32
  deriving DecidableEq

/-- `PoolKey::from_cred`. -/
def PoolKey.fromCred (sha256 : Sha256) (cred : MailboxCredential) : PoolKey :=
  { host := cred.imap.host
    port := cred.imap.port
    username := cred.username
    secretDigest := sha256 cred.password.toUTF8 }

structure Entry (T : Type) where
  key : PoolKey
  conn : T
  storedAt : ℕ

/-- The front is the least recently used end. -/
structure Reservoir (T : Type) where
  entries : List (Entry T)

namespace Reservoir

variable {T : Type}

def new : Reservoir T := { entries := [] }

def len (r : Reservoir T) : ℕ := r.entries.length

/-- Age of at least `ttl`; the age saturates at zero. -/
def isExpired (now ttl : ℕ) (e : Entry T) : Bool := ttl ≤ now - e.storedAt

/-- The loop of `drain_expired`: what it removes and what it leaves. -/
def drain (now ttl : ℕ) : List (Entry T) → List T × List (Entry T)
  | [] => ([], [])
  | e :: es =>
    let (dead, live) := drain now ttl es
    if isExpired now ttl e then (e.conn :: dead, live) else (dead, e :: live)

/-- `rposition` and `remove`: the last entry of the key. -/
def removeLast (key : PoolKey) : List (Entry T) → Option (T × List (Entry T))
  | [] => none
  | e :: es =>
    -- A later entry of the key comes before this one.
    match removeLast key es with
    | some (conn, rest) => some (conn, e :: rest)
    | none => if e.key = key then some (e.conn, es) else none

/-- The eviction loop of `put`. -/
def evict (maxIdle : ℕ) : List (Entry T) → List T × List (Entry T)
  | [] => ([], [])
  | e :: es =>
    if maxIdle < (e :: es).length then
      let (dead, rest) := evict maxIdle es
      (e.conn :: dead, rest)
    else ([], e :: es)

/-- `Reservoir::take`: the hit, the expired connections and the reservoir after it. -/
def take (r : Reservoir T) (key : PoolKey) (now ttl : ℕ) : (Option T × List T) × Reservoir T :=
  let (expired, live) := drain now ttl r.entries
  match removeLast key live with
  | some (conn, rest) => ((some conn, expired), { entries := rest })
  | none => ((none, expired), { entries := live })

/-- `Reservoir::put`: the connections to close and the reservoir after it. -/
def put (r : Reservoir T) (key : PoolKey) (conn : T) (now ttl maxIdle : ℕ) :
    List T × Reservoir T :=
  let (expired, live) := drain now ttl r.entries
  let (evicted, rest) := evict maxIdle (live ++ [{ key := key, conn := conn, storedAt := now }])
  (expired ++ evicted, { entries := rest })

/-- The connections held, as often as they are held. -/
def idle (r : Reservoir T) : Multiset T := (r.entries.map Entry.conn : Multiset T)

section Loops

variable (now ttl maxIdle : ℕ) (key : PoolKey)

/-- The sweep takes the expired entries out and keeps the others in order. -/
theorem drain_eq (es : List (Entry T)) :
    drain now ttl es = ((es.filter (isExpired now ttl)).map Entry.conn,
      es.filter fun e => !isExpired now ttl e) := by
  induction es with
  | nil => rfl
  | cons e es ih =>
    unfold drain
    rw [ih]
    by_cases hexpired : isExpired now ttl e = true
    · simp [hexpired]
    · simp [hexpired]

/-- The eviction takes as many from the front as are over the cap. -/
theorem evict_eq (es : List (Entry T)) :
    evict maxIdle es = ((es.take (es.length - maxIdle)).map Entry.conn,
      es.drop (es.length - maxIdle)) := by
  induction es with
  | nil => simp [evict]
  | cons e es ih =>
    unfold evict
    rw [ih]
    by_cases hover : maxIdle < (e :: es).length
    · have hlength : (e :: es).length - maxIdle = es.length - maxIdle + 1 := by
        rw [List.length_cons] at hover ⊢
        omega
      rw [if_pos hover, hlength]
      rfl
    · have hlength : (e :: es).length - maxIdle = 0 := by omega
      rw [if_neg hover, hlength]
      rfl

theorem removeLast_eq_none (es : List (Entry T)) (h : removeLast key es = none) :
    ∀ e ∈ es, e.key ≠ key := by
  induction es with
  | nil => simp
  | cons e es ih =>
    unfold removeLast at h
    cases htail : removeLast key es with
    | some found => simp [htail] at h
    | none =>
      have hkey : e.key ≠ key := by simpa [htail] using h
      intro e' he'
      rcases List.mem_cons.mp he' with rfl | he'
      · exact hkey
      · exact ih htail e' he'

/-- What is found is the last entry of the key; the others stay in order. -/
theorem removeLast_eq_some (es rest : List (Entry T)) (conn : T)
    (h : removeLast key es = some (conn, rest)) :
    ∃ before after e, es = before ++ e :: after ∧ rest = before ++ after ∧
      e.key = key ∧ e.conn = conn ∧ ∀ e' ∈ after, e'.key ≠ key := by
  induction es generalizing conn rest with
  | nil => cases h
  | cons e es ih =>
    unfold removeLast at h
    cases htail : removeLast key es with
    | some found =>
      obtain ⟨conn', rest'⟩ := found
      rw [htail] at h
      cases h
      obtain ⟨before, after, e', rfl, rfl, hkey, hconn, hafter⟩ := ih _ _ htail
      exact ⟨e :: before, after, e', rfl, rfl, hkey, hconn, hafter⟩
    | none =>
      -- Nothing further back has the key, so this entry is the last one or there is none.
      have hafter := removeLast_eq_none key es htail
      by_cases hkey : e.key = key
      · simp only [htail, hkey, if_true] at h
        cases h
        exact ⟨[], es, e, rfl, rfl, hkey, rfl, hafter⟩
      · simp [htail, hkey] at h

end Loops

section Operations

variable (r : Reservoir T) (key : PoolKey) (now ttl maxIdle : ℕ)

/-- The entries a sweep leaves. -/
def live : List (Entry T) := r.entries.filter fun e => !isExpired now ttl e

def expired : List T := (r.entries.filter (isExpired now ttl)).map Entry.conn

theorem expired_add_live :
    (r.expired now ttl : Multiset T) + ((r.live now ttl).map Entry.conn : Multiset T) = r.idle := by
  unfold expired live idle
  rw [Multiset.coe_add, ← List.map_append, Multiset.coe_eq_coe]
  exact (List.filter_append_perm _ _).map _

/-- Everything `take` can do: a hit on the last live entry of the key, or a miss. -/
theorem take_cases :
    (∃ before after e, r.live now ttl = before ++ e :: after ∧ e.key = key ∧
        (∀ e' ∈ after, e'.key ≠ key) ∧
        r.take key now ttl = ((some e.conn, r.expired now ttl), ⟨before ++ after⟩)) ∨
      ((∀ e ∈ r.live now ttl, e.key ≠ key) ∧
        r.take key now ttl = ((none, r.expired now ttl), ⟨r.live now ttl⟩)) := by
  have htake : r.take key now ttl = match removeLast key (r.live now ttl) with
      | some (conn, rest) => ((some conn, r.expired now ttl), ⟨rest⟩)
      | none => ((none, r.expired now ttl), ⟨r.live now ttl⟩) := by
    unfold take
    rw [drain_eq]
    rfl
  rw [htake]
  cases hfound : removeLast key (r.live now ttl) with
  | none =>
    exact .inr ⟨removeLast_eq_none key _ hfound, rfl⟩
  | some found =>
    obtain ⟨conn, rest⟩ := found
    obtain ⟨before, after, e, hlive, rfl, hkey, rfl, hafter⟩ := removeLast_eq_some key _ _ _ hfound
    exact .inl ⟨before, after, e, hlive, hkey, hafter, rfl⟩

/-- The live entries with the new one behind them. -/
def stored (conn : T) : List (Entry T) :=
  r.live now ttl ++ [{ key := key, conn := conn, storedAt := now }]

theorem put_eq (conn : T) :
    r.put key conn now ttl maxIdle =
      (r.expired now ttl ++ ((r.stored key now ttl conn).take
          ((r.stored key now ttl conn).length - maxIdle)).map Entry.conn,
        ⟨(r.stored key now ttl conn).drop ((r.stored key now ttl conn).length - maxIdle)⟩) := by
  unfold put
  rw [drain_eq]
  dsimp only
  rw [evict_eq]
  rfl

/-- A connection taken out of the reservoir is the hit or an expired one. -/
theorem take_conserves :
    ((r.take key now ttl).1.1.toList : Multiset T) + ((r.take key now ttl).1.2 : Multiset T) +
      (r.take key now ttl).2.idle = r.idle := by
  have hsweep := r.expired_add_live now ttl
  rcases r.take_cases key now ttl with ⟨before, after, e, hlive, -, -, htake⟩ | ⟨-, htake⟩
  · rw [htake, ← hsweep, hlive]
    dsimp only [idle, Option.toList]
    simp only [List.map_append, List.map_cons, ← Multiset.coe_add, ← Multiset.cons_coe,
      ← Multiset.singleton_add, Multiset.coe_nil]
    abel
  · rw [htake, ← hsweep]
    simp [idle]

theorem put_conserves (conn : T) :
    ((r.put key conn now ttl maxIdle).1 : Multiset T) + (r.put key conn now ttl maxIdle).2.idle =
      conn ::ₘ r.idle := by
  have hsweep := r.expired_add_live now ttl
  have hstored : ((r.stored key now ttl conn).map Entry.conn : Multiset T) =
      conn ::ₘ ((r.live now ttl).map Entry.conn : Multiset T) := by
    unfold stored
    simp
  rw [put_eq, ← hsweep, ← Multiset.add_cons]
  dsimp only [idle]
  rw [← Multiset.coe_add, add_assoc, Multiset.coe_add, ← List.map_append, List.take_append_drop,
    hstored]

theorem take_length : (r.take key now ttl).2.len ≤ r.len := by
  have hlength : (r.live now ttl).length ≤ r.entries.length := List.length_filter_le _ _
  rcases r.take_cases key now ttl with ⟨before, after, e, hlive, -, -, htake⟩ | ⟨-, htake⟩
  · rw [htake]
    rw [hlive] at hlength
    simp only [List.length_append, List.length_cons] at hlength
    simp only [len, List.length_append]
    omega
  · rw [htake]
    exact hlength

theorem put_length (conn : T) : (r.put key conn now ttl maxIdle).2.len ≤ maxIdle := by
  rw [put_eq]
  simp only [len, List.length_drop]
  omega

theorem mem_take (e : Entry T) (he : e ∈ (r.take key now ttl).2.entries) : e ∈ r.entries := by
  have hlive (e : Entry T) (he : e ∈ r.live now ttl) : e ∈ r.entries := (List.mem_filter.mp he).1
  rcases r.take_cases key now ttl with ⟨before, after, e', heq, -, -, htake⟩ | ⟨-, htake⟩
  · rw [htake] at he
    apply hlive
    rw [heq]
    simp only [List.mem_append, List.mem_cons] at he ⊢
    tauto
  · rw [htake] at he
    exact hlive e he

/-- A hit was an entry of the key. -/
theorem take_hit (conn : T) (h : (r.take key now ttl).1.1 = some conn) :
    ∃ e ∈ r.entries, e.key = key ∧ e.conn = conn := by
  rcases r.take_cases key now ttl with ⟨before, after, e, heq, hkey, -, htake⟩ | ⟨-, htake⟩
  · rw [htake] at h
    cases h
    have he : e ∈ r.live now ttl := by simp [heq]
    exact ⟨e, (List.mem_filter.mp he).1, hkey, rfl⟩
  · rw [htake] at h
    cases h

theorem mem_put (conn : T) (e : Entry T)
    (he : e ∈ (r.put key conn now ttl maxIdle).2.entries) :
    e ∈ r.entries ∨ e = ⟨key, conn, now⟩ := by
  rw [put_eq] at he
  rcases List.mem_append.mp (List.mem_of_mem_drop he) with he | he
  · exact .inl (List.mem_filter.mp he).1
  · exact .inr (List.mem_singleton.mp he)

end Operations

end Reservoir

end Overfwd
