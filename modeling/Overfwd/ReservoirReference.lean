import Overfwd.Lib.VecDeque
import Overfwd.Reservoir

/-! The reservoir's loops as they are written, and the ledger of everything that was put
into it, which says what the reservoir holds at any time. -/
namespace Overfwd

namespace Reservoir

variable {T : Type}

/-- `drain_expired`. -/
def drainExpired (r : Reservoir T) (now ttl : ℕ) : List T × Reservoir T :=
  let (dead, entries) := VecDeque.removeWhere (isExpired now ttl) 0 r.entries []
  (dead.map Entry.conn, { entries := entries })

/-- `take` with its search by index. -/
def takeInPlace (r : Reservoir T) (key : PoolKey) (now ttl : ℕ) :
    (Option T × List T) × Reservoir T :=
  let (expired, r) := r.drainExpired now ttl
  let idx := VecDeque.rposition (fun e => decide (e.key = key)) r.entries
  match idx.bind (VecDeque.remove r.entries) with
  | some (e, rest) => ((some e.conn, expired), { entries := rest })
  | none => ((none, expired), r)

/-- `put` with its loop at the front. -/
def putInPlace (r : Reservoir T) (key : PoolKey) (conn : T) (now ttl maxIdle : ℕ) :
    List T × Reservoir T :=
  let (dead, r) := r.drainExpired now ttl
  let (evicted, rest) := VecDeque.popExcess maxIdle []
    (r.entries ++ [{ key := key, conn := conn, storedAt := now }])
  (dead ++ evicted.map Entry.conn, { entries := rest })

section Loops

variable (r : Reservoir T) (key : PoolKey) (now ttl maxIdle : ℕ)

theorem drainExpired_eq : r.drainExpired now ttl = (r.expired now ttl, ⟨r.live now ttl⟩) := by
  unfold drainExpired
  rw [VecDeque.removeWhere_eq]
  rfl

/-- The search from the back finds the last live entry of the key. -/
theorem takeInPlace_eq : r.takeInPlace key now ttl = r.take key now ttl := by
  unfold takeInPlace
  rw [drainExpired_eq]
  dsimp only
  rcases r.take_cases key now ttl with ⟨before, after, e, hlive, hkey, hafter, htake⟩ |
    ⟨hnone, htake⟩
  · have hfound : VecDeque.rposition (fun e => decide (e.key = key)) (r.live now ttl) =
        some before.length := by
      rw [hlive]
      exact VecDeque.rposition_append _ before after e (decide_eq_true hkey)
        fun y hy => decide_eq_false (hafter y hy)
    have hremove : VecDeque.remove (r.live now ttl) before.length = some (e, before ++ after) := by
      rw [hlive]
      exact VecDeque.remove_append before after e
    rw [hfound, htake, Option.bind_some, hremove]
  · have hmissing : VecDeque.rposition (fun e => decide (e.key = key)) (r.live now ttl) = none :=
      VecDeque.rposition_eq_none _ _ fun e he => decide_eq_false (hnone e he)
    rw [hmissing, htake]
    rfl

theorem putInPlace_eq (conn : T) :
    r.putInPlace key conn now ttl maxIdle = r.put key conn now ttl maxIdle := by
  unfold putInPlace
  rw [drainExpired_eq, put_eq]
  dsimp only
  rw [VecDeque.popExcess_eq]
  rfl

end Loops

end Reservoir

/-- One connection that was put, and whether it is still held. -/
structure Slot (T : Type) where
  entry : Entry T
  held : Bool

def Slot.gone {T : Type} (s : Slot T) : Slot T := { entry := s.entry, held := false }

/-- Every connection ever put, in put order. -/
abbrev Ledger (T : Type) := List (Slot T)

namespace Ledger

variable {T : Type}

/-- What was put and not yet removed. -/
def held (l : Ledger T) : List (Entry T) := (l.filter Slot.held).map Slot.entry

/-- The expired connections are removed, wherever they stand. -/
def sweep (now ttl : ℕ) (l : Ledger T) : Ledger T :=
  l.map fun s => if Reservoir.isExpired now ttl s.entry then Slot.gone s else s

def expired (now ttl : ℕ) (l : Ledger T) : List T :=
  (l.held.filter (Reservoir.isExpired now ttl)).map Entry.conn

def holds (key : PoolKey) (s : Slot T) : Bool := s.held && decide (s.entry.key = key)

/-- The position of the connection of the key that was put last, among those still held. -/
def latest (key : PoolKey) (l : Ledger T) : Option ℕ :=
  ((List.range l.length).filter fun i => l[i]?.any (holds key)).getLast?

/-- The oldest connections held are removed, as many as are over the cap. -/
def evict (maxIdle : ℕ) : Ledger T → List T × Ledger T
  | [] => ([], [])
  | s :: l =>
    let (dead, rest) := evict maxIdle l
    if s.held && decide (maxIdle < (held (s :: l)).length) then
      (s.entry.conn :: dead, Slot.gone s :: rest)
    else (dead, s :: rest)

def take (l : Ledger T) (key : PoolKey) (now ttl : ℕ) : (Option T × List T) × Ledger T :=
  let swept := l.sweep now ttl
  match swept.latest key with
  | some i =>
    ((swept[i]?.map fun s => s.entry.conn, l.expired now ttl), swept.modify i Slot.gone)
  | none => ((none, l.expired now ttl), swept)

def put (l : Ledger T) (key : PoolKey) (conn : T) (now ttl maxIdle : ℕ) : List T × Ledger T :=
  let entry : Entry T := { key := key, conn := conn, storedAt := now }
  let (evicted, rest) := evict maxIdle (l.sweep now ttl ++ [{ entry := entry, held := true }])
  (l.expired now ttl ++ evicted, rest)

section Held

theorem held_nil : held ([] : Ledger T) = [] := rfl

theorem held_cons (s : Slot T) (l : Ledger T) :
    held (s :: l) = if s.held then s.entry :: held l else held l := by
  unfold held
  by_cases hheld : s.held = true
  · rw [List.filter_cons_of_pos hheld, if_pos hheld]
    rfl
  · rw [List.filter_cons_of_neg hheld, if_neg hheld]

theorem held_cons_of_held (s : Slot T) (l : Ledger T) (h : s.held = true) :
    held (s :: l) = s.entry :: held l := by rw [held_cons, if_pos h]

theorem held_cons_of_gone (s : Slot T) (l : Ledger T) (h : ¬s.held = true) :
    held (s :: l) = held l := by rw [held_cons, if_neg h]

theorem held_append (l l' : Ledger T) : held (l ++ l') = held l ++ held l' := by
  unfold held
  rw [List.filter_append, List.map_append]

theorem held_gone_cons (s : Slot T) (l : Ledger T) : held (Slot.gone s :: l) = held l :=
  held_cons (Slot.gone s) l

/-- The sweep keeps what is not expired, in order. -/
theorem held_sweep (now ttl : ℕ) (l : Ledger T) :
    held (l.sweep now ttl) = l.held.filter fun e => !Reservoir.isExpired now ttl e := by
  induction l with
  | nil => rfl
  | cons s l ih =>
    have hsweep : sweep now ttl (s :: l) =
        (if Reservoir.isExpired now ttl s.entry then Slot.gone s else s) :: sweep now ttl l := rfl
    rw [hsweep]
    by_cases hexpired : Reservoir.isExpired now ttl s.entry = true
    · rw [if_pos hexpired, held_gone_cons, ih]
      by_cases hheld : s.held = true
      · rw [held_cons_of_held s l hheld, List.filter_cons_of_neg (by simp [hexpired])]
      · rw [held_cons_of_gone s l hheld]
    · rw [if_neg hexpired]
      by_cases hheld : s.held = true
      · rw [held_cons_of_held s _ hheld, held_cons_of_held s l hheld, ih,
          List.filter_cons_of_pos (by simp [hexpired])]
      · rw [held_cons_of_gone s _ hheld, held_cons_of_gone s l hheld, ih]

/-- A part of what is held is a part of the ledger. -/
theorem held_split (l : Ledger T) (before after : List (Entry T)) (e : Entry T)
    (h : l.held = before ++ e :: after) :
    ∃ l₁ l₂, l = l₁ ++ { entry := e, held := true } :: l₂ ∧ held l₁ = before ∧ held l₂ = after := by
  induction l generalizing before with
  | nil =>
    rw [held_nil] at h
    cases before <;> cases h
  | cons s l ih =>
    by_cases hheld : s.held = true
    · rw [held_cons_of_held s l hheld] at h
      cases before with
      | nil =>
        obtain ⟨rfl, rfl⟩ := List.cons.inj h
        refine ⟨[], l, ?_, rfl, rfl⟩
        rw [List.nil_append, ← hheld]
      | cons b before =>
        obtain ⟨rfl, htail⟩ := List.cons.inj h
        obtain ⟨l₁, l₂, rfl, rfl, rfl⟩ := ih before htail
        exact ⟨s :: l₁, l₂, rfl, held_cons_of_held s l₁ hheld, rfl⟩
    · rw [held_cons_of_gone s l hheld] at h
      obtain ⟨l₁, l₂, rfl, rfl, rfl⟩ := ih before h
      exact ⟨s :: l₁, l₂, rfl, held_cons_of_gone s l₁ hheld, rfl⟩

/-- The eviction drops as many of the oldest as are over the cap. -/
theorem evict_held (maxIdle : ℕ) (l : Ledger T) :
    (evict maxIdle l).1 = (l.held.take (l.held.length - maxIdle)).map Entry.conn ∧
      held (evict maxIdle l).2 = l.held.drop (l.held.length - maxIdle) := by
  induction l with
  | nil => simp [evict, held_nil]
  | cons s l ih =>
    unfold evict
    dsimp only
    -- A slot that is gone counts neither among those held nor among those to evict.
    by_cases hheld : s.held = true
    · have hcons := held_cons_of_held s l hheld
      by_cases hover : maxIdle < (held (s :: l)).length
      · have hlength : (s.entry :: held l).length - maxIdle = (held l).length - maxIdle + 1 := by
          rw [hcons, List.length_cons] at hover
          rw [List.length_cons]
          omega
        rw [if_pos (by simp [hheld, hover]), held_gone_cons, hcons, hlength, ih.1, ih.2]
        exact ⟨rfl, rfl⟩
      · have hzero : (held l).length - maxIdle = 0 := by
          rw [hcons, List.length_cons] at hover
          omega
        have hzero' : (s.entry :: held l).length - maxIdle = 0 := by
          rw [hcons] at hover
          omega
        have hkept : held (s :: (evict maxIdle l).2) = s.entry :: held l := by
          rw [held_cons_of_held s _ hheld, ih.2, hzero, List.drop_zero]
        have hnone : (evict maxIdle l).1 = [] := by
          rw [ih.1, hzero]
          rfl
        rw [if_neg (by simp [hover]), hcons, hzero']
        exact ⟨hnone, hkept⟩
    · rw [if_neg (by simp [hheld]), held_cons_of_gone s l hheld]
      exact ⟨ih.1, (held_cons_of_gone s _ hheld).trans ih.2⟩

/-- Nothing else than which connections are held ever changes. -/
theorem entries_sweep (now ttl : ℕ) (l : Ledger T) :
    (l.sweep now ttl).map Slot.entry = l.map Slot.entry := by
  unfold sweep
  rw [List.map_map]
  apply List.map_congr_left
  intro s _
  by_cases hexpired : Reservoir.isExpired now ttl s.entry = true
  · simp only [Function.comp_apply, if_pos hexpired]
    rfl
  · simp only [Function.comp_apply, if_neg hexpired]

theorem entries_evict (maxIdle : ℕ) (l : Ledger T) :
    (evict maxIdle l).2.map Slot.entry = l.map Slot.entry := by
  induction l with
  | nil => rfl
  | cons s l ih =>
    unfold evict
    dsimp only
    split_ifs
    · rw [List.map_cons, List.map_cons, ih]
      rfl
    · rw [List.map_cons, List.map_cons, ih]

theorem entries_modify (i : ℕ) (l : Ledger T) :
    (l.modify i Slot.gone).map Slot.entry = l.map Slot.entry := by
  induction l generalizing i with
  | nil => simp
  | cons s l ih =>
    cases i with
    | zero => rfl
    | succ i =>
      rw [List.modify_succ_cons, List.map_cons, List.map_cons, ih]

end Held

section Search

/-- The last position below `n` that satisfies `p`. -/
theorem getLast_filter_range (p : ℕ → Bool) (n k : ℕ) (hk : k < n) (hp : p k = true)
    (hafter : ∀ j, k < j → j < n → p j = false) :
    ((List.range n).filter p).getLast? = some k := by
  induction n with
  | zero => omega
  | succ n ih =>
    rw [List.range_succ, List.filter_append]
    by_cases hlast : k = n
    · subst hlast
      have hone : [k].filter p = [k] := by simp [hp]
      rw [hone, List.getLast?_append, List.getLast?_singleton]
      rfl
    · have hn : p n = false := hafter n (by omega) (by omega)
      have hnone : [n].filter p = [] := by simp [hn]
      rw [hnone, List.append_nil]
      exact ih (by omega) fun j hkj hjn => hafter j hkj (by omega)

theorem not_holds_of_held (key : PoolKey) (l : Ledger T) (h : ∀ e ∈ l.held, e.key ≠ key) :
    ∀ s ∈ l, holds key s = false := by
  intro s hs
  by_cases hheld : s.held = true
  · have hmem : s.entry ∈ l.held := List.mem_map_of_mem (List.mem_filter.mpr ⟨hs, hheld⟩)
    simp [holds, h _ hmem]
  · simp [holds, hheld]

theorem latest_eq_none (key : PoolKey) (l : Ledger T) (h : ∀ e ∈ l.held, e.key ≠ key) :
    l.latest key = none := by
  have hnone : (List.range l.length).filter (fun i => l[i]?.any (holds key)) = [] := by
    apply List.filter_eq_nil_iff.mpr
    intro i _
    cases hs : l[i]? with
    | none => simp
    | some s => simp [not_holds_of_held key l h s (List.mem_of_getElem? hs)]
  unfold latest
  rw [hnone]
  rfl

theorem latest_append (key : PoolKey) (l₁ l₂ : Ledger T) (e : Entry T) (hkey : e.key = key)
    (hafter : ∀ e' ∈ l₂.held, e'.key ≠ key) :
    Ledger.latest key (l₁ ++ { entry := e, held := true } :: l₂) = some l₁.length := by
  have hnot := not_holds_of_held key l₂ hafter
  unfold latest
  apply getLast_filter_range
  · simp
  · have hget : (l₁ ++ { entry := e, held := true } :: l₂)[l₁.length]? =
        some { entry := e, held := true } := by simp
    rw [hget]
    simp [holds, hkey]
  · intro j hj _
    have hget : (l₁ ++ { entry := e, held := true } :: l₂)[j]? = l₂[j - l₁.length - 1]? := by
      rw [List.getElem?_append_right (by omega)]
      obtain ⟨d, hd⟩ : ∃ d, j - l₁.length = d + 1 := ⟨j - l₁.length - 1, by omega⟩
      rw [hd, List.getElem?_cons_succ]
      rfl
    rw [hget]
    cases hs : l₂[j - l₁.length - 1]? with
    | none => rfl
    | some s => exact hnot s (List.mem_of_getElem? hs)

theorem modify_append (l₁ l₂ : Ledger T) (s : Slot T) :
    (l₁ ++ s :: l₂).modify l₁.length Slot.gone = l₁ ++ s.gone :: l₂ := by
  induction l₁ with
  | nil => rfl
  | cons t l₁ ih =>
    rw [List.cons_append, List.length_cons, List.modify_succ_cons, ih, List.cons_append]

end Search

section Operations

variable (r : Reservoir T) (l : Ledger T) (h : r.entries = l.held) (key : PoolKey)
  (now ttl maxIdle : ℕ)

include h

theorem live_eq : r.live now ttl = (l.sweep now ttl).held := by
  rw [held_sweep, ← h]
  rfl

theorem expired_eq : r.expired now ttl = l.expired now ttl := by
  unfold expired
  rw [← h]
  rfl

/-- `take` is the ledger's. -/
theorem take_agrees :
    (r.takeInPlace key now ttl).1 = (l.take key now ttl).1 ∧
      (r.takeInPlace key now ttl).2.entries = (l.take key now ttl).2.held := by
  rw [Reservoir.takeInPlace_eq]
  unfold take
  dsimp only
  rw [← expired_eq r l h]
  rcases r.take_cases key now ttl with ⟨before, after, e, hlive, hkey, hafter, htake⟩ |
    ⟨hnone, htake⟩
  · -- The hit is one slot of the ledger, with the same slots before and behind it.
    rw [live_eq r l h] at hlive
    obtain ⟨l₁, l₂, hsplit, rfl, rfl⟩ := held_split _ before after e hlive
    have hget : (l₁ ++ { entry := e, held := true } :: l₂)[l₁.length]? =
        some { entry := e, held := true } := by simp
    rw [htake, hsplit, latest_append key l₁ l₂ e hkey hafter]
    dsimp only
    rw [hget, modify_append, held_append, held_gone_cons]
    exact ⟨rfl, rfl⟩
  · rw [live_eq r l h] at hnone htake
    rw [htake, latest_eq_none key _ hnone]
    exact ⟨rfl, rfl⟩

theorem put_agrees (conn : T) :
    (r.putInPlace key conn now ttl maxIdle).1 = (l.put key conn now ttl maxIdle).1 ∧
      (r.putInPlace key conn now ttl maxIdle).2.entries =
        (l.put key conn now ttl maxIdle).2.held := by
  have hstored : r.stored key now ttl conn =
      held (l.sweep now ttl ++ [{ entry := ⟨key, conn, now⟩, held := true }]) := by
    rw [held_append, ← live_eq r l h]
    rfl
  have hevict := evict_held maxIdle
    (l.sweep now ttl ++ [{ entry := ⟨key, conn, now⟩, held := true }])
  rw [← hstored] at hevict
  rw [Reservoir.putInPlace_eq, Reservoir.put_eq]
  unfold put
  dsimp only
  rw [hevict.1, hevict.2, expired_eq r l h]
  exact ⟨rfl, rfl⟩

end Operations

end Ledger

/-- One call of the pool on its reservoir. -/
inductive ReservoirCall (T : Type)
  | take (key : PoolKey) (now ttl : ℕ)
  | put (key : PoolKey) (conn : T) (now ttl maxIdle : ℕ)

/-- The entry that a call puts in. -/
def ReservoirCall.entry? {T : Type} : ReservoirCall T → Option (Entry T)
  | .take _ _ _ => none
  | .put key conn now _ _ => some { key := key, conn := conn, storedAt := now }

/-- The hit of a call, and the connections it hands over to be closed. -/
abbrev ReservoirOutcome (T : Type) := Option T × List T

section Runs

variable {T : Type}

def Reservoir.step (r : Reservoir T) : ReservoirCall T → ReservoirOutcome T × Reservoir T
  | .take key now ttl => r.takeInPlace key now ttl
  | .put key conn now ttl maxIdle =>
    let (dead, r) := r.putInPlace key conn now ttl maxIdle
    ((none, dead), r)

def Ledger.step (l : Ledger T) : ReservoirCall T → ReservoirOutcome T × Ledger T
  | .take key now ttl => l.take key now ttl
  | .put key conn now ttl maxIdle =>
    let (dead, l) := l.put key conn now ttl maxIdle
    ((none, dead), l)

/-- The calls one after the other. -/
def runCalls {S : Type} (step : S → ReservoirCall T → ReservoirOutcome T × S) (s : S) :
    List (ReservoirCall T) → List (ReservoirOutcome T) × S
  | [] => ([], s)
  | c :: calls =>
    let (outcome, s) := step s c
    let (outcomes, s) := runCalls step s calls
    (outcome :: outcomes, s)

/-- One call on the reservoir does what it does on the ledger. -/
theorem step_agrees (r : Reservoir T) (l : Ledger T) (h : r.entries = l.held)
    (c : ReservoirCall T) :
    (r.step c).1 = (l.step c).1 ∧ (r.step c).2.entries = (l.step c).2.held := by
  cases c with
  | take key now ttl => exact Ledger.take_agrees r l h key now ttl
  | put key conn now ttl maxIdle =>
    have hput := Ledger.put_agrees r l h key now ttl maxIdle conn
    exact ⟨congrArg (Prod.mk none) hput.1, hput.2⟩

/-- The ledger forgets nothing. -/
theorem ledger_step_entries (l : Ledger T) (c : ReservoirCall T) :
    (l.step c).2.map Slot.entry = l.map Slot.entry ++ c.entry?.toList := by
  cases c with
  | take key now ttl =>
    have hstep : (l.take key now ttl).2.map Slot.entry = l.map Slot.entry := by
      unfold Ledger.take
      dsimp only
      cases (l.sweep now ttl).latest key with
      | none => exact Ledger.entries_sweep now ttl l
      | some i => exact (Ledger.entries_modify i _).trans (Ledger.entries_sweep now ttl l)
    exact hstep.trans (List.append_nil _).symm
  | put key conn now ttl maxIdle =>
    have hstep := Ledger.entries_evict maxIdle
      (l.sweep now ttl ++ [{ entry := ⟨key, conn, now⟩, held := true }])
    rw [List.map_append, Ledger.entries_sweep] at hstep
    exact hstep

theorem runs_agree (calls : List (ReservoirCall T)) (r : Reservoir T) (l : Ledger T)
    (h : r.entries = l.held) :
    (runCalls Reservoir.step r calls).1 = (runCalls Ledger.step l calls).1 ∧
      (runCalls Reservoir.step r calls).2.entries = (runCalls Ledger.step l calls).2.held := by
  induction calls generalizing r l with
  | nil => exact ⟨rfl, h⟩
  | cons c calls ih =>
    obtain ⟨houtcome, hentries⟩ := step_agrees r l h c
    obtain ⟨houtcomes, hend⟩ := ih (r.step c).2 (l.step c).2 hentries
    exact ⟨congrArg₂ List.cons houtcome houtcomes, hend⟩

theorem ledger_run_entries (calls : List (ReservoirCall T)) (l : Ledger T) :
    (runCalls Ledger.step l calls).2.map Slot.entry =
      l.map Slot.entry ++ calls.filterMap ReservoirCall.entry? := by
  induction calls generalizing l with
  | nil => exact (List.append_nil _).symm
  | cons c calls ih =>
    have hstep := ledger_step_entries l c
    have hrest := ih (l.step c).2
    have hcons : (c :: calls).filterMap ReservoirCall.entry? =
        c.entry?.toList ++ calls.filterMap ReservoirCall.entry? := by
      cases hentry : c.entry? with
      | none => rw [List.filterMap_cons_none hentry]; rfl
      | some e => rw [List.filterMap_cons_some hentry]; rfl
    rw [hstep, List.append_assoc, ← hcons] at hrest
    exact hrest

/-- A connection that is handed out was held, has the key and is not expired. -/
theorem take_hit_live (r : Reservoir T) (key : PoolKey) (now ttl : ℕ) (conn : T)
    (h : (r.takeInPlace key now ttl).1.1 = some conn) :
    ∃ e ∈ r.entries, e.key = key ∧ e.conn = conn ∧ Reservoir.isExpired now ttl e = false := by
  rw [Reservoir.takeInPlace_eq] at h
  rcases r.take_cases key now ttl with ⟨before, after, e, hlive, hkey, -, htake⟩ | ⟨-, htake⟩
  · rw [htake] at h
    cases h
    have he : e ∈ r.live now ttl := by simp [hlive]
    obtain ⟨hmem, hnot⟩ := List.mem_filter.mp he
    exact ⟨e, hmem, hkey, rfl, by simpa using hnot⟩
  · rw [htake] at h
    cases h

/-- What is evicted is older than what stays, and what expired is reported first. -/
theorem put_evicts_oldest (r : Reservoir T) (key : PoolKey) (conn : T) (now ttl maxIdle : ℕ) :
    ∃ evicted, r.stored key now ttl conn =
        evicted ++ (r.putInPlace key conn now ttl maxIdle).2.entries ∧
      (r.putInPlace key conn now ttl maxIdle).1 =
        r.expired now ttl ++ evicted.map Entry.conn ∧
      evicted.length = (r.stored key now ttl conn).length - maxIdle := by
  rw [Reservoir.putInPlace_eq, Reservoir.put_eq]
  refine ⟨_, (List.take_append_drop _ _).symm, rfl, ?_⟩
  rw [List.length_take]
  omega

theorem put_disabled (r : Reservoir T) (key : PoolKey) (conn : T) (now ttl : ℕ) :
    (r.putInPlace key conn now ttl 0).2.entries = [] := by
  rw [Reservoir.putInPlace_eq]
  exact List.eq_nil_of_length_eq_zero (Nat.le_zero.mp (r.put_length key now ttl 0 conn))

end Runs

/-- Over any sequence of calls the reservoir hands out and gives up what the ledger says,
and its entries are the connections put and not yet removed, in put order. -/
theorem reservoir_agrees {T : Type} (calls : List (ReservoirCall T)) :
    let outcomes := (runCalls Reservoir.step Reservoir.new calls).1
    let r := (runCalls Reservoir.step Reservoir.new calls).2
    let l := (runCalls Ledger.step ([] : Ledger T) calls).2
    outcomes = (runCalls Ledger.step ([] : Ledger T) calls).1 ∧ r.entries = l.held ∧
      l.map Slot.entry = calls.filterMap ReservoirCall.entry? ∧
      (∀ key now ttl conn, (r.takeInPlace key now ttl).1.1 = some conn →
        ∃ e ∈ r.entries, e.key = key ∧ e.conn = conn ∧ Reservoir.isExpired now ttl e = false) ∧
      (∀ key conn now ttl maxIdle, ∃ evicted, r.stored key now ttl conn =
          evicted ++ (r.putInPlace key conn now ttl maxIdle).2.entries ∧
        (r.putInPlace key conn now ttl maxIdle).1 =
          r.expired now ttl ++ evicted.map Entry.conn ∧
        evicted.length = (r.stored key now ttl conn).length - maxIdle) ∧
      ∀ key conn now ttl, (r.putInPlace key conn now ttl 0).2.entries = [] := by
  intro outcomes r l
  obtain ⟨houtcomes, hentries⟩ := runs_agree calls Reservoir.new ([] : Ledger T) rfl
  exact ⟨houtcomes, hentries, ledger_run_entries calls [], take_hit_live r, put_evicts_oldest r,
    put_disabled r⟩

end Overfwd
