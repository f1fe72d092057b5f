import Mathlib.Data.List.Basic

/-! A line of tokens, each bare or quoted, over an arbitrary alphabet. Inside
quotes `esc` takes the next symbol literally; `sep` separates tokens outside. -/
namespace Quoting

variable {α : Type} [DecidableEq α] (esc delim sep : α)

inductive Token (α : Type)
  | bare (cs : List α)
  | quoted (cs : List α)
  deriving DecidableEq

def quoteBody (cs : List α) : List α :=
  cs.flatMap fun c => if c = esc ∨ c = delim then [esc, c] else [c]

def quote (cs : List α) : List α := delim :: (quoteBody esc delim cs ++ [delim])

def Token.render : Token α → List α
  | .bare cs => cs
  | .quoted cs => quote esc delim cs

/-- A bare token is nonempty and holds neither the separator nor the quote. -/
def Token.WellFormed : Token α → Prop
  | .bare cs => cs ≠ [] ∧ sep ∉ cs ∧ delim ∉ cs
  | .quoted _ => True

def render (ts : List (Token α)) : List α := [sep].intercalate (ts.map (Token.render esc delim))

/-- Where the scanner stands: the symbols of the token it is reading so far. -/
inductive Mode (α : Type)
  | gap
  | bare (sofar : List α)
  | quoted (sofar : List α)
  | escaped (sofar : List α)
  | closed (sofar : List α)

/-- One pass over the line. A token ends at a separator or at the end of the
line; a closing quote must be followed by one of the two. -/
def scan : Mode α → List α → Option (List (Token α))
  | .gap, [] => none
  | .gap, c :: cs =>
    if c = sep then none else if c = delim then scan (.quoted []) cs else scan (.bare [c]) cs
  | .bare w, [] => some [.bare w]
  | .bare w, c :: cs =>
    if c = sep then (scan .gap cs).map (.bare w :: ·)
    else if c = delim then none else scan (.bare (w ++ [c])) cs
  | .quoted _, [] => none
  | .quoted w, c :: cs =>
    if c = esc then scan (.escaped w) cs
    else if c = delim then scan (.closed w) cs else scan (.quoted (w ++ [c])) cs
  | .escaped _, [] => none
  | .escaped w, c :: cs => scan (.quoted (w ++ [c])) cs
  | .closed w, [] => some [.quoted w]
  | .closed w, c :: cs => if c = sep then (scan .gap cs).map (.quoted w :: ·) else none

theorem scan_bare_append (v w rest : List α) (hs : sep ∉ v) (hd : delim ∉ v) :
    scan esc delim sep (.bare w) (v ++ rest) = scan esc delim sep (.bare (w ++ v)) rest := by
  induction v generalizing w with
  | nil => simp
  | cons c v ih =>
    have hcs : c ≠ sep := fun h => hs (by simp [h])
    have hcd : c ≠ delim := fun h => hd (by simp [h])
    rw [List.cons_append, scan, if_neg hcs, if_neg hcd,
      ih (w ++ [c]) (fun h => hs (by simp [h])) (fun h => hd (by simp [h])), List.append_assoc]
    rfl

/-- The scanner undoes the escaping: whatever the value, the quoted text is read
back symbol by symbol and the closing quote is the one `quote` wrote. -/
theorem scan_quoteBody (v w rest : List α) (hne : esc ≠ delim) :
    scan esc delim sep (.quoted w) (quoteBody esc delim v ++ delim :: rest) =
      scan esc delim sep (.closed (w ++ v)) rest := by
  -- The token read so far grows with the value, so it stays arbitrary.
  induction v generalizing w with
  | nil => simp [quoteBody, scan, hne.symm]
  | cons c v ih =>
    have hsplit : quoteBody esc delim (c :: v) =
        (if c = esc ∨ c = delim then [esc, c] else [c]) ++ quoteBody esc delim v := rfl
    rw [hsplit, List.append_assoc]
    by_cases hc : c = esc ∨ c = delim
    · rw [if_pos hc]
      simp only [List.cons_append, List.nil_append, scan, if_true]
      rw [ih, List.append_assoc]
      rfl
    · have hce : c ≠ esc := fun h => hc (Or.inl h)
      have hcd : c ≠ delim := fun h => hc (Or.inr h)
      rw [if_neg hc]
      simp only [List.cons_append, List.nil_append, scan, if_neg hce, if_neg hcd]
      rw [ih, List.append_assoc]
      rfl

/-- The mode in which the scanner stands right after a token. -/
def Token.after : Token α → Mode α
  | .bare cs => .bare cs
  | .quoted cs => .closed cs

theorem scan_token (t : Token α) (rest : List α) (hne : esc ≠ delim)
    (ht : t.WellFormed delim sep) (hsep : sep ≠ delim) :
    scan esc delim sep .gap (t.render esc delim ++ rest) = scan esc delim sep t.after rest := by
  cases t with
  | bare cs =>
    obtain ⟨hnil, hs, hd⟩ := ht
    cases cs with
    | nil => exact absurd rfl hnil
    | cons c v =>
      have hcs : c ≠ sep := fun h => hs (by simp [h])
      have hcd : c ≠ delim := fun h => hd (by simp [h])
      simp only [Token.render, List.cons_append, scan, if_neg hcs, if_neg hcd]
      rw [scan_bare_append esc delim sep v [c] rest (fun h => hs (by simp [h]))
        (fun h => hd (by simp [h]))]
      rfl
  | quoted cs =>
    simp only [Token.render, quote, List.cons_append, scan, if_neg hsep.symm, if_true]
    rw [List.append_assoc]
    exact scan_quoteBody esc delim sep cs [] rest hne

theorem scan_after_nil (t : Token α) : scan esc delim sep t.after [] = some [t] := by
  cases t <;> rfl

theorem scan_after_sep (t : Token α) (rest : List α) :
    scan esc delim sep t.after (sep :: rest) = (scan esc delim sep .gap rest).map (t :: ·) := by
  cases t <;> simp [Token.after, scan]

/-- Scanning a rendered line gives back its tokens, whatever the quoted ones hold. -/
theorem scan_render (ts : List (Token α)) (hne : esc ≠ delim) (hsep : sep ≠ delim)
    (hts : ts ≠ []) (hwf : ∀ t ∈ ts, t.WellFormed delim sep) :
    scan esc delim sep .gap (render esc delim sep ts) = some ts := by
  induction ts with
  | nil => exact absurd rfl hts
  | cons t ts ih =>
    have ht := hwf t (by simp)
    cases ts with
    | nil =>
      have h := scan_token esc delim sep t [] hne ht hsep
      simpa only [render, List.map_cons, List.map_nil, List.intercalate_singleton,
        List.append_nil, scan_after_nil] using h
    | cons u us =>
      have hrest := ih (by simp) (fun x hx => hwf x (by simp [hx]))
      have hline : render esc delim sep (t :: u :: us) =
          t.render esc delim ++ (sep :: render esc delim sep (u :: us)) := by
        simp [render, List.intercalate_cons_cons]
      rw [hline, scan_token esc delim sep t _ hne ht hsep, scan_after_sep, hrest]
      rfl

theorem render_append (ts us : List (Token α)) (hts : ts ≠ []) (hus : us ≠ []) :
    render esc delim sep (ts ++ us) = render esc delim sep ts ++ sep :: render esc delim sep us := by
  induction ts with
  | nil => exact absurd rfl hts
  | cons t ts ih =>
    cases ts with
    | nil =>
      obtain ⟨u, us, rfl⟩ := List.exists_cons_of_ne_nil hus
      simp [render, List.intercalate_cons_cons]
    | cons t' ts =>
      have h := ih (by simp)
      simp only [render, List.cons_append, List.map_cons, List.intercalate_cons_cons] at h ⊢
      rw [h]
      simp

/-- Lines joined by the separator are one line of all their tokens. -/
theorem intercalate_render (lines : List (List (Token α))) (hne : ∀ ts ∈ lines, ts ≠ []) :
    [sep].intercalate (lines.map (render esc delim sep)) = render esc delim sep lines.flatten := by
  induction lines with
  | nil => rfl
  | cons ts lines ih =>
    have hts := hne ts (by simp)
    have hrest := ih (fun us hus => hne us (by simp [hus]))
    cases lines with
    | nil => simp
    | cons us lines =>
      have hflat : (us :: lines).flatten ≠ [] := by
        have hus := hne us (by simp)
        simp [hus]
      rw [List.flatten_cons, render_append esc delim sep ts _ hts hflat, ← hrest]
      simp [List.intercalate_cons_cons]

end Quoting
