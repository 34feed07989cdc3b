/-!
Readers that go through a text once and hand over a piece of it whenever one is complete.
-/

namespace ScriptBinding.Text

/-- Reading begins outside of any piece, and it is complete only there. -/
structure PieceReader (σ τ : Type) where
  outside : σ
  next : σ → Char → Option (Option τ × σ)

namespace PieceReader

variable {σ τ : Type} [DecidableEq σ] {r : PieceReader σ τ} {s s' : σ} {c : Char} {cs rest : List Char}
  {pieces : List τ}

def pieces? (r : PieceReader σ τ) (s : σ) : List Char → Option (List τ)
  | [] => if s = r.outside then some [] else none
  | c :: cs =>
    match r.next s c with
    | none => none
    | some (none, s) => r.pieces? s cs
    | some (some piece, s) => (r.pieces? s cs).map (piece :: ·)

theorem pieces?_cons (h : r.next s c = some (none, s')) : r.pieces? s (c :: rest) = r.pieces? s' rest := by
  rw [pieces?, h]

theorem pieces?_append (h : r.pieces? s cs = some pieces) :
    r.pieces? s (cs ++ rest) = (r.pieces? r.outside rest).map (pieces ++ ·) := by
  induction cs generalizing s pieces with
  | nil =>
    rw [pieces?] at h
    split at h
    · next houtside =>
      obtain rfl := Option.some.inj h
      rw [houtside]
      exact Option.map_id'.symm
    · cases h
  | cons c cs ih =>
    rw [pieces?] at h
    rw [List.cons_append, pieces?]
    rcases hnext : r.next s c with _ | ⟨_ | piece, s'⟩
    · rw [hnext] at h
      cases h
    · rw [hnext] at h
      exact ih h
    · rw [hnext] at h
      obtain ⟨pieces, hpieces, rfl⟩ := Option.map_eq_some_iff.mp h
      simp only [ih hpieces, Option.map_map]
      rfl

end PieceReader

end ScriptBinding.Text
