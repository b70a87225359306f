import Mathlib.Data.List.Infix

/-!
# Glob patterns

Patterns of stars and single-letter pieces over any alphabet, with their meaning by recursion on the
pattern.  The rules are what a matcher needs that only remembers the last star: a star-free part may be
matched as early as it fits, a star whose rest does not fit here may take one letter more, and at the
end of the text a star takes nothing.
-/

namespace ReflectNanobind.Library.Glob

variable {α : Type}

/-- A star, or a piece for exactly one letter. -/
inductive Piece (α : Type) where
  | star
  | one (accepts : α → Bool)

/-- The reference semantics: a star takes any part of the text, also none; the whole text is used. -/
def matched : List (Piece α) → List α → Bool
  | [], text => text.isEmpty
  | .star :: rest, text => text.tails.any (matched rest)
  | .one _ :: _, [] => false
  | .one accepts :: rest, char :: text => accepts char && matched rest text

theorem matched_star_iff {rest : List (Piece α)} {text : List α} :
    matched (.star :: rest) text = true ↔ ∃ tail, tail <:+ text ∧ matched rest tail = true := by
  simp [matched]

@[simp] theorem matched_one_cons (accepts : α → Bool) (rest : List (Piece α)) (char : α)
    (text : List α) :
    matched (.one accepts :: rest) (char :: text) = (accepts char && matched rest text) := rfl

@[simp] theorem matched_one_nil (accepts : α → Bool) (rest : List (Piece α)) :
    matched (.one accepts :: rest) [] = false := rfl

@[simp] theorem matched_nil_cons (char : α) (text : List α) :
    matched ([] : List (Piece α)) (char :: text) = false := rfl

@[simp] theorem matched_nil_nil : matched ([] : List (Piece α)) [] = true := rfl

/-- At the end of the text a star takes nothing. -/
@[simp] theorem matched_star_nil (rest : List (Piece α)) :
    matched (.star :: rest) [] = matched rest [] := by simp [matched]

/-- A leading star takes the first letter, unless the rest matches right here. -/
theorem matched_star_cons {rest : List (Piece α)} {char : α} {text : List α} :
    matched (.star :: rest) (char :: text) =
      (matched rest (char :: text) || matched (.star :: rest) text) := by
  simp [matched]

theorem matched_star_of_suffix {rest : List (Piece α)} {tail text : List α} (h : tail <:+ text)
    (hmatched : matched (.star :: rest) tail = true) : matched (.star :: rest) text = true := by
  obtain ⟨last, hlast, hrest⟩ := matched_star_iff.mp hmatched
  exact matched_star_iff.mpr ⟨last, hlast.trans h, hrest⟩

/-! ## Star-free parts -/

/-- The pieces have no star and accept the letters one by one. -/
inductive Fits : List (Piece α) → List α → Prop
  | nil : Fits [] []
  | cons {accepts : α → Bool} {char : α} {pieces : List (Piece α)} {text : List α}
      (hchar : accepts char = true) (hrest : Fits pieces text) :
      Fits (.one accepts :: pieces) (char :: text)

theorem Fits.snoc {accepts : α → Bool} {char : α} {pieces : List (Piece α)} {text : List α}
    (h : Fits pieces text) (hchar : accepts char = true) :
    Fits (pieces ++ [.one accepts]) (text ++ [char]) := by
  induction h with
  | nil => exact .cons hchar .nil
  | cons hfirst _ ih => exact .cons hfirst ih

theorem Fits.length_eq {pieces : List (Piece α)} {text : List α} (h : Fits pieces text) :
    pieces.length = text.length := by
  induction h with
  | nil => rfl
  | cons _ _ ih => simp [ih]

section Rules

variable {pieces rest : List (Piece α)} {text tail : List α}

theorem Fits.matched_append (h : Fits pieces text) :
    matched (pieces ++ rest) (text ++ tail) = matched rest tail := by
  induction h with
  | nil => rfl
  | cons hchar _ ih => simpa [hchar] using ih

/-- A star-free part takes exactly as many letters as it has pieces. -/
theorem Fits.exists_of_matched (h : Fits pieces text) {whole : List α}
    (hmatched : matched (pieces ++ rest) whole = true) : ∃ taken left,
      whole = taken ++ left ∧ taken.length = pieces.length ∧ matched rest left = true := by
  induction h generalizing whole with
  | nil => exact ⟨[], whole, rfl, rfl, hmatched⟩
  | cons _ _ ih =>
      cases whole with
      | nil => simp at hmatched
      | cons char others =>
          simp only [List.cons_append, matched_one_cons, Bool.and_eq_true] at hmatched
          obtain ⟨taken, left, hwhole, hlength, hrest⟩ := ih hmatched.2
          exact ⟨char :: taken, left, by rw [hwhole]; rfl, by simp [hlength], hrest⟩

/-- What is left after a star and a star-free part is a suffix of what is left when that part is
matched right here. -/
theorem Fits.suffix_of_matched (h : Fits pieces text)
    (hmatched : matched (.star :: (pieces ++ rest)) (text ++ tail) = true) : ∃ left,
      left <:+ tail ∧ matched rest left = true := by
  obtain ⟨whole, hwhole, hfits⟩ := matched_star_iff.mp hmatched
  obtain ⟨taken, left, rfl, hlength, hrest⟩ := h.exists_of_matched hfits
  have hshort : left.length ≤ tail.length := by
    have hle := hwhole.length_le
    have htext := h.length_eq
    simp only [List.length_append] at hle
    omega
  have hleft : left <:+ text ++ tail := (List.suffix_append taken left).trans hwhole
  exact ⟨left, List.suffix_of_suffix_length_le hleft (List.suffix_append text tail) hshort, hrest⟩

/-- Matching the part between two stars as early as it fits loses nothing: the second star can take
what a later match would have skipped. -/
theorem Fits.matched_between_stars (h : Fits pieces text) :
    matched (.star :: (pieces ++ .star :: rest)) (text ++ tail) = matched (.star :: rest) tail := by
  rw [Bool.eq_iff_iff]
  constructor
  · intro hmatched
    obtain ⟨left, hleft, hrest⟩ := h.suffix_of_matched hmatched
    exact matched_star_of_suffix hleft hrest
  · intro hrest
    have hhere : matched (pieces ++ .star :: rest) (text ++ tail) = true := by
      rw [h.matched_append, hrest]
    exact matched_star_iff.mpr ⟨_, List.suffix_refl _, hhere⟩

/-- When the rest does not match right here, the star takes one letter more. -/
theorem matched_star_step {char : α} (h : matched rest (char :: text) = false) :
    matched (.star :: rest) (char :: text) = matched (.star :: rest) text := by
  rw [matched_star_cons, h, Bool.false_or]

/-- At the end of the text the star before the last part takes nothing. -/
theorem Fits.matched_at_end (h : Fits pieces text) :
    matched (.star :: (pieces ++ rest)) text = matched rest [] := by
  rw [Bool.eq_iff_iff]
  constructor
  · intro hmatched
    rw [← List.append_nil text] at hmatched
    obtain ⟨left, hleft, hrest⟩ := h.suffix_of_matched hmatched
    rwa [List.suffix_nil.mp hleft] at hrest
  · intro hrest
    have hhere : matched (pieces ++ rest) (text ++ []) = true := by
      rw [h.matched_append, hrest]
    rw [List.append_nil] at hhere
    exact matched_star_iff.mpr ⟨_, List.suffix_refl _, hhere⟩

end Rules

end ReflectNanobind.Library.Glob
