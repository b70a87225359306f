import ReflectNanobind.Library.Glob
import Mathlib.Data.Nat.Notation

/-!
# The glob matcher of the binder's matchers

`glob_match` of the matcher probe: a loop over two pointers that remembers the last star and restarts
one letter further when the text behind it does not fit.  A state holds the pointers as offsets into
NUL-terminated strings, and a step that would read past a terminator has no result.  The invariant says
what the remembered star stands for; every step keeps it and makes progress.
-/

namespace ReflectNanobind.Matcher

open Library

/-! ## Strings with a terminator -/

def nul : Char := Char.ofNat 0

/-- A `char *` of C++, in which each `Char` stands for one `char`, a byte. -/
structure CString where
  chars : List Char
  nul_not_mem : nul ∉ chars

/-- The letter at an offset, the terminator included; there is nothing to read behind it. -/
def CString.read (string : CString) (pointer : ℕ) : Option Char :=
  (string.chars ++ [nul])[pointer]?

/-- A pointer into a string is at a letter or at the terminator. -/
theorem CString.read_cases (string : CString) {pointer : ℕ} (h : pointer ≤ string.chars.length) :
    (∃ char ∈ string.chars, char ≠ nul ∧ string.read pointer = some char ∧
      pointer < string.chars.length ∧
      string.chars.drop pointer = char :: string.chars.drop (pointer + 1)) ∨
      string.read pointer = some nul ∧ string.chars.drop pointer = [] := by
  rcases Nat.lt_or_eq_of_le h with hlt | heq
  · left
    have hmem := List.getElem_mem hlt
    refine ⟨string.chars[pointer], hmem, ?_, ?_, hlt, List.drop_eq_getElem_cons hlt⟩
    · intro hnul
      exact string.nul_not_mem (hnul ▸ hmem)
    · rw [read, List.getElem?_append_left hlt, List.getElem?_eq_getElem hlt]
  · right
    constructor
    · rw [read, heq, List.getElem?_append_right (Nat.le_refl _)]
      simp
    · rw [heq, List.drop_length]

/-! ## The matcher -/

inductive State where
  /-- `while (*s)`, with both saved pointers null or both set. -/
  | loop (pat s : ℕ) (star ss : Option ℕ)
  /-- `while (*pat == '*')`. -/
  | trailing (pat : ℕ)
  | returned (result : Bool)
  deriving DecidableEq, Repr

/-- One turn of a loop. -/
def step (pattern subject : CString) : State → Option State
  | .loop pat s star ss => do
      let char ← subject.read s
      if char = nul then pure (.trailing pat)
      else
        let letter ← pattern.read pat
        if letter = '?' ∨ letter = char then pure (.loop (pat + 1) (s + 1) star ss)
        else if letter = '*' then pure (.loop (pat + 1) s (some pat) (some s))
        else
          match star with
          | some star => do
              let ss ← ss
              pure (.loop (star + 1) (ss + 1) (some star) (some (ss + 1)))
          | none => pure (.returned false)
  | .trailing pat => do
      let letter ← pattern.read pat
      if letter = '*' then pure (.trailing (pat + 1)) else pure (.returned (letter = nul))
  | .returned result => pure (.returned result)

/-- The state after a number of turns, unless one of them read past a terminator. -/
def run (pattern subject : CString) : ℕ → State → Option State
  | 0, state => some state
  | turns + 1, state => (step pattern subject state).bind (run pattern subject turns)

/-- `glob_match(pat, s)` starts with both pointers at the beginning and no star. -/
def globMatch : State := .loop 0 0 none none

/-! ## The reference semantics -/

/-- What a letter of a pattern stands for. -/
def piece (letter : Char) : Glob.Piece Char :=
  if letter = '*' then .star
  else if letter = '?' then .one fun _ ↦ true
  else .one fun char ↦ letter == char

def pieces (pattern : CString) (pat : ℕ) : List (Glob.Piece Char) :=
  (pattern.chars.drop pat).map piece

/-- The whole subject matches the whole pattern. -/
def Matched (pattern subject : CString) : Bool :=
  Glob.matched (pattern.chars.map piece) subject.chars

example : Matched ⟨"a*b*c".toList, by decide⟩ ⟨"aXXbYYc".toList, by decide⟩ = true := by decide

section Loop

variable {pattern subject : CString}

theorem piece_star : piece '*' = .star := rfl

/-- A letter that is not a star stands for exactly one letter. -/
theorem piece_of_ne_star {letter : Char} (h : letter ≠ '*') : ∃ accepts : Char → Bool,
    piece letter = .one accepts ∧ ∀ char, accepts char = true ↔ letter = '?' ∨ letter = char := by
  unfold piece
  rw [if_neg h]
  split
  · rename_i hany
    exact ⟨_, rfl, fun char ↦ by simp [hany]⟩
  · rename_i hany
    exact ⟨_, rfl, fun char ↦ by simp [hany]⟩

/-! ## The invariant -/

/-- What is left to do decides the whole match.  Behind a star, what has been passed since it fits
letter by letter, and the star may still take more from `ss` on. -/
inductive Invariant (pattern subject : CString) : ℕ → ℕ → Option ℕ → Option ℕ → Prop
  | noStar {pat s : ℕ} (hpat : pat ≤ pattern.chars.length) (hs : s ≤ subject.chars.length)
      (hleft : Matched pattern subject =
        Glob.matched (pieces pattern pat) (subject.chars.drop s)) :
      Invariant pattern subject pat s none none
  | behindStar {pat s star ss : ℕ} (hpat : pat ≤ pattern.chars.length)
      (hs : s ≤ subject.chars.length) (hstar : star < pat) (hss : ss ≤ s)
      {passed : List (Glob.Piece Char)} {text : List Char} (hfits : Glob.Fits passed text)
      (hpassed : pieces pattern (star + 1) = passed ++ pieces pattern pat)
      (htext : subject.chars.drop ss = text ++ subject.chars.drop s)
      (hleft : Matched pattern subject =
        Glob.matched (.star :: pieces pattern (star + 1)) (subject.chars.drop ss)) :
      Invariant pattern subject pat s (some star) (some ss)

theorem invariant_globMatch : Invariant pattern subject 0 0 none none :=
  .noStar (Nat.zero_le _) (Nat.zero_le _) (by simp [Matched, pieces])

theorem Invariant.pat_le {pat s : ℕ} {star ss : Option ℕ}
    (h : Invariant pattern subject pat s star ss) : pat ≤ pattern.chars.length := by
  cases h <;> assumption

theorem Invariant.s_le {pat s : ℕ} {star ss : Option ℕ}
    (h : Invariant pattern subject pat s star ss) : s ≤ subject.chars.length := by
  cases h <;> assumption

/-- At the end of the subject the rest of the pattern decides. -/
theorem Invariant.at_end {pat s : ℕ} {star ss : Option ℕ}
    (h : Invariant pattern subject pat s star ss) (hend : subject.chars.drop s = []) :
    Matched pattern subject = Glob.matched (pieces pattern pat) [] := by
  cases h with
  | noStar _ _ hleft => rw [hleft, hend]
  | behindStar _ _ _ _ hfits hpassed htext hleft =>
      rw [hleft, hpassed, htext, hend, List.append_nil, hfits.matched_at_end]

section Turn

variable {pat s : ℕ} {star ss : Option ℕ} {char : Char}

/-- A letter of the pattern that fits is passed. -/
theorem Invariant.pass (h : Invariant pattern subject pat s star ss) {accepts : Char → Bool}
    (hpieces : pieces pattern pat = .one accepts :: pieces pattern (pat + 1))
    (hdrop : subject.chars.drop s = char :: subject.chars.drop (s + 1))
    (hpat : pat < pattern.chars.length) (hs : s < subject.chars.length)
    (haccepts : accepts char = true) : Invariant pattern subject (pat + 1) (s + 1) star ss := by
  cases h with
  | noStar _ _ hleft =>
      apply Invariant.noStar hpat hs
      rw [hleft, hpieces, hdrop, Glob.matched_one_cons, haccepts, Bool.true_and]
  | behindStar _ _ hstar hss hfits hpassed htext hleft =>
      refine .behindStar hpat hs (Nat.lt_succ_of_lt hstar) (Nat.le_succ_of_le hss)
        (hfits.snoc haccepts) ?_ ?_ hleft
      · rw [hpassed, hpieces, List.append_assoc]
        rfl
      · rw [htext, hdrop, List.append_assoc]
        rfl

/-- A new star replaces the old one: what was passed since then need not be matched later. -/
theorem Invariant.newStar (h : Invariant pattern subject pat s star ss)
    (hpieces : pieces pattern pat = .star :: pieces pattern (pat + 1))
    (hpat : pat < pattern.chars.length) :
    Invariant pattern subject (pat + 1) s (some pat) (some s) := by
  refine .behindStar hpat h.s_le (Nat.lt_succ_self pat) (Nat.le_refl s) .nil rfl rfl ?_
  rw [← hpieces]
  cases h with
  | noStar _ _ hleft => exact hleft
  | behindStar _ _ _ _ hfits hpassed htext hleft =>
      rw [hleft, hpassed, htext, hpieces, hfits.matched_between_stars]

/-- A mismatch behind a star gives the star one letter more. -/
theorem Invariant.restart {star ss : ℕ}
    (h : Invariant pattern subject pat s (some star) (some ss))
    (hmismatch : Glob.matched (pieces pattern pat) (subject.chars.drop s) = false)
    (hs : s < subject.chars.length) :
    Invariant pattern subject (star + 1) (ss + 1) (some star) (some (ss + 1)) := by
  cases h with
  | behindStar hpat _ hstar hss hfits hpassed htext hleft =>
      have hlt : ss < subject.chars.length := Nat.lt_of_le_of_lt hss hs
      refine .behindStar (Nat.le_trans hstar hpat) hlt (Nat.lt_succ_self star) (Nat.le_refl _)
        .nil rfl rfl ?_
      have hhere : Glob.matched (pieces pattern (star + 1)) (subject.chars.drop ss) = false := by
        rw [hpassed, htext, hfits.matched_append, hmismatch]
      rw [List.drop_eq_getElem_cons hlt] at hhere hleft
      rw [hleft, Glob.matched_star_step hhere]

end Turn

/-- What is left of a pattern begins with the piece of the letter that is read. -/
theorem pieces_of_drop {pat : ℕ} {letter : Char}
    (h : pattern.chars.drop pat = letter :: pattern.chars.drop (pat + 1)) :
    pieces pattern pat = piece letter :: pieces pattern (pat + 1) := by
  rw [pieces, h, List.map_cons, pieces]

/-- There is a letter to read, and one that is not the terminator is in the pattern. -/
theorem exists_letter {pat : ℕ} (h : pat ≤ pattern.chars.length) :
    ∃ letter, pattern.read pat = some letter ∧
      (letter ≠ nul → pat < pattern.chars.length ∧
        pieces pattern pat = piece letter :: pieces pattern (pat + 1)) := by
  rcases pattern.read_cases h with ⟨letter, _, _, hread, hlt, hrest⟩ | ⟨hread, _⟩
  · exact ⟨letter, hread, fun _ ↦ ⟨hlt, pieces_of_drop hrest⟩⟩
  · exact ⟨nul, hread, fun hne ↦ absurd rfl hne⟩

/-- A letter that is no star, no `?` and not the letter of the subject does not match here. -/
theorem mismatch {pat s : ℕ} {letter char : Char} (hpat : pat ≤ pattern.chars.length)
    (hread : pattern.read pat = some letter) (hstar : letter ≠ '*')
    (hne : ¬(letter = '?' ∨ letter = char))
    (hdrop : subject.chars.drop s = char :: subject.chars.drop (s + 1)) :
    Glob.matched (pieces pattern pat) (subject.chars.drop s) = false := by
  rw [hdrop]
  rcases pattern.read_cases hpat with ⟨read, _, _, hsome, _, hrest⟩ | ⟨_, hempty⟩
  · obtain rfl : read = letter := Option.some.inj (hsome.symm.trans hread)
    obtain ⟨accepts, hpiece, haccepts⟩ := piece_of_ne_star hstar
    have hrejects : accepts char = false := by
      rw [← Bool.not_eq_true, haccepts]
      exact hne
    rw [pieces_of_drop hrest, hpiece, Glob.matched_one_cons, hrejects, Bool.false_and]
  · rw [pieces, hempty, List.map_nil, Glob.matched_nil_cons]

/-! ## Progress -/

/-- What a turn makes smaller: first the pattern behind the star, then the subject behind `ss`, then
the pattern that is left. -/
def rank (pattern subject : CString) (pat : ℕ) (star ss : Option ℕ) : ℕ × ℕ × ℕ :=
  (pattern.chars.length + 1 - star.elim 0 (· + 1), subject.chars.length - ss.getD 0,
    pattern.chars.length - pat)

/-- The order on ranks. -/
abbrev Below : ℕ × ℕ × ℕ → ℕ × ℕ × ℕ → Prop :=
  Prod.Lex (· < ·) (Prod.Lex (· < ·) (· < ·))

theorem wellFounded_below : WellFounded Below :=
  (Prod.lex Nat.lt_wfRel (Prod.lex Nat.lt_wfRel Nat.lt_wfRel)).wf

/-- One turn of the main loop: it goes on closer to the end, or leaves the answer to the stars that
trail, or answers that there is no match. -/
inductive Turned (pattern subject : CString) (pat s : ℕ) (star ss : Option ℕ) : State → Prop
  | again {pat' s' : ℕ} {star' ss' : Option ℕ} (h : Invariant pattern subject pat' s' star' ss')
      (hrank : Below (rank pattern subject pat' star' ss') (rank pattern subject pat star ss)) :
      Turned pattern subject pat s star ss (.loop pat' s' star' ss')
  | ended (hleft : Matched pattern subject = Glob.matched (pieces pattern pat) []) :
      Turned pattern subject pat s star ss (.trailing pat)
  | failed (hnone : Matched pattern subject = false) :
      Turned pattern subject pat s star ss (.returned false)

/-- Every turn of the main loop reads inside both strings, keeps the invariant and makes progress. -/
theorem Invariant.step {pat s : ℕ} {star ss : Option ℕ}
    (h : Invariant pattern subject pat s star ss) (hplain : '*' ∉ subject.chars) :
    ∃ state, step pattern subject (.loop pat s star ss) = some state ∧
      Turned pattern subject pat s star ss state := by
  rcases subject.read_cases h.s_le with
    ⟨char, hchar, hne_nul, hread, hs, hdrop⟩ | ⟨hread, hend⟩
  swap
  · exact ⟨.trailing pat, by simp [Matcher.step, hread], .ended (h.at_end hend)⟩
  have hchar_star : char ≠ '*' := fun heq ↦ hplain (heq ▸ hchar)
  obtain ⟨letter, hletter, hinside⟩ := exists_letter h.pat_le
  by_cases hfits : letter = '?' ∨ letter = char
  · -- the letter fits
    refine ⟨.loop (pat + 1) (s + 1) star ss, by simp [Matcher.step, hread, hne_nul, hletter, hfits],
      ?_⟩
    have hnul : letter ≠ nul := by
      rcases hfits with rfl | rfl
      · decide
      · exact hne_nul
    have hstar : letter ≠ '*' := by
      rcases hfits with rfl | rfl
      · decide
      · exact hchar_star
    obtain ⟨hpat, hpieces⟩ := hinside hnul
    obtain ⟨accepts, hpiece, haccepts⟩ := piece_of_ne_star hstar
    rw [hpiece] at hpieces
    apply Turned.again (h.pass hpieces hdrop hpat hs ((haccepts char).mpr hfits))
    exact .right _ (.right _ (by omega))
  by_cases hstar : letter = '*'
  · -- a star is remembered
    subst hstar
    refine ⟨.loop (pat + 1) s (some pat) (some s),
      by simp [Matcher.step, hread, hne_nul, hletter, Ne.symm hchar_star], ?_⟩
    obtain ⟨hpat, hpieces⟩ := hinside (by decide)
    refine .again (h.newStar hpieces hpat) (.left _ _ ?_)
    cases h with
    | noStar =>
        simp only [Option.elim_some, Option.elim_none]
        omega
    | behindStar _ _ hbefore =>
        simp only [Option.elim_some]
        omega
  · have hmismatch := mismatch h.pat_le hletter hstar hfits hdrop
    cases star with
    | none =>
        cases h with
        | noStar _ _ hleft =>
            exact ⟨.returned false, by simp [Matcher.step, hread, hne_nul, hletter, hfits, hstar],
              .failed (hleft.trans hmismatch)⟩
    | some star =>
        obtain ⟨ss, rfl, hss⟩ : ∃ old, ss = some old ∧ old ≤ s := by
          cases h with
          | behindStar _ _ _ hss => exact ⟨_, rfl, hss⟩
        refine ⟨.loop (star + 1) (ss + 1) (some star) (some (ss + 1)),
          by simp [Matcher.step, hread, hne_nul, hletter, hfits, hstar], ?_⟩
        refine .again (h.restart hmismatch hs) (.right _ (.left _ _ ?_))
        simp only [Option.getD_some]
        omega

/-! ## The whole run -/

/-- From this state the matcher returns the result after some number of turns. -/
def Returns (pattern subject : CString) (state : State) (result : Bool) : Prop :=
  ∃ turns, run pattern subject turns state = some (.returned result)

theorem Returns.before {state next : State} {result : Bool}
    (hstep : Matcher.step pattern subject state = some next)
    (h : Returns pattern subject next result) : Returns pattern subject state result := by
  obtain ⟨turns, hrun⟩ := h
  exact ⟨turns + 1, by rw [run, hstep, Option.bind_some, hrun]⟩

/-- The second loop skips the stars that trail and asks whether anything is left. -/
theorem trailing_returns {pat : ℕ} (h : pat ≤ pattern.chars.length) :
    Returns pattern subject (.trailing pat) (Glob.matched (pieces pattern pat) []) := by
  induction hlength : pattern.chars.length - pat generalizing pat with
  | zero =>
      obtain rfl : pat = pattern.chars.length := by omega
      rcases pattern.read_cases h with ⟨_, _, _, _, hlt, _⟩ | ⟨hread, hempty⟩
      · exact absurd hlt (Nat.lt_irrefl _)
      · have hstep : Matcher.step pattern subject (.trailing pattern.chars.length) =
            some (.returned true) := by simp [Matcher.step, hread, (by decide : nul ≠ '*')]
        refine .before hstep ⟨0, ?_⟩
        simp [run, pieces]
  | succ n ih =>
      rcases pattern.read_cases h with ⟨letter, _, hne_nul, hread, hlt, hrest⟩ | ⟨_, hempty⟩
      · by_cases hstar : letter = '*'
        · subst hstar
          rw [pieces_of_drop hrest, piece_star, Glob.matched_star_nil]
          exact .before (by simp [Matcher.step, hread]) (ih hlt (by omega))
        · obtain ⟨accepts, hpiece, _⟩ := piece_of_ne_star hstar
          rw [pieces_of_drop hrest, hpiece, Glob.matched_one_nil]
          have hstep : Matcher.step pattern subject (.trailing pat) = some (.returned false) := by
            simp [Matcher.step, hread, hstar, hne_nul]
          exact .before hstep ⟨0, rfl⟩
      · have := List.drop_eq_nil_iff.mp hempty
        omega

/-- By induction on the rank, the loop returns whether the subject matches. -/
theorem Invariant.returns (hplain : '*' ∉ subject.chars) {pat s : ℕ} {star ss : Option ℕ}
    (h : Invariant pattern subject pat s star ss) :
    Returns pattern subject (.loop pat s star ss) (Matched pattern subject) := by
  induction hrank : rank pattern subject pat star ss using wellFounded_below.induction
    generalizing pat s star ss with
  | _ _ ih =>
      obtain ⟨state, hstep, hturned⟩ := h.step hplain
      apply Returns.before hstep
      cases hturned with
      | again hinv hbelow => exact ih _ (hrank ▸ hbelow) hinv rfl
      | ended hleft =>
          rw [hleft]
          exact trailing_returns h.pat_le
      | failed hnone =>
          rw [hnone]
          exact ⟨0, rfl⟩

/-- A matcher that has returned stays there. -/
theorem run_returned (result : Bool) (turns : ℕ) :
    run pattern subject turns (.returned result) = some (.returned result) := by
  induction turns with
  | zero => rfl
  | succ turns ih => rw [run, Matcher.step, Option.pure_def, Option.bind_some, ih]

/-- A run that returns reads past no terminator before, and does not read afterwards. -/
theorem Returns.isSome {state : State} {result : Bool}
    (h : Returns pattern subject state result) (turns : ℕ) :
    (run pattern subject turns state).isSome = true := by
  obtain ⟨enough, hrun⟩ := h
  induction turns generalizing state enough with
  | zero => rfl
  | succ turns ih =>
      cases enough with
      | zero =>
          obtain rfl : state = .returned result := Option.some.inj hrun
          rw [run_returned]
          rfl
      | succ enough =>
          rw [run] at hrun ⊢
          cases hstep : Matcher.step pattern subject state with
          | none => simp [hstep] at hrun
          | some next =>
              rw [hstep, Option.bind_some] at hrun
              exact ih enough hrun

end Loop

/-- For a subject without stars the matcher returns, answers exactly whether the whole subject matches
the pattern, and never reads past a terminator. -/
theorem globMatch_decides (pattern subject : CString) (hplain : '*' ∉ subject.chars) :
    (∃ turns result, run pattern subject turns globMatch = some (.returned result) ∧
      (result = true ↔ Matched pattern subject = true)) ∧
      ∀ turns, (run pattern subject turns globMatch).isSome = true := by
  have hreturns : Returns pattern subject globMatch (Matched pattern subject) :=
    invariant_globMatch.returns hplain
  constructor
  · obtain ⟨turns, hrun⟩ := hreturns
    exact ⟨turns, Matched pattern subject, hrun, Iff.rfl⟩
  · exact hreturns.isSome

/-- Two stars and a restart at each of them. -/
theorem globMatch_decides_two_stars :
    let pattern : CString := ⟨"a*b*c".toList, by decide⟩
    let subject : CString := ⟨"aXbXbYc".toList, by decide⟩
    '*' ∉ subject.chars ∧
      (∃ turns result, run pattern subject turns globMatch = some (.returned result) ∧
        (result = true ↔ Matched pattern subject = true)) ∧
      ∀ turns, (run pattern subject turns globMatch).isSome = true :=
  ⟨by decide, globMatch_decides ⟨"a*b*c".toList, by decide⟩ ⟨"aXbXbYc".toList, by decide⟩ (by decide)⟩

end ReflectNanobind.Matcher
