import ReflectNanobind.Library.Text

/-!
# Replacement and search across a boundary

A pattern is apart from a text when no occurrence of it can begin before that text and end in it.  Then
replacement and search treat what comes before the text and the text one after the other.  A character
that the pattern does not have, and a word that no proper end of the pattern agrees with, keep it apart
from everything that follows.
-/

namespace ReflectNanobind.Library.Text

variable {pattern : List Char}

/-! ## Boundaries -/

/-- No proper end of the pattern begins the text. -/
def Apart (pattern text : List Char) : Prop :=
  ∀ front last, pattern = front ++ last → front ≠ [] → last ≠ [] → ¬ last <+: text

theorem apart_nil (pattern : List Char) : Apart pattern [] :=
  fun _ _ _ _ hlast hstarts ↦ hlast (List.prefix_nil.mp hstarts)

/-- A character that the pattern does not have keeps it apart. -/
theorem apart_cons {char : Char} (h : char ∉ pattern) (rest : List Char) :
    Apart pattern (char :: rest) := by
  rintro front last rfl - hlast hstarts
  obtain ⟨head, tail, rfl⟩ := List.exists_cons_of_ne_nil hlast
  obtain rfl : head = char := (List.cons_prefix_cons.mp hstarts).1
  exact h (by simp)

/-- Some proper end of the pattern agrees with the word as far as both go. -/
def clashes (pattern word : List Char) : Bool :=
  pattern.tail.tails.any fun last ↦
    !last.isEmpty && (last.isPrefixOf word || word.isPrefixOf last)

theorem apart_append {word : List Char} (h : clashes pattern word = false) (rest : List Char) :
    Apart pattern (word ++ rest) := by
  rintro front last rfl hfront hlast hstarts
  obtain ⟨head, tail, rfl⟩ := List.exists_cons_of_ne_nil hfront
  have hnone := List.any_eq_false.mp h last (by simp [List.mem_tails])
  obtain ⟨hshort, hlong⟩ : ¬ last <+: word ∧ ¬ word <+: last := by
    simpa [hlast] using hnone
  rcases Nat.le_total last.length word.length with hle | hle
  · exact hshort (List.prefix_of_prefix_length_le hstarts (List.prefix_append _ _) hle)
  · exact hlong (List.prefix_of_prefix_length_le (List.prefix_append _ _) hstarts hle)

/-! ## Replacement -/

section Replacement

variable (new : List Char)

/-- Replacement treats what comes before a boundary and what comes behind it one after the other. -/
theorem replaceChars_append {back : List Char} (h : Apart pattern back) (front : List Char)
    {skip : ℕ} (hskip : skip ≤ front.length) :
    replaceChars pattern new skip (front ++ back) =
      replaceChars pattern new skip front ++ replaceChars pattern new 0 back := by
  induction front generalizing skip with
  | nil =>
      obtain rfl : skip = 0 := Nat.le_zero.mp hskip
      rfl
  | cons char rest ih =>
      cases skip with
      | succ skip => exact ih (Nat.le_of_succ_le_succ hskip)
      | zero =>
          have hinside : pattern <+: char :: (rest ++ back) ↔ pattern <+: char :: rest := by
            refine ⟨fun hstarts ↦ ?_, fun hstarts ↦ hstarts.trans (List.prefix_append _ back)⟩
            rcases Nat.lt_or_ge (char :: rest).length pattern.length with hlong | hshort
            · -- an occurrence that ends behind the boundary would straddle it
              obtain ⟨last, rfl⟩ := List.prefix_of_prefix_length_le
                (List.prefix_append (char :: rest) back) hstarts (Nat.le_of_lt hlong)
              refine absurd ((List.prefix_append_right_inj _).mp hstarts)
                (h (char :: rest) last rfl (List.cons_ne_nil _ _) ?_)
              rintro rfl
              simp at hlong
            · exact List.prefix_of_prefix_length_le hstarts (List.prefix_append (char :: rest) back)
                hshort
          simp only [List.cons_append, replaceChars, List.isPrefixOf_iff_prefix, hinside]
          split
          next hstarts =>
            have hle := hstarts.length_le
            rw [List.length_cons] at hle
            rw [ih (by omega), List.append_assoc]
          next => rw [ih (Nat.zero_le _), List.cons_append]

/-- A character other than the first of the pattern stays. -/
theorem replaceChars_cons {char : Char} (h : pattern.head? ≠ some char) (hne : pattern ≠ [])
    (rest : List Char) :
    replaceChars pattern new 0 (char :: rest) = char :: replaceChars pattern new 0 rest := by
  obtain ⟨head, tail, rfl⟩ := List.exists_cons_of_ne_nil hne
  have hnot : ¬ (head :: tail) <+: char :: rest := by
    intro hstarts
    exact h (by rw [List.head?_cons, (List.cons_prefix_cons.mp hstarts).1])
  rw [replaceChars, if_neg (by simpa only [List.isPrefixOf_iff_prefix] using hnot)]

/-- A character that the pattern does not have divides the replacement. -/
theorem replaceChars_append_cons {char : Char} (h : char ∉ pattern) (hne : pattern ≠ [])
    (front rest : List Char) :
    replaceChars pattern new 0 (front ++ char :: rest) =
      replaceChars pattern new 0 front ++ char :: replaceChars pattern new 0 rest := by
  rw [replaceChars_append new (apart_cons h rest) front (Nat.zero_le _),
    replaceChars_cons new (fun hhead ↦ h (List.mem_of_mem_head? hhead)) hne]

/-- Without an occurrence there is nothing to replace. -/
theorem replaceChars_of_not_infix {text : List Char} (h : ¬ pattern <:+: text) :
    replaceChars pattern new 0 text = text := by
  induction text with
  | nil => rfl
  | cons char rest ih =>
      have hstarts : ¬ pattern <+: char :: rest := fun hstarts ↦ h hstarts.isInfix
      have hrest : ¬ pattern <:+: rest := fun hrest ↦ h (List.infix_cons hrest)
      rw [replaceChars, if_neg (by simpa only [List.isPrefixOf_iff_prefix] using hstarts), ih hrest]

theorem replaceChars_skip (old front back : List Char) :
    replaceChars old new front.length (front ++ back) = replaceChars old new 0 back := by
  induction front with
  | nil => rfl
  | cons char front ih => exact ih

/-- An occurrence at the front is replaced. -/
theorem replaceChars_pattern (hne : pattern ≠ []) (back : List Char) :
    replaceChars pattern new 0 (pattern ++ back) = new ++ replaceChars pattern new 0 back := by
  obtain ⟨head, tail, rfl⟩ := List.exists_cons_of_ne_nil hne
  have hstarts : (head :: tail) <+: head :: (tail ++ back) := List.prefix_append (head :: tail) back
  rw [List.cons_append, replaceChars,
    if_pos (by simpa only [List.isPrefixOf_iff_prefix] using hstarts), List.length_cons,
    Nat.add_sub_cancel, replaceChars_skip]

end Replacement

/-! ## Search -/

theorem contains_eq_false_iff (word text : String) :
    contains word text = false ↔ ¬ word.toList <:+: text.toList :=
  decide_eq_false_iff_not

section Search

variable {front rest : List Char}

/-- Behind a boundary or before it: an occurrence does not straddle it. -/
theorem infix_append_of_apart (hne : pattern ≠ []) (h : Apart pattern rest) :
    pattern <:+: front ++ rest ↔ pattern <:+: front ∨ pattern <:+: rest := by
  rw [List.infix_append_iff]
  constructor
  · rintro (hfront | hrest | ⟨first, last, rfl, hfirst, hlast⟩)
    · exact .inl hfront
    · exact .inr hrest
    · rcases eq_or_ne first [] with rfl | hfirst_ne
      · exact .inr hlast.isInfix
      · rcases eq_or_ne last [] with rfl | hlast_ne
        · exact .inl (by simpa using hfirst.isInfix)
        · exact absurd hlast (h first last rfl hfirst_ne hlast_ne)
  · rintro (hfront | hrest)
    · exact .inl hfront
    · exact .inr (.inl hrest)

theorem infix_cons_of_head {char : Char} (hne : pattern ≠ []) (h : pattern.head? ≠ some char) :
    pattern <:+: char :: rest ↔ pattern <:+: rest := by
  obtain ⟨head, tail, rfl⟩ := List.exists_cons_of_ne_nil hne
  rw [List.infix_cons_iff]
  refine or_iff_right fun hstarts ↦ h ?_
  rw [List.head?_cons, (List.cons_prefix_cons.mp hstarts).1]

/-- A character that the pattern does not have divides the search. -/
theorem infix_append_cons {char : Char} (hne : pattern ≠ []) (h : char ∉ pattern) :
    pattern <:+: front ++ char :: rest ↔ pattern <:+: front ∨ pattern <:+: rest := by
  rw [infix_append_of_apart hne (apart_cons h rest),
    infix_cons_of_head hne fun hhead ↦ h (List.mem_of_mem_head? hhead)]

end Search

/-! ## Parts -/

section Parts

variable {new : List Char}

/-- A pattern that does not overlap itself divides the replacement where it occurs. -/
theorem replaceChars_append_pattern (hne : pattern ≠ []) (hself : clashes pattern pattern = false)
    (front back : List Char) :
    replaceChars pattern new 0 (front ++ (pattern ++ back)) =
      replaceChars pattern new 0 front ++ (new ++ replaceChars pattern new 0 back) := by
  rw [replaceChars_append new (apart_append hself back) front (Nat.zero_le _),
    replaceChars_pattern new hne]

/-- A text with an occurrence has a first one. -/
theorem exists_first_of_infix {text : List Char} (h : pattern <:+: text) :
    ∃ front back, text = front ++ (pattern ++ back) ∧ (pattern ≠ [] → ¬ pattern <:+: front) := by
  induction text with
  | nil =>
      obtain rfl := List.infix_nil.mp h
      exact ⟨[], [], rfl, fun hne ↦ absurd rfl hne⟩
  | cons char rest ih =>
      by_cases hstarts : pattern <+: char :: rest
      · obtain ⟨back, hback⟩ := hstarts
        exact ⟨[], back, hback.symm, fun hne hnil ↦ hne (List.infix_nil.mp hnil)⟩
      · obtain ⟨front, back, rfl, hfree⟩ := ih ((List.infix_cons_iff.mp h).resolve_left hstarts)
        refine ⟨char :: front, back, rfl, fun hne hoccurs ↦ ?_⟩
        rcases List.infix_cons_iff.mp hoccurs with hfront | hfront
        · exact hstarts (hfront.trans (List.prefix_append (char :: front) (pattern ++ back)))
        · exact hfree hne hfront

/-- Every text joins parts without the pattern. -/
theorem exists_parts (hne : pattern ≠ []) (text : List Char) :
    ∃ parts : List (List Char), parts ≠ [] ∧ (∀ part ∈ parts, ¬ pattern <:+: part) ∧
      pattern.intercalate parts = text := by
  induction hlength : text.length using Nat.strong_induction_on generalizing text with
  | _ length ih =>
      by_cases hoccurs : pattern <:+: text
      · obtain ⟨front, back, rfl, hfront⟩ := exists_first_of_infix hoccurs
        have hshorter : back.length < length := by
          have hpositive := List.length_pos_iff.mpr hne
          simp only [List.length_append] at hlength
          omega
        obtain ⟨parts, hparts, hfree, rfl⟩ := ih _ hshorter back rfl
        refine ⟨front :: parts, List.cons_ne_nil _ _,
          List.forall_mem_cons.mpr ⟨hfront hne, hfree⟩, ?_⟩
        rw [List.intercalate_cons_of_ne_nil hparts, List.append_assoc]
      · exact ⟨[text], List.cons_ne_nil _ _, List.forall_mem_singleton.mpr hoccurs,
          List.intercalate_singleton⟩

/-- Replacement joins the parts of a text anew. -/
theorem replaceChars_intercalate (hne : pattern ≠ []) (hself : clashes pattern pattern = false)
    {parts : List (List Char)} (hfree : ∀ part ∈ parts, ¬ pattern <:+: part) :
    replaceChars pattern new 0 (pattern.intercalate parts) = new.intercalate parts := by
  induction parts with
  | nil => rfl
  | cons part rest ih =>
      obtain ⟨hpart, hrest⟩ := List.forall_mem_cons.mp hfree
      rcases eq_or_ne rest [] with rfl | hne_rest
      · rw [List.intercalate_singleton, List.intercalate_singleton,
          replaceChars_of_not_infix new hpart]
      · calc replaceChars pattern new 0 (pattern.intercalate (part :: rest))
            = replaceChars pattern new 0 (part ++ (pattern ++ pattern.intercalate rest)) := by
              rw [List.intercalate_cons_of_ne_nil hne_rest, List.append_assoc]
          _ = part ++ (new ++ new.intercalate rest) := by
              rw [replaceChars_append_pattern hne hself, replaceChars_of_not_infix new hpart,
                ih hrest]
          _ = new.intercalate (part :: rest) := by
              rw [List.intercalate_cons_of_ne_nil hne_rest, List.append_assoc]

/-- A replacement that does not bring the pattern back removes it. -/
theorem not_infix_replaceChars (hne : pattern ≠ []) (hself : clashes pattern pattern = false)
    (hclash : clashes pattern new = false)
    (hnew : ∀ rest, pattern <:+: new ++ rest → pattern <:+: rest) (text : List Char) :
    ¬ pattern <:+: replaceChars pattern new 0 text := by
  obtain ⟨parts, -, hfree, rfl⟩ := exists_parts hne text
  rw [replaceChars_intercalate hne hself hfree]
  induction parts with
  | nil => exact fun hoccurs ↦ hne (List.infix_nil.mp hoccurs)
  | cons part rest ih =>
      obtain ⟨hpart, hrest⟩ := List.forall_mem_cons.mp hfree
      rcases eq_or_ne rest [] with rfl | hne_rest
      · rwa [List.intercalate_singleton]
      · rw [List.intercalate_cons_of_ne_nil hne_rest, List.append_assoc,
          infix_append_of_apart hne (apart_append hclash _)]
        rintro (hoccurs | hoccurs)
        · exact hpart hoccurs
        · exact ih hrest (hnew _ hoccurs)

/-- What a replacement leaves in place at the front has no occurrence, when the new text and the
pattern disagree. -/
theorem not_infix_of_replaceChars_eq (hne : pattern ≠ []) (hself : clashes pattern pattern = false)
    (hdiffer : ∀ first second, new ++ first ≠ pattern ++ second) {front back rest : List Char}
    (h : replaceChars pattern new 0 (front ++ back) = front ++ rest) : ¬ pattern <:+: front := by
  intro hoccurs
  obtain ⟨before, after, rfl, hbefore⟩ := exists_first_of_infix hoccurs
  rw [List.append_assoc, List.append_assoc, replaceChars_append_pattern hne hself,
    replaceChars_of_not_infix new (hbefore hne), List.append_assoc, List.append_assoc] at h
  exact hdiffer _ _ (List.append_cancel_left h)

end Parts

theorem toList_replace (text old new : String) :
    (replace text old new).toList = replaceChars old.toList new.toList 0 text.toList :=
  String.toList_ofList

/-- The second text has the same parts as the first, with the new text between them in place of
the old one. -/
def Rejoined (old new text other : String) : Prop :=
  ∃ parts : List String, (∀ part ∈ parts, contains old part = false) ∧
    text = join old parts ∧ other = join new parts

/-- For a pattern that does not overlap itself, replacement is rejoining. -/
theorem replace_eq_iff_rejoined {old : String} (hne : old ≠ "")
    (hself : clashes old.toList old.toList = false) (new text other : String) :
    replace text old new = other ↔ Rejoined old new text other := by
  have hne_chars : old.toList ≠ [] := by simpa using hne
  constructor
  · rintro rfl
    obtain ⟨parts, -, hfree, hparts⟩ := exists_parts hne_chars text.toList
    have hchars : (parts.map String.ofList).map String.toList = parts := by
      simp [Function.comp_def]
    refine ⟨parts.map String.ofList, ?_, ?_, ?_⟩
    · simpa [contains] using hfree
    · rw [← String.toList_inj, join, String.toList_intercalate, hchars, hparts]
    · rw [← String.toList_inj, join, String.toList_intercalate, hchars, toList_replace, ← hparts,
        replaceChars_intercalate hne_chars hself hfree]
  · rintro ⟨parts, hfree, rfl, rfl⟩
    rw [← String.toList_inj, toList_replace, join, join, String.toList_intercalate,
      String.toList_intercalate, replaceChars_intercalate hne_chars hself]
    simpa [contains] using hfree

end ReflectNanobind.Library.Text
