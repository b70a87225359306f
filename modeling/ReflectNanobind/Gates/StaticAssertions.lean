import ReflectNanobind.Library.Replace
import ReflectNanobind.Gates.CrashEvidence

/-!
# Texts of static assertions

Diagnostics that consist of static-assertion failures only, in the two forms in which compilers print
them.  What a line adds around the texts of its author keeps every phrase of the classifier apart, before
and after the static-assertion phrases are dropped.  So a phrase is found in such a text exactly when it
is found in one of the author's texts.
-/

namespace ReflectNanobind.Gates

open Library

/-! ## Lines and texts -/

inductive AssertionLine where
  /-- `<location>: error: static assertion failed: <message>` -/
  | failed (location message : String)
  /-- `... static_assert(<condition>, <message>)` -/
  | quoted (before condition message : String)

namespace AssertionLine

def render : AssertionLine → String
  | .failed location message => location ++ ": error: static assertion failed: " ++ message
  | .quoted before condition message =>
      before ++ "static_assert(" ++ condition ++ ", " ++ message ++ ")"

/-- The arbitrary parts of a line. -/
def pieces : AssertionLine → List String
  | .failed location message => [location, message]
  | .quoted before condition message => [before, condition, message]

end AssertionLine

/-- Terminated lines, and perhaps a last one that is not. -/
structure AssertionText where
  lines : List AssertionLine
  last : Option AssertionLine

namespace AssertionText

def render (text : AssertionText) : String :=
  text.lines.foldr (fun line rest ↦ line.render ++ "\n" ++ rest)
    (text.last.elim "" AssertionLine.render)

def pieces (text : AssertionText) : List String :=
  (text.lines ++ text.last.toList).flatMap AssertionLine.pieces

end AssertionText

/-! ## Frames -/

/-- What stands around the pieces of a line, between its first colon and its second, or before its
parenthesis. -/
structure Frame where
  failed : List Char
  quoted : List Char

namespace Frame

variable (frame : Frame) (piece : String → List Char)

def line : AssertionLine → List Char
  | .failed location message =>
      piece location ++ ':' :: (frame.failed ++ ':' :: ' ' :: piece message)
  | .quoted before condition message =>
      piece before ++ (frame.quoted ++ '(' ::
        (piece condition ++ ',' :: ' ' :: (piece message ++ [')'])))

def text (text : AssertionText) : List Char :=
  text.lines.foldr (fun line rest ↦ frame.line piece line ++ '\n' :: rest)
    (text.last.elim [] (frame.line piece))

/-- The pattern has none of the characters that divide a line, does not start with a space, and does
not run into the quoted word. -/
def divides (pattern : List Char) : Bool :=
  [':', '(', ',', ')', '\n'].all (fun char ↦ !pattern.contains char) && !pattern.isEmpty &&
    pattern.head? != some ' ' && !Text.clashes pattern (frame.quoted ++ ['('])

section Divides

variable {frame piece} {pattern : List Char}

structure Divides (frame : Frame) (pattern : List Char) : Prop where
  nonempty : pattern ≠ []
  colon : ':' ∉ pattern
  parenthesis : '(' ∉ pattern
  comma : ',' ∉ pattern
  closing : ')' ∉ pattern
  lineFeed : '\n' ∉ pattern
  space : pattern.head? ≠ some ' '
  apart : ∀ rest, Text.Apart pattern (frame.quoted ++ '(' :: rest)

theorem divides_spec (h : frame.divides pattern = true) : frame.Divides pattern := by
  simp only [divides, List.all_cons, List.all_nil, Bool.and_true, Bool.and_eq_true,
    Bool.not_eq_true', List.contains_eq_mem, decide_eq_false_iff_not, List.isEmpty_eq_false_iff,
    bne_iff_ne] at h
  obtain ⟨⟨⟨⟨hcolon, hparenthesis, hcomma, hclosing, hlineFeed⟩, hne⟩, hspace⟩, hclashes⟩ := h
  refine ⟨hne, hcolon, hparenthesis, hcomma, hclosing, hlineFeed, hspace, fun rest ↦ ?_⟩
  have happend : frame.quoted ++ '(' :: rest = (frame.quoted ++ ['(']) ++ rest := by simp
  rw [happend]
  exact Text.apart_append hclashes rest

/-! ## Replacement in a framed text -/

/-- The frame in which a pattern is replaced. -/
def replace (frame : Frame) (pattern new : List Char) : Frame where
  failed := Text.replaceChars pattern new 0 frame.failed
  quoted := Text.replaceChars pattern new 0 frame.quoted

theorem Divides.replace_line (h : frame.Divides pattern) (new : List Char) (line : AssertionLine) :
    Text.replaceChars pattern new 0 (frame.line piece line) =
      (frame.replace pattern new).line (fun p ↦ Text.replaceChars pattern new 0 (piece p)) line := by
  cases line with
  | failed location message =>
      simp only [Frame.line, Frame.replace]
      rw [Text.replaceChars_append_cons new h.colon h.nonempty,
        Text.replaceChars_append_cons new h.colon h.nonempty,
        Text.replaceChars_cons new h.space h.nonempty]
  | quoted before condition message =>
      simp only [Frame.line, Frame.replace]
      rw [Text.replaceChars_append new (h.apart _) _ (Nat.zero_le _),
        Text.replaceChars_append_cons new h.parenthesis h.nonempty,
        Text.replaceChars_append_cons new h.comma h.nonempty,
        Text.replaceChars_cons new h.space h.nonempty,
        Text.replaceChars_append_cons new h.closing h.nonempty]
      rfl

theorem Divides.replace_text (h : frame.Divides pattern) (new : List Char) (text : AssertionText) :
    Text.replaceChars pattern new 0 (frame.text piece text) =
      (frame.replace pattern new).text (fun p ↦ Text.replaceChars pattern new 0 (piece p)) text := by
  obtain ⟨lines, last⟩ := text
  simp only [Frame.text]
  induction lines with
  | nil =>
      cases last with
      | none => rfl
      | some line => exact h.replace_line new line
  | cons line rest ih =>
      rw [List.foldr_cons, List.foldr_cons, Text.replaceChars_append_cons new h.lineFeed h.nonempty,
        h.replace_line, ih]

/-! ## Search in a framed text -/

theorem Divides.infix_line_iff (h : frame.Divides pattern) (hfailed : ¬ pattern <:+: frame.failed)
    (hquoted : ¬ pattern <:+: frame.quoted) (line : AssertionLine) :
    pattern <:+: frame.line piece line ↔ ∃ p ∈ line.pieces, pattern <:+: piece p := by
  cases line with
  | failed location message =>
      simp only [Frame.line, AssertionLine.pieces, List.exists_mem_cons_iff, List.not_mem_nil,
        false_and, exists_false, or_false]
      rw [Text.infix_append_cons h.nonempty h.colon, Text.infix_append_cons h.nonempty h.colon,
        Text.infix_cons_of_head h.nonempty h.space, or_iff_right hfailed]
  | quoted before condition message =>
      simp only [Frame.line, AssertionLine.pieces, List.exists_mem_cons_iff, List.not_mem_nil,
        false_and, exists_false, or_false]
      rw [Text.infix_append_of_apart h.nonempty (h.apart _),
        Text.infix_append_cons h.nonempty h.parenthesis, or_iff_right hquoted,
        Text.infix_append_cons h.nonempty h.comma, Text.infix_cons_of_head h.nonempty h.space,
        Text.infix_append_cons h.nonempty h.closing, List.infix_nil, or_iff_left h.nonempty]

theorem Divides.infix_text_iff (h : frame.Divides pattern) (hfailed : ¬ pattern <:+: frame.failed)
    (hquoted : ¬ pattern <:+: frame.quoted) (text : AssertionText) :
    pattern <:+: frame.text piece text ↔ ∃ p ∈ text.pieces, pattern <:+: piece p := by
  obtain ⟨lines, last⟩ := text
  simp only [Frame.text, AssertionText.pieces]
  induction lines with
  | nil =>
      cases last with
      | none => simp [h.nonempty]
      | some line => simpa using h.infix_line_iff hfailed hquoted line
  | cons line rest ih =>
      rw [List.foldr_cons, Text.infix_append_cons h.nonempty h.lineFeed,
        h.infix_line_iff hfailed hquoted, ih]
      simp only [List.cons_append, List.flatMap_cons, List.mem_append]
      constructor
      · rintro (⟨p, hp, hoccurs⟩ | ⟨p, hp, hoccurs⟩)
        · exact ⟨p, .inl hp, hoccurs⟩
        · exact ⟨p, .inr hp, hoccurs⟩
      · rintro ⟨p, hp | hp, hoccurs⟩
        · exact .inl ⟨p, hp, hoccurs⟩
        · exact .inr ⟨p, hp, hoccurs⟩

end Divides

end Frame

/-! ## What the classifier reads of a text -/

namespace AssertionText

variable (text : AssertionText)

/-- The frame of a text as it is printed, in lower case as well. -/
def printed : Frame where
  failed := " error: static assertion failed".toList
  quoted := "static_assert".toList

/-- The frame that is left when the static-assertion phrases are dropped. -/
def dropped : Frame where
  failed := " error: ".toList
  quoted := []

theorem toList_render_line (line : AssertionLine) :
    line.render.toList = printed.line String.toList line := by
  cases line with
  | failed location message =>
      have hmiddle : ": error: static assertion failed: ".toList =
          ':' :: (printed.failed ++ [':', ' ']) := by decide
      simp only [AssertionLine.render, Frame.line, String.toList_append, hmiddle]
      simp
  | quoted before condition message =>
      have hword : "static_assert(".toList = printed.quoted ++ ['('] := by decide
      have hcomma : ", ".toList = [',', ' '] := by decide
      have hclosing : ")".toList = [')'] := by decide
      simp only [AssertionLine.render, Frame.line, String.toList_append, hword, hcomma, hclosing]
      simp

theorem toList_render : text.render.toList = printed.text String.toList text := by
  obtain ⟨lines, last⟩ := text
  simp only [render, Frame.text]
  induction lines with
  | nil =>
      cases last with
      | none => rfl
      | some line => exact toList_render_line line
  | cons line rest ih =>
      rw [List.foldr_cons, List.foldr_cons, String.toList_append, String.toList_append, ih,
        toList_render_line, List.append_assoc]
      rfl

theorem toList_lower (piece : String) :
    (Text.lower piece).toList = piece.toList.flatMap Text.lowerChar := by
  rw [Text.lower, String.toList_ofList]

theorem flatMap_printed_line (line : AssertionLine) :
    (printed.line String.toList line).flatMap Text.lowerChar =
      printed.line (fun piece ↦ (Text.lower piece).toList) line := by
  have hfailed : printed.failed.flatMap Text.lowerChar = printed.failed := by decide +kernel
  have hquoted : printed.quoted.flatMap Text.lowerChar = printed.quoted := by decide +kernel
  cases line <;>
    simp [Frame.line, toList_lower, hfailed, hquoted, (by decide : Text.lowerChar ':' = [':']),
      (by decide : Text.lowerChar '(' = ['(']), (by decide : Text.lowerChar ',' = [',']),
      (by decide : Text.lowerChar ')' = [')']), (by decide : Text.lowerChar ' ' = [' '])]

theorem toList_lower_render :
    (Text.lower text.render).toList =
      printed.text (fun piece ↦ (Text.lower piece).toList) text := by
  rw [toList_lower, toList_render]
  obtain ⟨lines, last⟩ := text
  simp only [Frame.text]
  induction lines with
  | nil =>
      cases last with
      | none => rfl
      | some line => exact flatMap_printed_line line
  | cons line rest ih =>
      rw [List.foldr_cons, List.foldr_cons, List.flatMap_append, List.flatMap_cons, ih,
        flatMap_printed_line, (by decide : Text.lowerChar '\n' = ['\n']), List.singleton_append]

/-- Dropping the phrases from a text drops them from its frame and from its pieces. -/
theorem toList_drop_lower_render :
    (dropStaticAssertions (Text.lower text.render)).toList =
      dropped.text (fun piece ↦ (dropStaticAssertions (Text.lower piece)).toList) text := by
  have hfirst : printed.Divides "static assertion failed".toList :=
    Frame.divides_spec (by decide)
  have hsecond : (printed.replace "static assertion failed".toList "".toList).Divides
      "static_assert".toList := Frame.divides_spec (by decide)
  have hframe : (printed.replace "static assertion failed".toList "".toList).replace
      "static_assert".toList "".toList = dropped := by
    unfold Frame.replace
    congr 1
  simp only [dropStaticAssertions, Text.replace, String.toList_ofList]
  rw [toList_lower_render, hfirst.replace_text, hsecond.replace_text, hframe]

/-- A phrase that the frame keeps apart is found in the text exactly when it is found in a piece. -/
theorem contains_iff (read : String → String) {frame : Frame}
    (hread : (read text.render).toList = frame.text (fun piece ↦ (read piece).toList) text)
    {phrase : String} (hdivides : frame.divides phrase.toList = true)
    (hfailed : ¬ phrase.toList <:+: frame.failed) (hquoted : ¬ phrase.toList <:+: frame.quoted) :
    Text.contains phrase (read text.render) = true ↔
      ∃ piece ∈ text.pieces, Text.contains phrase (read piece) = true := by
  simp only [Text.contains, decide_eq_true_iff]
  rw [hread]
  exact (Frame.divides_spec hdivides).infix_text_iff hfailed hquoted text

theorem namesTypedAllocation_iff : namesTypedAllocation text.render = true ↔
    ∃ piece ∈ text.pieces, namesTypedAllocation piece = true :=
  text.contains_iff id (toList_render text) (by decide) (by decide) (by decide)

/-- The phrases that are tried on the text in lower case. -/
theorem contains_lower_iff {phrase : String} (hdivides : printed.divides phrase.toList = true)
    (hfailed : ¬ phrase.toList <:+: printed.failed) (hquoted : ¬ phrase.toList <:+: printed.quoted) :
    Text.contains phrase (Text.lower text.render) = true ↔
      ∃ piece ∈ text.pieces, Text.contains phrase (Text.lower piece) = true :=
  text.contains_iff Text.lower (toList_lower_render text) hdivides hfailed hquoted

theorem namesSlocIce_iff : namesSlocIce text.render = true ↔
    ∃ piece ∈ text.pieces, namesSlocIce piece = true := by
  simp only [namesSlocIce, Bool.or_eq_true, and_or_left, exists_or]
  rw [text.contains_lower_iff (by decide) (by decide) (by decide),
    text.contains_lower_iff (by decide) (by decide) (by decide)]

theorem namesBudget_iff : namesBudget text.render = true ↔
    ∃ piece ∈ text.pieces, namesBudget piece = true := by
  simp only [namesBudget, Bool.or_eq_true, and_or_left, exists_or]
  rw [text.contains_lower_iff (by decide) (by decide) (by decide),
    text.contains_lower_iff (by decide) (by decide) (by decide)]

/-- No crash marker runs into what is left of the frame. -/
theorem marker_divides : ∀ marker ∈ crashMarkers, dropped.divides marker.toList = true ∧
    ¬ marker.toList <:+: dropped.failed ∧ ¬ marker.toList <:+: dropped.quoted := by decide

theorem namesCrash_iff : namesCrash text.render = true ↔
    ∃ piece ∈ text.pieces, namesCrash piece = true := by
  simp only [namesCrash, List.any_eq_true]
  have hmarker : ∀ marker ∈ crashMarkers,
      (Text.contains marker (dropStaticAssertions (Text.lower text.render)) = true ↔
        ∃ piece ∈ text.pieces,
          Text.contains marker (dropStaticAssertions (Text.lower piece)) = true) := by
    intro marker hmem
    obtain ⟨hdivides, hfailed, hquoted⟩ := marker_divides marker hmem
    exact text.contains_iff (fun piece ↦ dropStaticAssertions (Text.lower piece))
      (toList_drop_lower_render text) hdivides hfailed hquoted
  constructor
  · rintro ⟨marker, hmem, hcontains⟩
    obtain ⟨piece, hpiece, hfound⟩ := (hmarker marker hmem).mp hcontains
    exact ⟨piece, hpiece, marker, hmem, hfound⟩
  · rintro ⟨piece, hpiece, marker, hmem, hfound⟩
    exact ⟨marker, hmem, (hmarker marker hmem).mpr ⟨piece, hpiece, hfound⟩⟩

end AssertionText

/-- A text of static assertions whose pieces name no budget and no typed allocation is no suspicion
exactly when no piece names the source-location ICE and none has a crash marker left once the
static-assertion phrases are dropped from it. -/
theorem detectToolchainBug_assertions_iff (text : AssertionText)
    (h : ∀ piece ∈ text.pieces, namesTypedAllocation piece = false ∧ namesBudget piece = false) :
    detectToolchainBug text.render = .none ↔
      ∀ piece ∈ text.pieces, namesSlocIce piece = false ∧ namesCrash piece = false := by
  have htyped : namesTypedAllocation text.render = false := by
    rw [← Bool.not_eq_true, text.namesTypedAllocation_iff]
    rintro ⟨piece, hpiece, htrue⟩
    exact Bool.false_ne_true ((h piece hpiece).1.symm.trans htrue)
  have hbudget : namesBudget text.render = false := by
    rw [← Bool.not_eq_true, text.namesBudget_iff]
    rintro ⟨piece, hpiece, htrue⟩
    exact Bool.false_ne_true ((h piece hpiece).2.symm.trans htrue)
  rw [detectToolchainBug_eq_none_iff, recognised, htyped, hbudget, Bool.false_or, Bool.or_false,
    Bool.or_eq_false_iff, ← Bool.not_eq_true, ← Bool.not_eq_true, text.namesSlocIce_iff,
    text.namesCrash_iff]
  simp only [not_exists, not_and, Bool.not_eq_true, ← forall_and]

/-- A completeness gate that names a missing caster. -/
def missingCaster : AssertionText where
  lines := [.failed "bind.cpp:3:1" "no caster for std::byte"]
  last := some (.quoted "bind.cpp:3:1: note: " "has_caster" "\"missing\"")

theorem detectToolchainBug_assertions_iff_missingCaster :
    (∀ piece ∈ missingCaster.pieces,
      namesTypedAllocation piece = false ∧ namesBudget piece = false) ∧
    (detectToolchainBug missingCaster.render = .none ↔
      ∀ piece ∈ missingCaster.pieces, namesSlocIce piece = false ∧ namesCrash piece = false) := by
  have hpieces : ∀ piece ∈ missingCaster.pieces,
      namesTypedAllocation piece = false ∧ namesBudget piece = false := by decide
  exact ⟨hpieces, detectToolchainBug_assertions_iff missingCaster hpieces⟩

/-- A library that asserts statically that a branch cannot be reached. -/
def unreachableBranch : AssertionText where
  lines := [.failed "visit.hpp:12:5" "unreachable branch"]
  last := none

/-- It is taken for a compiler crash. -/
theorem static_assertion_taken_for_crash :
    (∀ piece ∈ unreachableBranch.pieces,
      namesTypedAllocation piece = false ∧ namesBudget piece = false) ∧
    detectToolchainBug unreachableBranch.render = .suspected "compiler-crash" "unreachable" "" :=
  ⟨by decide, by decide +kernel⟩

end ReflectNanobind.Gates
