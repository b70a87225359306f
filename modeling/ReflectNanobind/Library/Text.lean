import Mathlib.Data.List.Infix
import Mathlib.Data.List.TakeWhile

/-!
# Strings as the Python standard library treats them

Line splitting, stripping, lower-casing, substring search and deletion on decoded text, and the
strict decoding of captured bytes.  Every operation is a structural recursion on the characters, so
that it can be evaluated.  The main rule says which lines a text has after one more terminated line
is appended to it: the new line stands alone, or it is glued to an unterminated last line.
-/

namespace ReflectNanobind.Library.Text

/-! ## Lines -/

/-- The line boundaries of `str.splitlines`. -/
def isLineBreak (char : Char) : Bool :=
  [0x0a, 0x0b, 0x0c, 0x0d, 0x1c, 0x1d, 0x1e, 0x85, 0x2028, 0x2029].contains char.toNat

/-- `afterReturn` records that the previous character was a carriage return, so that a line feed
after it belongs to the same boundary. -/
def splitChars : Bool → List Char → List (List Char)
  | _, [] => []
  | afterReturn, char :: rest =>
      if afterReturn && char.toNat == 0x0a then splitChars false rest
      else if isLineBreak char then [] :: splitChars (char.toNat == 0x0d) rest
      else match splitChars false rest with
        | [] => [[char]]
        | line :: lines => (char :: line) :: lines

/-- `str.splitlines()`. -/
def splitlines (text : String) : List String :=
  (splitChars false text.toList).map String.ofList

/-- A check of the characters one by one, for texts that are given. -/
theorem one_line_of_all {chars : List Char} (h : chars.all (fun char ↦ !isLineBreak char) = true) :
    ∀ char ∈ chars, isLineBreak char = false := by
  simpa using h

theorem lineFeed_ne_of_not_lineBreak {char : Char} (h : isLineBreak char = false) :
    (char.toNat == 0x0a) = false := by
  by_contra hne
  simp [isLineBreak, (by simpa using hne : char.toNat = 0x0a)] at h

/-- A character that is no boundary goes in front of the first line. -/
theorem splitChars_cons {char : Char} (hchar : isLineBreak char = false) {rest line : List Char}
    {lines : List (List Char)} (h : splitChars false rest = line :: lines) (afterReturn : Bool) :
    splitChars afterReturn (char :: rest) = (char :: line) :: lines := by
  rw [splitChars, lineFeed_ne_of_not_lineBreak hchar, Bool.and_false, if_neg Bool.false_ne_true,
    if_neg (ne_true_of_eq_false hchar), h]

/-- A terminated line without a boundary inside stands before the lines of the rest. -/
theorem splitChars_line_append {line : List Char} (hbreaks : ∀ char ∈ line, isLineBreak char = false)
    (rest : List Char) :
    splitChars false (line ++ '\n' :: rest) = line :: splitChars false rest := by
  induction line with
  | nil => rfl
  | cons char line ih =>
      obtain ⟨hchar, hline⟩ := List.forall_mem_cons.mp hbreaks
      exact splitChars_cons hchar (ih hline) false

/-- A terminated line without a boundary inside is one line. -/
theorem splitChars_line {line : List Char} (hline : line ≠ [])
    (hbreaks : ∀ char ∈ line, isLineBreak char = false) (afterReturn : Bool) :
    splitChars afterReturn (line ++ ['\n']) = [line] := by
  obtain ⟨char, rest, rfl⟩ := List.exists_cons_of_ne_nil hline
  obtain ⟨hchar, hrest⟩ := List.forall_mem_cons.mp hbreaks
  exact splitChars_cons hchar (splitChars_line_append hrest []) afterReturn

section Characters

variable {char head : Char}

/-- A boundary adds no character to the lines. -/
theorem mem_splitChars_break (hhead : isLineBreak head = true) (rest : List Char)
    (afterReturn : Bool) :
    ∃ after, (∃ line ∈ splitChars afterReturn (head :: rest), char ∈ line) ↔
      ∃ line ∈ splitChars after rest, char ∈ line := by
  rw [splitChars]
  split
  · exact ⟨false, Iff.rfl⟩
  · exact ⟨head.toNat == 0x0d, by simp⟩

/-- Any other character goes into the first line. -/
theorem mem_splitChars_cons (hhead : isLineBreak head = false) (rest : List Char)
    (afterReturn : Bool) :
    (∃ line ∈ splitChars afterReturn (head :: rest), char ∈ line) ↔
      char = head ∨ ∃ line ∈ splitChars false rest, char ∈ line := by
  rw [splitChars, lineFeed_ne_of_not_lineBreak hhead, Bool.and_false, if_neg Bool.false_ne_true,
    if_neg (ne_true_of_eq_false hhead)]
  cases splitChars false rest <;> simp [or_assoc]

/-- The lines hold the characters of the text less its boundaries. -/
theorem mem_splitChars_iff (text : List Char) (afterReturn : Bool) :
    (∃ line ∈ splitChars afterReturn text, char ∈ line) ↔
      char ∈ text ∧ isLineBreak char = false := by
  induction text generalizing afterReturn with
  | nil => simp [splitChars]
  | cons head rest ih =>
      cases hhead : isLineBreak head with
      | true =>
          obtain ⟨after, hlines⟩ := mem_splitChars_break hhead rest afterReturn
          rw [hlines, ih, List.mem_cons]
          refine and_congr_left fun hchar ↦ (or_iff_right ?_).symm
          rintro rfl
          exact Bool.false_ne_true (hchar.symm.trans hhead)
      | false =>
          rw [mem_splitChars_cons hhead, ih, List.mem_cons]
          constructor
          · rintro (rfl | ⟨hrest, hchar⟩)
            · exact ⟨.inl rfl, hhead⟩
            · exact ⟨.inr hrest, hchar⟩
          · rintro ⟨rfl | hrest, hchar⟩
            · exact .inl rfl
            · exact .inr ⟨hrest, hchar⟩

end Characters

theorem splitChars_ne_nil {text : List Char} (h : text ≠ []) : splitChars false text ≠ [] := by
  obtain ⟨char, rest, rfl⟩ := List.exists_cons_of_ne_nil h
  rw [splitChars, Bool.false_and]
  simp only [Bool.false_eq_true, if_false]
  split
  · exact List.cons_ne_nil _ _
  · split <;> exact List.cons_ne_nil _ _

section AppendLine

variable {line : List Char}

/-- After a text that is empty or ends with a line boundary, a terminated line stands alone. -/
theorem splitChars_append_of_terminated (hline : line ≠ [])
    (hbreaks : ∀ char ∈ line, isLineBreak char = false) {text : List Char}
    (hend : ∀ char ∈ text.getLast?, isLineBreak char = true) (afterReturn : Bool) :
    splitChars afterReturn (text ++ (line ++ ['\n'])) = splitChars afterReturn text ++ [line] := by
  induction text generalizing afterReturn with
  | nil => exact splitChars_line hline hbreaks afterReturn
  | cons char text ih =>
      have hrest : ∀ last ∈ text.getLast?, isLineBreak last = true := by
        intro last hlast
        apply hend last
        rw [List.getLast?_cons, Option.mem_def.mp hlast]
        rfl
      simp only [List.cons_append, splitChars]
      split
      · exact ih hrest false
      split
      · rw [ih hrest, List.cons_append]
      next hchar =>
        -- a character that is no boundary is not the last one
        have htext : text ≠ [] := by
          rintro rfl
          exact hchar (hend char rfl)
        rw [ih hrest]
        obtain ⟨first, others, hsplit⟩ := List.exists_cons_of_ne_nil (splitChars_ne_nil htext)
        rw [hsplit]
        rfl

/-- After a character that is no boundary, a terminated line is glued to what that character ends. -/
theorem splitChars_append_glued (hbreaks : ∀ char ∈ line, isLineBreak char = false) {last : Char}
    (hlast : isLineBreak last = false) (text : List Char) (afterReturn : Bool) :
    ∃ first front, splitChars afterReturn (text ++ [last]) = first ++ [front ++ [last]] ∧
      splitChars afterReturn (text ++ [last] ++ (line ++ ['\n'])) =
        first ++ [front ++ [last] ++ line] := by
  induction text generalizing afterReturn with
  | nil =>
      refine ⟨[], [], ?_, ?_⟩
      · simp [splitChars, hlast, lineFeed_ne_of_not_lineBreak hlast]
      · exact splitChars_line (List.cons_ne_nil last line)
          (List.forall_mem_cons.mpr ⟨hlast, hbreaks⟩) afterReturn
  | cons char text ih =>
      simp only [List.cons_append, splitChars]
      split
      · exact ih false
      split
      · obtain ⟨first, front, hold, hnew⟩ := ih (char.toNat == 0x0d)
        exact ⟨[] :: first, front, by rw [hold, List.cons_append],
          by rw [hnew, List.cons_append]⟩
      · obtain ⟨first, front, hold, hnew⟩ := ih false
        rw [hold, hnew]
        cases first with
        | nil => exact ⟨[], char :: front, by simp, by simp⟩
        | cons head tail => exact ⟨(char :: head) :: tail, front, by simp, by simp⟩

end AppendLine

/-! ## Printed lines -/

/-- The text has no line boundary. -/
def OneLine (text : String) : Prop := ∀ char ∈ text.toList, isLineBreak char = false

theorem oneLine_append {first second : String} :
    OneLine (first ++ second) ↔ OneLine first ∧ OneLine second := by
  simp only [OneLine, String.toList_append, List.forall_mem_append]

theorem oneLine_of_mem_splitlines {text line : String} (h : line ∈ splitlines text) :
    OneLine line := by
  obtain ⟨chars, hchars, rfl⟩ := List.mem_map.mp h
  intro char hchar
  rw [String.toList_ofList] at hchar
  exact ((mem_splitChars_iff _ _).mp ⟨chars, hchars, hchar⟩).2

/-- A character between the digit zero and the last letter is no line boundary. -/
theorem not_lineBreak_of_range {char : Char} (h : 48 ≤ char.toNat ∧ char.toNat ≤ 122) :
    isLineBreak char = false := by
  have hne : ∀ code ∈ [0x0a, 0x0b, 0x0c, 0x0d, 0x1c, 0x1d, 0x1e, 0x85, 0x2028, 0x2029],
      char.toNat ≠ code := by
    simp only [List.forall_mem_cons, List.not_mem_nil, false_implies, implies_true, and_true]
    omega
  rw [isLineBreak, List.contains_eq_mem, decide_eq_false_iff_not]
  exact fun hmem ↦ hne _ hmem rfl

theorem oneLine_toString (number : ℕ) : OneLine (toString number) := by
  intro char hchar
  have hmem : char ∈ Nat.toDigits 10 number := Nat.toList_repr ▸ hchar
  have hdigit : char.isDigit = true := Nat.isDigit_of_mem_toDigits (by decide) (by decide) hmem
  have hcode : 48 ≤ char.toNat ∧ char.toNat ≤ 57 := by
    simpa [Char.isDigit, UInt32.le_iff_toNat_le] using hdigit
  exact not_lineBreak_of_range ⟨hcode.1, hcode.2.trans (by decide)⟩

theorem oneLine_int (number : ℤ) : OneLine (toString number) := by
  cases number with
  | ofNat number => exact oneLine_toString number
  | negSucc number =>
      have hsign : OneLine "-" := one_line_of_all (by decide)
      exact oneLine_append.mpr ⟨hsign, oneLine_toString (number + 1)⟩

/-- What `print` writes, line by line. -/
def printLines (lines : List String) : String :=
  lines.foldr (fun line rest ↦ line ++ "\n" ++ rest) ""

theorem printLines_cons (line : String) (rest : List String) :
    printLines (line :: rest) = line ++ "\n" ++ printLines rest := rfl

theorem printLines_append (first second : List String) :
    printLines (first ++ second) = printLines first ++ printLines second := by
  induction first with
  | nil => exact (String.empty_append).symm
  | cons line rest ih =>
      simp only [List.cons_append, printLines_cons, ih, String.append_assoc]

/-- Printed lines without a boundary inside are read back, before the lines of what follows. -/
theorem splitlines_printLines_append {lines : List String} (h : ∀ line ∈ lines, OneLine line)
    (rest : String) : splitlines (printLines lines ++ rest) = lines ++ splitlines rest := by
  induction lines with
  | nil => rw [printLines, List.foldr_nil, String.empty_append, List.nil_append]
  | cons line lines ih =>
      obtain ⟨hline, hlines⟩ := List.forall_mem_cons.mp h
      have hchars : (printLines (line :: lines) ++ rest).toList =
          line.toList ++ '\n' :: (printLines lines ++ rest).toList := by
        simp [printLines_cons]
      rw [splitlines, hchars, splitChars_line_append hline, List.map_cons, String.ofList_toList,
        ← splitlines, ih hlines, List.cons_append]

/-! ## White space and case -/

/-- `str.isspace` for one character. -/
def isSpace (char : Char) : Bool :=
  let code := char.toNat
  (0x09 ≤ code && code ≤ 0x0d) || (0x1c ≤ code && code ≤ 0x20) || code == 0x85 || code == 0xa0 ||
    code == 0x1680 || (0x2000 ≤ code && code ≤ 0x200a) || code == 0x2028 || code == 0x2029 ||
    code == 0x202f || code == 0x205f || code == 0x3000

/-- `str.strip()`. -/
def strip (text : String) : String :=
  String.ofList ((text.toList.dropWhile isSpace).reverse.dropWhile isSpace).reverse

theorem oneLine_strip {text : String} (h : OneLine text) : OneLine (strip text) := by
  intro char hchar
  rw [strip, String.toList_ofList, List.mem_reverse] at hchar
  have hstripped := (List.dropWhile_sublist _).subset hchar
  exact h char ((List.dropWhile_sublist _).subset (List.mem_reverse.mp hstripped))

/-- A text is blank exactly when it has white space only. -/
theorem strip_eq_empty_iff (text : String) :
    strip text = "" ↔ ∀ char ∈ text.toList, isSpace char = true := by
  rw [strip, String.ofList_eq_empty_iff, List.reverse_eq_nil_iff, List.dropWhile_eq_nil_iff]
  simp only [List.mem_reverse]
  constructor
  · intro h char hchar
    rw [← List.takeWhile_append_dropWhile (l := text.toList), List.mem_append] at hchar
    exact hchar.elim List.mem_takeWhile_imp (h char)
  · intro h char hchar
    exact h char ((List.dropWhile_sublist _).subset hchar)

theorem isSpace_of_lineBreak {char : Char} (h : isLineBreak char = true) : isSpace char = true := by
  have hcode : char.toNat ∈
      [0x0a, 0x0b, 0x0c, 0x0d, 0x1c, 0x1d, 0x1e, 0x85, 0x2028, 0x2029] := List.contains_iff_mem.mp h
  have hall : ∀ code ∈ [0x0a, 0x0b, 0x0c, 0x0d, 0x1c, 0x1d, 0x1e, 0x85, 0x2028, 0x2029],
      ∀ other : Char, other.toNat = code → isSpace other = true := by
    simp +contextual [isSpace]
  exact hall _ hcode char rfl

/-- A text is blank exactly when each of its lines is. -/
theorem strip_lines_iff (text : String) :
    (∀ line ∈ splitlines text, strip line = "") ↔ strip text = "" := by
  simp only [strip_eq_empty_iff, splitlines, List.forall_mem_map, String.toList_ofList]
  constructor
  · intro h char hchar
    cases hbreak : isLineBreak char with
    | true => exact isSpace_of_lineBreak hbreak
    | false =>
        obtain ⟨line, hline, hmem⟩ := (mem_splitChars_iff text.toList false).mpr ⟨hchar, hbreak⟩
        exact h line hline char hmem
  · intro h line hline char hchar
    exact h char ((mem_splitChars_iff _ _).mp ⟨line, hline, hchar⟩).1

/-- `str.lower()` as far as ASCII text can be found in its result: besides the ASCII letters only
U+0130 and U+212A lower to text with an ASCII letter in it. Other letters stay as they are. -/
def lowerChar (char : Char) : List Char :=
  if char.toNat = 0x130 then ['i', Char.ofNat 0x307]
  else if char.toNat = 0x212a then ['k']
  else [char.toLower]

def lower (text : String) : String :=
  String.ofList (text.toList.flatMap lowerChar)

theorem not_lineBreak_toLower {char : Char} (h : isLineBreak char = false) :
    isLineBreak char.toLower = false := by
  by_cases hupper : char.val ≥ 'A'.val ∧ char.val ≤ 'Z'.val
  · have hlower : char.toLower = _ := dif_pos hupper
    have hcode : 65 ≤ char.val.toNat ∧ char.val.toNat ≤ 90 := by
      simpa [UInt32.le_iff_toNat_le] using hupper
    have hshift : ('a'.val - 'A'.val).toNat = 32 := by decide
    have hsum : (char.val + ('a'.val - 'A'.val)).toNat = char.val.toNat + 32 := by
      rw [UInt32.toNat_add, hshift]
      exact Nat.mod_eq_of_lt (by omega)
    rw [hlower]
    apply not_lineBreak_of_range
    rw [Char.toNat, hsum]
    omega
  · have hsame : char.toLower = char := dif_neg hupper
    rw [hsame]
    exact h

theorem oneLine_lower {text : String} (h : OneLine text) : OneLine (lower text) := by
  intro char hchar
  rw [lower, String.toList_ofList] at hchar
  obtain ⟨original, horiginal, hlower⟩ := List.mem_flatMap.mp hchar
  unfold lowerChar at hlower
  split at hlower
  · rcases List.mem_cons.mp hlower with rfl | hlower
    · rfl
    · rw [List.mem_singleton.mp hlower]
      rfl
  split at hlower
  · rw [List.mem_singleton.mp hlower]
    rfl
  · rw [List.mem_singleton.mp hlower]
    exact not_lineBreak_toLower (h original horiginal)

/-! ## Substrings -/

/-- `pattern in text`. -/
def contains (pattern text : String) : Bool :=
  decide (pattern.toList <:+: text.toList)

/-- `text.startswith(start)`. -/
def startsWith (text start : String) : Bool :=
  start.toList.isPrefixOf text.toList

/-- `text.endswith(ending)`. -/
def endsWith (text ending : String) : Bool :=
  ending.toList.isSuffixOf text.toList

/-- A mark whose first character does not recur cannot start in a line that it is glued to. -/
theorem not_prefix_glued {head : Char} {tail last : List Char} (hhead : head ∉ tail)
    (hlast : last ≠ []) (hstart : ¬ (head :: tail) <+: last) (rest : List Char) :
    ¬ (head :: tail) <+: last ++ (head :: tail ++ rest) := by
  intro hstarts
  rcases Nat.lt_or_ge last.length (head :: tail).length with hshort | hlong
  · -- the mark would have its first character once more, where the line ends
    have hpositive : 0 < last.length := List.length_pos_iff.mpr hlast
    have hrecur : (head :: tail)[last.length]? = some head := by
      obtain ⟨after, hafter⟩ := hstarts
      rw [← List.getElem?_append_left hshort, hafter,
        List.getElem?_append_right (Nat.le_refl _), Nat.sub_self]
      rfl
    obtain ⟨k, hk⟩ : ∃ k, last.length = k + 1 := ⟨last.length - 1, by omega⟩
    rw [hk, List.getElem?_cons_succ] at hrecur
    exact hhead (List.mem_of_getElem? hrecur)
  · exact hstart (List.prefix_of_prefix_length_le hstarts (List.prefix_append _ _) hlong)

/-- The text is empty or ends with a line boundary. -/
def terminated (text : String) : Bool := text.toList.getLast?.all isLineBreak

section Marked

variable {text mark rest : String} {head : Char} {tail : List Char}

/-- A marked line that is appended to a terminated text without one is the first marked line. -/
theorem find_marked_line (hmark : mark.toList = head :: tail)
    (hbreaks : ∀ char ∈ (mark ++ rest).toList, isLineBreak char = false)
    (hfree : ∀ line ∈ splitlines text, startsWith line mark = false)
    (hend : terminated text = true) :
    (splitlines (text ++ (mark ++ rest ++ "\n"))).find? (startsWith · mark) = some (mark ++ rest) := by
  have hchars : (text ++ (mark ++ rest ++ "\n")).toList =
      text.toList ++ ((mark ++ rest).toList ++ ['\n']) := by simp
  have hne : (mark ++ rest).toList ≠ [] := by simp [hmark]
  have hlast : ∀ char ∈ text.toList.getLast?, isLineBreak char = true := by
    simpa [terminated, Option.all_eq_true] using hend
  unfold splitlines at hfree ⊢
  rw [hchars, splitChars_append_of_terminated hne hbreaks hlast, List.map_append, List.find?_append,
    List.find?_eq_none.mpr fun line hline ↦ by simp [hfree line hline]]
  simp [startsWith]

/-- Glued to the unterminated end of a text without a marked line it is no marked line at all. -/
theorem find_glued_line (hmark : mark.toList = head :: tail) (hhead : head ∉ tail)
    (hbreaks : ∀ char ∈ (mark ++ rest).toList, isLineBreak char = false)
    (hfree : ∀ line ∈ splitlines text, startsWith line mark = false)
    (hend : terminated text = false) :
    (splitlines (text ++ (mark ++ rest ++ "\n"))).find? (startsWith · mark) = none := by
  have hchars : (text ++ (mark ++ rest ++ "\n")).toList =
      text.toList ++ ((mark ++ rest).toList ++ ['\n']) := by simp
  obtain ⟨front, last, htext, hlast⟩ : ∃ front last,
      text.toList = front ++ [last] ∧ isLineBreak last = false := by
    rcases List.eq_nil_or_concat text.toList with hnil | ⟨front, last, hconcat⟩
    · simp [terminated, hnil] at hend
    · rw [List.concat_eq_append] at hconcat
      exact ⟨front, last, hconcat, by simpa [terminated, hconcat] using hend⟩
  unfold splitlines at hfree ⊢
  rw [hchars]
  rw [htext] at hfree ⊢
  obtain ⟨first, before, hold, hglued⟩ := splitChars_append_glued hbreaks hlast front false
  rw [hold] at hfree
  rw [hglued, List.find?_eq_none]
  intro line hline
  rw [List.map_append, List.mem_append] at hline
  rcases hline with hfirst | hline
  · have hline := hfree line (by rw [List.map_append]; exact List.mem_append_left _ hfirst)
    simp [hline]
  · obtain rfl : line = String.ofList (before ++ [last] ++ (mark ++ rest).toList) := by
      simpa using hline
    have hlastFree := hfree (String.ofList (before ++ [last])) (by simp)
    have hstart : ¬ (head :: tail) <+: before ++ [last] := by
      intro h
      simp [startsWith, hmark, List.isPrefixOf_iff_prefix.mpr h] at hlastFree
    have hgluedFree := not_prefix_glued hhead (by simp) hstart rest.toList
    simpa [startsWith, hmark, List.isPrefixOf_iff_prefix] using hgluedFree

end Marked

/-- Left-to-right replacement; `skip` counts the characters of a match still to be dropped. -/
def replaceChars (old new : List Char) : ℕ → List Char → List Char
  | _, [] => []
  | skip + 1, _ :: rest => replaceChars old new skip rest
  | 0, char :: rest =>
      if old.isPrefixOf (char :: rest) then
        new ++ replaceChars old new (old.length - 1) rest
      else char :: replaceChars old new 0 rest

/-- `text.replace(old, new)` for a nonempty `old`. -/
def replace (text old new : String) : String :=
  String.ofList (replaceChars old.toList new.toList 0 text.toList)

/-- `text.split("=", 1)[1]` for a text that holds an equals sign. -/
def afterEquals (text : String) : String :=
  String.ofList ((text.toList.dropWhile (· != '=')).drop 1)

theorem oneLine_afterEquals {text : String} (h : OneLine text) : OneLine (afterEquals text) := by
  intro char hchar
  rw [afterEquals, String.toList_ofList] at hchar
  exact h char ((List.dropWhile_sublist _).subset (List.mem_of_mem_drop hchar))

/-- `separator.join(texts)`. -/
def join (separator : String) (texts : List String) : String :=
  separator.intercalate texts

/-! ## Decoding -/

/-- Universal newlines: a carriage return, alone or before a line feed, reads as a line feed. -/
def universalNewlines : Bool → List Char → List Char
  | _, [] => []
  | afterReturn, char :: rest =>
      if char = '\r' then '\n' :: universalNewlines true rest
      else if afterReturn && char == '\n' then universalNewlines false rest
      else char :: universalNewlines false rest

/-- Captured text, with its line ends translated. -/
def captured (text : String) : String := String.ofList (universalNewlines false text.toList)

theorem universalNewlines_append {line : List Char} (h : '\r' ∉ line) (rest : List Char) :
    universalNewlines false (line ++ rest) = line ++ universalNewlines false rest := by
  induction line with
  | nil => rfl
  | cons char line ih =>
      obtain ⟨hchar, hline⟩ := not_or.mp (mt List.mem_cons.mpr h)
      rw [List.cons_append, universalNewlines, if_neg (Ne.symm hchar), Bool.false_and, ih hline]
      rfl

theorem not_mem_of_oneLine {line : String} (h : OneLine line) : '\r' ∉ line.toList :=
  fun hmem ↦ absurd (h _ hmem) (by decide)

/-- Printed lines without a boundary inside are captured as they are. -/
theorem captured_printLines_append {lines : List String} (h : ∀ line ∈ lines, OneLine line)
    (rest : String) : captured (printLines lines ++ rest) = printLines lines ++ captured rest := by
  have hreturn : '\r' ∉ (printLines lines).toList := by
    induction lines with
    | nil => simp [printLines]
    | cons line lines ih =>
        obtain ⟨hline, hlines⟩ := List.forall_mem_cons.mp h
        simp only [printLines_cons, String.toList_append, List.mem_append]
        rintro ((hmem | hmem) | hmem)
        · exact not_mem_of_oneLine hline hmem
        · exact absurd hmem (by decide)
        · exact ih hlines hmem
  rw [captured, String.toList_append, universalNewlines_append hreturn, String.ofList_append,
    String.ofList_toList, captured]

/-- Text-mode reading with the UTF-8 locale encoding and strict errors. -/
def decode (bytes : ByteArray) : Option String :=
  (String.fromUTF8? bytes).map fun text ↦ String.ofList (universalNewlines false text.toList)

example : decode ⟨#[0x6f, 0x6b, 0x0d, 0x0a]⟩ = some "ok\n" := by decide

end ReflectNanobind.Library.Text
