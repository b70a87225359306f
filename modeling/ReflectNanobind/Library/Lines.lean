import ReflectNanobind.Library.Text

/-!
# Lines of a text file

The lines that a reader in text mode finds in a file, and the rows of a Markdown table under a heading.
A printed text without a line end inside is read back as one line, in front of the lines that follow.
No line that is read holds a line end, so that a printed text with one inside is no line of the file.
-/

namespace ReflectNanobind.Library.Lines

open Text

/-! ## Line ends -/

/-- Reading in text mode ends no line inside the text. -/
def Unbroken (text : String) : Prop := '\n' ∉ text.toList ∧ '\r' ∉ text.toList

instance : DecidablePred Unbroken := fun _ ↦ inferInstanceAs (Decidable (_ ∧ _))

theorem unbroken_append {first second : String} :
    Unbroken (first ++ second) ↔ Unbroken first ∧ Unbroken second := by
  simp only [Unbroken, String.toList_append, List.mem_append, not_or]
  exact and_and_and_comm

theorem unbroken_of_oneLine {text : String} (h : OneLine text) : Unbroken text :=
  ⟨fun hmem ↦ absurd (h _ hmem) (by decide), not_mem_of_oneLine h⟩

theorem unbroken_join {separator : String} (hseparator : Unbroken separator) (texts : List String) :
    Unbroken (join separator texts) ↔ ∀ text ∈ texts, Unbroken text := by
  induction texts with
  | nil => simp [join, Unbroken]
  | cons text texts ih =>
      cases texts with
      | nil => simp [join]
      | cons next texts =>
          have hjoin : join separator (text :: next :: texts) =
              text ++ separator ++ join separator (next :: texts) :=
            String.intercalate_cons_cons
          calc Unbroken (join separator (text :: next :: texts))
              ↔ (Unbroken text ∧ Unbroken separator) ∧ ∀ line ∈ next :: texts, Unbroken line := by
                rw [hjoin, unbroken_append, unbroken_append, ih]
            _ ↔ ∀ line ∈ text :: next :: texts, Unbroken line := by
                rw [and_iff_left hseparator, ← List.forall_mem_cons]

/-! ## Reading -/

/-- `path.read_text().split("\n")`. -/
def fileLines (text : String) : List String :=
  ((captured text).toList.splitOn '\n').map String.ofList

theorem fileLines_append_line {line : String} (h : Unbroken line) (rest : String) :
    fileLines (line ++ "\n" ++ rest) = line :: fileLines rest := by
  have hchars : (captured (line ++ "\n" ++ rest)).toList =
      line.toList ++ '\n' :: (captured rest).toList := by
    have hsplit : (line ++ "\n" ++ rest).toList = line.toList ++ '\n' :: rest.toList := by simp
    rw [captured, hsplit, universalNewlines_append h.2, String.toList_ofList, captured,
      String.toList_ofList]
    rfl
  rw [fileLines, hchars, List.splitOn_append_cons_self_of_not_mem h.1, List.map_cons,
    String.ofList_toList]
  rfl

theorem fileLines_printLines_append {lines : List String} (h : ∀ line ∈ lines, Unbroken line)
    (rest : List String) :
    fileLines (printLines (lines ++ rest)) = lines ++ fileLines (printLines rest) := by
  induction lines with
  | nil => rfl
  | cons line lines ih =>
      obtain ⟨hline, hlines⟩ := List.forall_mem_cons.mp h
      rw [List.cons_append, printLines_cons, fileLines_append_line hline, ih hlines]
      rfl

theorem not_mem_universalNewlines (afterReturn : Bool) (text : List Char) :
    '\r' ∉ universalNewlines afterReturn text := by
  induction text generalizing afterReturn with
  | nil => exact List.not_mem_nil
  | cons char text ih =>
      rw [universalNewlines]
      split
      · exact List.not_mem_cons_of_ne_of_not_mem (by decide) (ih true)
      · next hchar =>
          split
          · exact ih false
          · exact List.not_mem_cons_of_ne_of_not_mem (Ne.symm hchar) (ih false)

theorem not_mem_of_mem_splitOn {chars line : List Char} (h : line ∈ chars.splitOn '\n') :
    '\n' ∉ line ∧ ∀ char ∈ line, char ∈ chars := by
  induction chars generalizing line with
  | nil =>
      obtain rfl : line = [] := by simpa using h
      simp
  | cons char chars ih =>
      rw [List.splitOn_cons_eq_if_modifyHead] at h
      obtain ⟨first, others, hsplit⟩ := List.exists_cons_of_ne_nil (List.splitOn_ne_nil '\n' chars)
      rw [hsplit] at h ih
      by_cases hbreak : char = '\n'
      · rw [if_pos (beq_iff_eq.mpr hbreak), List.mem_cons] at h
        rcases h with rfl | hline
        · simp
        · exact ⟨(ih hline).1, fun other hother ↦ List.mem_cons_of_mem _ ((ih hline).2 other hother)⟩
      · rw [if_neg (mt beq_iff_eq.mp hbreak), List.modifyHead_cons, List.mem_cons] at h
        rcases h with rfl | hline
        · obtain ⟨hfirst, hchars⟩ := ih List.mem_cons_self
          refine ⟨List.not_mem_cons_of_ne_of_not_mem (Ne.symm hbreak) hfirst, fun other hother ↦ ?_⟩
          exact (List.mem_cons.mp hother).elim (fun heq ↦ heq ▸ List.mem_cons_self)
            fun hmem ↦ List.mem_cons_of_mem _ (hchars other hmem)
        · have hline := ih (List.mem_cons_of_mem _ hline)
          exact ⟨hline.1, fun other hother ↦ List.mem_cons_of_mem _ (hline.2 other hother)⟩

/-- No line of a file holds a line end. -/
theorem unbroken_of_mem_fileLines {line text : String} (h : line ∈ fileLines text) :
    Unbroken line := by
  obtain ⟨chars, hchars, rfl⟩ := List.mem_map.mp h
  obtain ⟨hfeed, hsubset⟩ := not_mem_of_mem_splitOn hchars
  rw [Unbroken, String.toList_ofList]
  refine ⟨hfeed, fun hreturn ↦ ?_⟩
  have hmem := hsubset _ hreturn
  rw [captured, String.toList_ofList] at hmem
  exact not_mem_universalNewlines false text.toList hmem

/-! ## Tables -/

/-- The rows of the table under a heading: behind a blank line, the header and the delimiter row, up to
the next blank line. -/
def tableUnder (heading : String) (lines : List String) : List String :=
  ((lines.dropWhile fun line ↦ decide (line ≠ heading)).drop 4).takeWhile
    fun line ↦ decide (line ≠ "")

theorem mem_of_mem_tableUnder {heading line : String} {lines : List String}
    (h : line ∈ tableUnder heading lines) : line ∈ lines :=
  (List.dropWhile_sublist _).subset (List.mem_of_mem_drop ((List.takeWhile_sublist _).subset h))

/-- A table whose rows are not blank is read back from behind lines without its heading. -/
theorem tableUnder_append {heading : String} {before rows : List String} (hbefore : heading ∉ before)
    (hrows : "" ∉ rows) (blank header delimiter : String) (behind : List String) :
    tableUnder heading (before ++ ([heading, blank, header, delimiter] ++ (rows ++ "" :: behind))) =
      rows := by
  have hskip : (before ++ ([heading, blank, header, delimiter] ++ (rows ++ "" :: behind))).dropWhile
      (fun line ↦ decide (line ≠ heading)) =
        [heading, blank, header, delimiter] ++ (rows ++ "" :: behind) := by
    rw [List.dropWhile_append_of_pos fun line hline ↦
      decide_eq_true (ne_of_mem_of_not_mem hline hbefore)]
    simp
  have htake : (rows ++ "" :: behind).takeWhile (fun line ↦ decide (line ≠ "")) = rows := by
    rw [List.takeWhile_append_of_pos fun line hline ↦
      decide_eq_true (ne_of_mem_of_not_mem hline hrows)]
    simp
  rw [tableUnder, hskip]
  exact htake

end ReflectNanobind.Library.Lines
