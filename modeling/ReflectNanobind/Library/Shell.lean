import ReflectNanobind.Library.Text

/-!
# Unquoted expansion in a POSIX shell

A variable that a script expands without quotes is split at the default field separators, and every
field is then taken as a pattern for the path names that exist; a pattern without a match stands for
itself.  Pattern matching is a parameter, and so are the existing names.  The main rule says when a
list that was joined with spaces comes back unchanged whatever files there are.
-/

namespace ReflectNanobind.Library.Shell

/-! ## Field splitting -/

/-- The default `IFS`: space, tab and line feed. -/
def isSeparator (char : Char) : Bool := char == ' ' || char == '\t' || char == '\n'

/-- The nonempty fields of an expanded value. -/
def fields (value : String) : List String :=
  ((value.toList.splitOnP isSeparator).filter fun field ↦ !field.isEmpty).map String.ofList

theorem not_separator_of_mem_splitOnP {chars field : List Char}
    (h : field ∈ chars.splitOnP isSeparator) : ∀ char ∈ field, isSeparator char = false := by
  induction chars generalizing field with
  | nil =>
      obtain rfl : field = [] := by simpa using h
      simp
  | cons char rest ih =>
      rw [List.splitOnP_cons_eq_if_modifyHead] at h
      split at h
      · rcases List.mem_cons.mp h with rfl | hrest
        · simp
        · exact ih hrest
      · rename_i hchar
        obtain ⟨first, others, hsplit⟩ :=
          List.exists_cons_of_ne_nil (List.splitOnP_ne_nil isSeparator rest)
        rw [hsplit, List.modifyHead_cons] at h
        rcases List.mem_cons.mp h with rfl | hrest
        · intro other hother
          rcases List.mem_cons.mp hother with rfl | hfirst
          · simpa using hchar
          · exact ih (hsplit ▸ List.mem_cons_self) other hfirst
        · exact ih (hsplit ▸ List.mem_cons_of_mem _ hrest)

/-- A field is not empty and holds no separator. -/
theorem field_spec {value field : String} (h : field ∈ fields value) :
    field ≠ "" ∧ ∀ char ∈ field.toList, isSeparator char = false := by
  obtain ⟨chars, hchars, rfl⟩ := List.mem_map.mp h
  obtain ⟨hsplit, hne⟩ := List.mem_filter.mp hchars
  constructor
  · intro hempty
    have hnil : chars = [] := by simpa using congrArg String.toList hempty
    simp [hnil] at hne
  · simpa using not_separator_of_mem_splitOnP hsplit

/-- A text without separators is its own only field. -/
theorem fields_eq_singleton {value : String} (hne : value ≠ "")
    (hplain : ∀ char ∈ value.toList, isSeparator char = false) : fields value = [value] := by
  have hnil : value.toList ≠ [] := by simpa using hne
  rw [fields, List.splitOnP_eq_singleton hplain]
  simp [hnil]

/-- The fields of a join are the fields of the joined texts. -/
theorem fields_join_separator {separator : Char} (h : isSeparator separator = true)
    (texts : List String) :
    fields (Text.join (String.singleton separator) texts) = texts.flatMap fields := by
  induction texts with
  | nil => rfl
  | cons text rest ih =>
      cases rest with
      | nil => simp [Text.join]
      | cons next rest =>
          have hchars : (Text.join (String.singleton separator) (text :: next :: rest)).toList =
              text.toList ++
                separator :: (Text.join (String.singleton separator) (next :: rest)).toList := by
            simp [Text.join]
          rw [List.flatMap_cons, ← ih, fields, hchars,
            List.splitOnP_append_cons _ _ h, List.filter_append, List.map_append]
          rfl

theorem fields_join (texts : List String) :
    fields (Text.join " " texts) = texts.flatMap fields :=
  fields_join_separator (by decide : isSeparator ' ' = true) texts

/-! ## Pathname expansion -/

/-- The existing path names, in the shell's collation order. -/
structure FileSystem where
  names : List String
  nodup : names.Nodup

section Expansion

-- `matchesPattern word name`: the word matches the path name as a pattern
variable (matchesPattern : String → String → Bool)

/-- The matching path names, or the word itself when there are none. -/
def glob (files : FileSystem) (word : String) : List String :=
  match files.names.filter (matchesPattern word) with
  | [] => [word]
  | found => found

/-- The words that an unquoted expansion of the value gives. -/
def expand (files : FileSystem) (value : String) : List String :=
  (fields value).flatMap (glob matchesPattern files)

/-- Without any files only the fields are left. -/
theorem expand_of_no_names (value : String) :
    expand matchesPattern ⟨[], List.nodup_nil⟩ value = fields value := by
  change (fields value).flatMap (fun word ↦ [word]) = fields value
  exact List.flatMap_singleton' _

/-- The word survives an unquoted expansion whatever files there are: it is one field, and as a
pattern it matches no path name but itself. -/
structure Intact (word : String) : Prop where
  nonempty : word ≠ ""
  plain : ∀ char ∈ word.toList, isSeparator char = false
  literal : ∀ name, matchesPattern word name = true → name = word

variable {matchesPattern}

theorem Intact.glob_eq {word : String} (h : Intact matchesPattern word) (files : FileSystem) :
    glob matchesPattern files word = [word] := by
  have hfound : ∀ name ∈ files.names.filter (matchesPattern word), name = word :=
    fun name hname ↦ h.literal name (List.mem_filter.mp hname).2
  have hnodup := files.nodup.filter (matchesPattern word)
  unfold glob
  cases hmatches : files.names.filter (matchesPattern word) with
  | nil => rfl
  | cons first rest =>
      rw [hmatches] at hfound hnodup
      obtain rfl := hfound first List.mem_cons_self
      cases rest with
      | nil => rfl
      | cons second rest =>
          have hsecond := hfound second (by simp)
          simp [hsecond] at hnodup

theorem Intact.expand_eq {word : String} (h : Intact matchesPattern word) (files : FileSystem) :
    expand matchesPattern files word = [word] := by
  rw [expand, fields_eq_singleton h.nonempty h.plain]
  simp [h.glob_eq files]

/-- The expansion of a join is the expansion of the joined texts. -/
theorem expand_join (files : FileSystem) (texts : List String) :
    expand matchesPattern files (Text.join " " texts) =
      texts.flatMap (expand matchesPattern files) := by
  rw [expand, fields_join, List.flatMap_assoc]
  rfl

/-- Intact words on lines of their own come back. -/
theorem expand_lines (files : FileSystem) {words : List String}
    (h : ∀ word ∈ words, Intact matchesPattern word) :
    expand matchesPattern files (Text.join "\n" words) = words := by
  have hfields : fields (Text.join "\n" words) = words.flatMap fields :=
    fields_join_separator (by decide : isSeparator '\n' = true) words
  rw [expand, hfields, List.flatMap_assoc]
  calc words.flatMap (expand matchesPattern files)
      = words.flatMap fun word ↦ [word] :=
        List.flatMap_congr fun word hword ↦ (h word hword).expand_eq files
    _ = words := List.flatMap_singleton' words

/-- A list joined with spaces comes back from the unquoted expansion in every file system exactly
when each of its texts is intact. -/
theorem expand_join_eq_iff (texts : List String) :
    (∀ files, expand matchesPattern files (Text.join " " texts) = texts) ↔
      ∀ text ∈ texts, Intact matchesPattern text := by
  constructor
  · intro h text htext
    have hfields : fields (Text.join " " texts) = texts := by
      rw [← expand_of_no_names matchesPattern]
      exact h _
    obtain ⟨hne, hplain⟩ := field_spec (hfields.symm ▸ htext)
    refine ⟨hne, hplain, fun name hname ↦ ?_⟩
    -- in a file system with this one name every word expands to one word
    let files : FileSystem := ⟨[name], by simp⟩
    have hglob : glob matchesPattern files =
        fun word ↦ [if matchesPattern word name = true then name else word] := by
      funext word
      by_cases hword : matchesPattern word name = true <;> simp [glob, files, hword]
    have hexpand : texts.map (fun word ↦ if matchesPattern word name = true then name else word) =
        texts.map id := by
      rw [List.map_id, List.map_eq_flatMap]
      simpa only [expand, hfields, hglob] using h files
    have hself := List.map_eq_map_iff.mp hexpand text htext
    rwa [if_pos hname] at hself
  · intro h files
    calc expand matchesPattern files (Text.join " " texts)
        = texts.flatMap (expand matchesPattern files) := expand_join files texts
      _ = texts.flatMap fun text ↦ [text] := by
          refine List.flatMap_congr fun text htext ↦ ?_
          exact (h text htext).expand_eq files
      _ = texts := List.flatMap_singleton' texts

end Expansion

end ReflectNanobind.Library.Shell
