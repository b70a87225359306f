import ReflectNanobind.Library.JsonDumps

/-!
# Layouts of JSON texts

A text spells a document when its words and strings do and white space stands only where the grammar
allows it.  The reader returns the document of every spelled text.  A layout puts white space around
the members of a container by their nesting level, as Python's writer does with and without an
indentation; whatever the layout, the text of a document without a repeated key is read back as the
document with its floats in shortest form.
-/

namespace ReflectNanobind.Library.JsonLayout

open JsonSchema JsonText JsonNumber JsonDumps

/-! ## Spelled texts -/

/-- A literal or a number that is read wherever it stops. -/
structure SpellsWord (text : List Char) (value : Scalar) : Prop where
  read : ∀ {rest : List Char}, Stops rest → readWord (text ++ rest) = some (value, rest)
  head : ∃ char rest, text = char :: rest ∧ char ∉ marks

/-- What stands between the quotation marks of a string. -/
def SpellsString (contents : List Char) (text : String) : Prop :=
  ∀ rest, readString (contents ++ '"' :: rest) = some (text, rest)

mutual

/-- The text is one value; of a repeated key the last value counts. -/
inductive Spells : List Char → Json → Prop
  | word {text : List Char} {value : Scalar} (h : SpellsWord text value) : Spells text (.scalar value)
  | string {contents : List Char} {text : String} (h : SpellsString contents text) :
      Spells ('"' :: (contents ++ ['"'])) (.str text)
  | emptyArray {space : List Char} (h : IsSpace space) : Spells ('[' :: (space ++ [']'])) (.arr [])
  | array {space text : List Char} {items : List Json} (hspace : IsSpace space)
      (h : SpellsItems text items) : Spells ('[' :: (space ++ text)) (.arr items)
  | emptyObject {space : List Char} (h : IsSpace space) : Spells ('{' :: (space ++ ['}'])) (.obj [])
  | object {space text : List Char} {fields : List (String × Json)} (hspace : IsSpace space)
      (h : SpellsFields text fields) : Spells ('{' :: (space ++ text)) (.obj (update [] fields))

/-- The items up to the closing bracket, from the first of them. -/
inductive SpellsItems : List Char → List Json → Prop
  | last {text space : List Char} {item : Json} (h : Spells text item) (hspace : IsSpace space) :
      SpellsItems (text ++ (space ++ [']'])) [item]
  | more {text before behind rest : List Char} {item : Json} {items : List Json}
      (h : Spells text item) (hbefore : IsSpace before) (hbehind : IsSpace behind)
      (hrest : SpellsItems rest items) :
      SpellsItems (text ++ (before ++ ',' :: (behind ++ rest))) (item :: items)

/-- The members up to the closing brace, from behind the first quotation mark. -/
inductive SpellsMembers : List Char → List (String × Json) → Prop
  | last {contents before behind text space : List Char} {name : String} {value : Json}
      (hname : SpellsString contents name) (hbefore : IsSpace before) (hbehind : IsSpace behind)
      (h : Spells text value) (hspace : IsSpace space) :
      SpellsMembers (contents ++ '"' :: (before ++ ':' :: (behind ++ (text ++ (space ++ ['}'])))))
        [(name, value)]
  | more {contents before behind text space next rest : List Char} {name : String} {value : Json}
      {fields : List (String × Json)} (hname : SpellsString contents name)
      (hbefore : IsSpace before) (hbehind : IsSpace behind) (h : Spells text value)
      (hspace : IsSpace space) (hnext : IsSpace next) (hrest : SpellsFields rest fields) :
      SpellsMembers (contents ++ '"' :: (before ++ ':' :: (behind ++ (text ++ (space ++
        ',' :: (next ++ rest)))))) ((name, value) :: fields)

/-- The members from the first quotation mark. -/
inductive SpellsFields : List Char → List (String × Json) → Prop
  | quoted {text : List Char} {fields : List (String × Json)} (h : SpellsMembers text fields) :
      SpellsFields ('"' :: text) fields

end

/-! ## White space -/

theorem isSpace_nil : IsSpace [] := by simp [IsSpace]

theorem isSpace_blank : IsSpace [' '] := by simp [IsSpace]

theorem skipSpace_append {space : List Char} (h : IsSpace space) (rest : List Char) :
    skipSpace (space ++ rest) = skipSpace rest := by
  refine List.dropWhile_append_of_pos fun char hchar ↦ ?_
  simpa using h char hchar

theorem stops_space {space rest : List Char} (h : IsSpace space) (hrest : Stops rest) :
    Stops (space ++ rest) := by
  cases space with
  | nil => exact hrest
  | cons char space =>
      refine stops_cons ?_ _
      have hchar := h char List.mem_cons_self
      simp only [List.mem_cons, List.not_mem_nil, or_false] at hchar
      rcases hchar with rfl | rfl | rfl | rfl <;> decide

section Head

variable {text : List Char}

/-- A value starts with no white space and with no closing bracket. -/
theorem Spells.head {value : Json} (h : Spells text value) :
    ∃ char rest, text = char :: rest ∧ char ∉ [' ', '\t', '\n', '\r'] ∧ char ≠ ']' := by
  cases h with
  | word h =>
      obtain ⟨char, rest, rfl, hchar⟩ := h.head
      simp only [marks, List.mem_cons, not_or] at hchar
      exact ⟨char, rest, rfl, by simp [hchar], hchar.2.2.2.2.1⟩
  | string h => exact ⟨_, _, rfl, by decide, by decide⟩
  | emptyArray h => exact ⟨_, _, rfl, by decide, by decide⟩
  | array hspace h => exact ⟨_, _, rfl, by decide, by decide⟩
  | emptyObject h => exact ⟨_, _, rfl, by decide, by decide⟩
  | object hspace h => exact ⟨_, _, rfl, by decide, by decide⟩

theorem SpellsItems.head {items : List Json} (h : SpellsItems text items) :
    ∃ char rest, text = char :: rest ∧ char ∉ [' ', '\t', '\n', '\r'] ∧ char ≠ ']' := by
  cases h with
  | last h hspace =>
      obtain ⟨char, rest, rfl, hhead⟩ := h.head
      exact ⟨char, _, rfl, hhead⟩
  | more h hbefore hbehind hrest =>
      obtain ⟨char, rest, rfl, hhead⟩ := h.head
      exact ⟨char, _, rfl, hhead⟩

end Head

theorem skipSpace_spells {text : List Char} {value : Json} (h : Spells text value)
    (rest : List Char) : skipSpace (text ++ rest) = text ++ rest := by
  obtain ⟨char, others, rfl, hspace, -⟩ := h.head
  exact skipSpace_of_not_mem hspace _

theorem skipSpace_items {text : List Char} {items : List Json} (h : SpellsItems text items)
    (rest : List Char) : skipSpace (text ++ rest) = text ++ rest := by
  obtain ⟨char, others, rfl, hspace, -⟩ := h.head
  exact skipSpace_of_not_mem hspace _

/-! ## The reader returns what is spelled -/

theorem readValue_word {text : List Char} {value : Scalar} (h : SpellsWord text value) (bound : ℕ)
    {rest : List Char} (hrest : Stops rest) :
    readValue (bound + 1) (text ++ rest) = some (.scalar value, rest) := by
  have hread := h.read hrest
  obtain ⟨char, others, rfl, hchar⟩ := h.head
  simp only [marks, List.mem_cons, List.not_mem_nil, or_false, not_or] at hchar
  obtain ⟨-, -, -, -, -, hquote, hbracket, hbrace⟩ := hchar
  rw [List.cons_append] at hread ⊢
  rw [readValue, if_neg hquote, if_neg hbracket, if_neg hbrace, hread]
  rfl

/-- For one bound, every reader returns what a text of that length spells. -/
structure Reads (bound : ℕ) : Prop where
  values : ∀ {text value rest}, Spells text value → text.length ≤ bound → Stops rest →
    readValue bound (text ++ rest) = some (value, rest)
  items : ∀ {text items rest}, SpellsItems text items → text.length ≤ bound →
    readItems bound (text ++ rest) = some (items, rest)
  fields : ∀ {text fields rest}, SpellsFields text fields → text.length ≤ bound →
    readFields bound (text ++ rest) = some (fields, rest)

section Step

variable {bound : ℕ} (ih : Reads bound)

include ih

theorem readValue_spells {text rest : List Char} {value : Json} (h : Spells text value)
    (hbound : text.length ≤ bound + 1) (hrest : Stops rest) :
    readValue (bound + 1) (text ++ rest) = some (value, rest) := by
  cases h with
  | word h => exact readValue_word h bound hrest
  | @string contents text h =>
      have hread := h rest
      rw [List.cons_append, List.append_assoc, List.singleton_append, readValue, if_pos rfl, hread]
      rfl
  | emptyArray h =>
      rw [List.cons_append, List.append_assoc, List.singleton_append, readValue,
        if_neg (by decide), if_pos rfl, skipSpace_append h, skipSpace_of_not_mem (by decide)]
      rfl
  | @array space text items hspace h =>
      have hread : readItems bound (text ++ rest) = some (items, rest) :=
        ih.items h (by simp only [List.length_cons, List.length_append] at hbound; omega)
      obtain ⟨char, others, rfl, hhead, hbracket⟩ := h.head
      rw [List.cons_append, List.append_assoc, readValue, if_neg (by decide), if_pos rfl,
        skipSpace_append hspace, skipSpace_items h]
      split
      · next heq => exact absurd (List.cons.inj heq).1 hbracket
      · rw [hread]
        rfl
  | emptyObject h =>
      rw [List.cons_append, List.append_assoc, List.singleton_append, readValue,
        if_neg (by decide), if_neg (by decide), if_pos rfl, skipSpace_append h,
        skipSpace_of_not_mem (by decide)]
      rfl
  | @object space text fields hspace h =>
      have hread : readFields bound (text ++ rest) = some (fields, rest) :=
        ih.fields h (by simp only [List.length_cons, List.length_append] at hbound; omega)
      obtain ⟨text, rfl⟩ : ∃ others, text = '"' :: others := by
        cases h with
        | quoted h => exact ⟨_, rfl⟩
      rw [List.cons_append, List.append_assoc, readValue, if_neg (by decide), if_neg (by decide),
        if_pos rfl, skipSpace_append hspace, List.cons_append, skipSpace_of_not_mem (by decide)]
      change (readFields bound ('"' :: text ++ rest)).map _ = _
      rw [hread]
      rfl

theorem readItems_spells {text rest : List Char} {items : List Json} (h : SpellsItems text items)
    (hbound : text.length ≤ bound + 1) :
    readItems (bound + 1) (text ++ rest) = some (items, rest) := by
  cases h with
  | @last text space item h hspace =>
      have hstops : Stops (space ++ ']' :: rest) :=
        stops_space hspace (stops_cons (by decide) rest)
      have hread : readValue bound (text ++ (space ++ ']' :: rest)) = some (item, space ++ ']' :: rest) :=
        ih.values h (by simp only [List.length_append, List.length_cons] at hbound; omega) hstops
      rw [List.append_assoc, List.append_assoc, List.singleton_append, readItems, hread]
      simp [skipSpace_append hspace, skipSpace_of_not_mem]
  | @more text before behind others item items h hbefore hbehind hothers =>
      have hstops : Stops (before ++ ',' :: (behind ++ (others ++ rest))) :=
        stops_space hbefore (stops_cons (by decide) _)
      have hread : readValue bound (text ++ (before ++ ',' :: (behind ++ (others ++ rest)))) =
          some (item, before ++ ',' :: (behind ++ (others ++ rest))) :=
        ih.values h (by simp only [List.length_append, List.length_cons] at hbound; omega) hstops
      have hnext : readItems bound (others ++ rest) = some (items, rest) :=
        ih.items hothers (by simp only [List.length_append, List.length_cons] at hbound; omega)
      simp only [List.append_assoc, List.cons_append]
      rw [readItems, hread]
      simp [skipSpace_append hbefore, skipSpace_append hbehind, skipSpace_of_not_mem,
        skipSpace_items hothers, hnext]

theorem readFields_spells {text rest : List Char} {fields : List (String × Json)}
    (h : SpellsFields text fields) (hbound : text.length ≤ bound + 1) :
    readFields (bound + 1) (text ++ rest) = some (fields, rest) := by
  obtain ⟨h⟩ := h
  have hcolon (text : List Char) : skipSpace (':' :: text) = ':' :: text :=
    skipSpace_of_not_mem (by decide) text
  cases h with
  | @last contents before behind text space name value hname hbefore hbehind h hspace =>
      have hstops : Stops (space ++ '}' :: rest) :=
        stops_space hspace (stops_cons (by decide) rest)
      have hread : readValue bound (text ++ (space ++ '}' :: rest)) =
          some (value, space ++ '}' :: rest) :=
        ih.values h (by simp only [List.length_append, List.length_cons] at hbound; omega) hstops
      simp only [List.append_assoc, List.cons_append, List.nil_append]
      rw [readFields, hname]
      simp [skipSpace_append hbefore, hcolon, skipSpace_append hbehind, skipSpace_spells h, hread,
        skipSpace_append hspace, skipSpace_of_not_mem]
  | @more contents before behind text space next others name value fields hname hbefore hbehind h
      hspace hnext hothers =>
      have hstops : Stops (space ++ ',' :: (next ++ (others ++ rest))) :=
        stops_space hspace (stops_cons (by decide) _)
      have hread : readValue bound (text ++ (space ++ ',' :: (next ++ (others ++ rest)))) =
          some (value, space ++ ',' :: (next ++ (others ++ rest))) :=
        ih.values h (by simp only [List.length_append, List.length_cons] at hbound; omega) hstops
      have hreadNext : readFields bound (others ++ rest) = some (fields, rest) :=
        ih.fields hothers (by simp only [List.length_append, List.length_cons] at hbound; omega)
      have hstart : skipSpace (others ++ rest) = others ++ rest := by
        obtain ⟨hothers⟩ := hothers
        exact skipSpace_of_not_mem (by decide) _
      simp only [List.append_assoc, List.cons_append]
      rw [readFields, hname]
      simp [skipSpace_append hbefore, hcolon, skipSpace_append hbehind, skipSpace_spells h, hread,
        skipSpace_append hspace, skipSpace_append hnext, skipSpace_of_not_mem, hstart, hreadNext]

end Step

theorem reads (bound : ℕ) : Reads bound := by
  induction bound with
  | zero =>
      refine ⟨fun h hbound _ ↦ ?_, fun h hbound ↦ ?_, fun h hbound ↦ ?_⟩
      · obtain ⟨char, rest, rfl, -⟩ := h.head
        simp at hbound
      · obtain ⟨char, rest, rfl, -⟩ := h.head
        simp at hbound
      · obtain ⟨h⟩ := h
        simp at hbound
  | succ bound ih =>
      exact ⟨readValue_spells ih, readItems_spells ih, readFields_spells ih⟩

/-- A spelled document is read from its text, whatever white space stands around it. -/
theorem loads_of_spells {before text after : List Char} {value : Json} (h : Spells text value)
    (hbefore : IsSpace before) (hafter : IsSpace after) :
    loads (String.ofList (before ++ (text ++ after))) = some value := by
  have hread : readValue ((before ++ (text ++ after)).length + 1) (text ++ after) =
      some (value, after) := by
    refine (reads _).values h ?_ ?_
    · simp only [List.length_append]
      omega
    · simpa using stops_space hafter stops_nil
  have hend : skipSpace after = [] := by
    have hskip := skipSpace_append hafter []
    rwa [List.append_nil] at hskip
  simp only [loads, String.toList_ofList, skipSpace_append hbefore, skipSpace_spells h, hread, hend,
    if_true]

/-! ## Written words -/

theorem spellsWord_writeScalar {value : Scalar} (hvalue : loaded (.scalar value) = true)
    (hstr : ∀ text, value ≠ .str text) : SpellsWord (writeScalar value) value where
  read := readWord_writeScalar hvalue hstr
  head := head_writeScalar hvalue hstr

theorem isShortest_shorten (mantissa : ℤ) (places : ℕ) :
    IsShortest (shorten mantissa places).1 (shorten mantissa places).2 := by
  fun_induction shorten mantissa places with
  | case1 mantissa => exact .inl rfl
  | case2 mantissa => exact .inl rfl
  | case3 mantissa places hlast ih => exact ih
  | case4 mantissa places hlast => exact .inr ⟨by omega, hlast⟩

/-- A float is written as its shortest form is. -/
theorem writeDecimal_shorten (mantissa : ℤ) (places : ℕ) :
    writeDecimal (shorten mantissa places).1 (shorten mantissa places).2 =
      writeDecimal mantissa places := by
  simp only [writeDecimal, shorten_of_isShortest (isShortest_shorten mantissa places)]

/-! ## What is read back -/

def canonicalScalar : Scalar → Scalar
  | .decimal mantissa places => .decimal (shorten mantissa places).1 (shorten mantissa places).2
  | value => value

mutual

/-- The document with its floats in shortest form. -/
def canonical : Json → Json
  | .scalar value => .scalar (canonicalScalar value)
  | .arr items => .arr (canonicalItems items)
  | .obj fields => .obj (canonicalFields fields)

def canonicalItems : List Json → List Json
  | [] => []
  | item :: items => canonical item :: canonicalItems items

def canonicalFields : List (String × Json) → List (String × Json)
  | [] => []
  | (name, value) :: fields => (name, canonical value) :: canonicalFields fields

end

mutual

/-- No object of the document has a key twice. -/
def distinct : Json → Bool
  | .scalar _ => true
  | .arr items => distinctItems items
  | .obj fields => decide (fields.map Prod.fst).Nodup && distinctFields fields

def distinctItems : List Json → Bool
  | [] => true
  | item :: items => distinct item && distinctItems items

def distinctFields : List (String × Json) → Bool
  | [] => true
  | (_, value) :: fields => distinct value && distinctFields fields

end

@[simp] theorem distinct_str (text : String) : distinct (.str text) = true := rfl

@[simp] theorem distinct_int (value : ℤ) : distinct (.int value) = true := rfl

@[simp] theorem distinct_bool (value : Bool) : distinct (.bool value) = true := rfl

theorem canonicalItems_eq (items : List Json) : canonicalItems items = items.map canonical := by
  induction items with
  | nil => rfl
  | cons item items ih => simp [canonicalItems, ih]

theorem canonicalFields_eq (fields : List (String × Json)) :
    canonicalFields fields = fields.map fun entry ↦ (entry.1, canonical entry.2) := by
  induction fields with
  | nil => rfl
  | cons entry fields ih => simp [canonicalFields, ih]

theorem canonicalFields_keys (fields : List (String × Json)) :
    (canonicalFields fields).map Prod.fst = fields.map Prod.fst := by
  simp [canonicalFields_eq, Function.comp_def]

theorem distinctItems_eq (items : List Json) : distinctItems items = items.all distinct := by
  induction items with
  | nil => rfl
  | cons item items ih => simp [distinctItems, ih]

theorem distinctFields_eq (fields : List (String × Json)) :
    distinctFields fields = fields.all fun entry ↦ distinct entry.2 := by
  induction fields with
  | nil => rfl
  | cons entry fields ih => simp [distinctFields, ih]

theorem distinct_obj_iff {fields : List (String × Json)} : distinct (.obj fields) = true ↔
    (fields.map Prod.fst).Nodup ∧ ∀ entry ∈ fields, distinct entry.2 = true := by
  simp [distinct, distinctFields_eq]

theorem loaded_canonicalScalar (value : Scalar) :
    loaded (.scalar (canonicalScalar value)) = true := by
  cases value with
  | decimal mantissa places => simpa [canonicalScalar, loaded] using isShortest_shorten mantissa places
  | _ => rfl

mutual

theorem loaded_canonical : (value : Json) → distinct value = true → loaded (canonical value) = true
  | .scalar value, _ => loaded_canonicalScalar value
  | .arr items, h => loadedItems_canonical items h
  | .obj fields, h => by
      simp only [distinct, Bool.and_eq_true] at h
      simp only [canonical, loaded, canonicalFields_keys, Bool.and_eq_true]
      exact ⟨h.1, loadedFields_canonical fields h.2⟩

theorem loadedItems_canonical : (items : List Json) → distinctItems items = true →
    loadedItems (canonicalItems items) = true
  | [], _ => rfl
  | item :: items, h => by
      simp only [distinctItems, Bool.and_eq_true] at h
      simp only [canonicalItems, loadedItems, Bool.and_eq_true]
      exact ⟨loaded_canonical item h.1, loadedItems_canonical items h.2⟩

theorem loadedFields_canonical : (fields : List (String × Json)) → distinctFields fields = true →
    loadedFields (canonicalFields fields) = true
  | [], _ => rfl
  | (name, value) :: fields, h => by
      simp only [distinctFields, Bool.and_eq_true] at h
      simp only [canonicalFields, loadedFields, Bool.and_eq_true]
      exact ⟨loaded_canonical value h.1, loadedFields_canonical fields h.2⟩

end

/-! ## Layouts -/

/-- The white space behind an opening bracket, behind a comma and in front of a closing bracket, by
the nesting level of the brackets. -/
structure Layout where
  first : ℕ → List Char
  next : ℕ → List Char
  last : ℕ → List Char
  isSpace_first : ∀ level, IsSpace (first level)
  isSpace_next : ∀ level, IsSpace (next level)
  isSpace_last : ∀ level, IsSpace (last level)

/-- The separators `", "` and `": "` on one line. -/
def compact : Layout where
  first _ := []
  next _ := [' ']
  last _ := []
  isSpace_first _ := isSpace_nil
  isSpace_next _ := isSpace_blank
  isSpace_last _ := isSpace_nil

@[simp] theorem compact_first (level : ℕ) : compact.first level = [] := rfl

@[simp] theorem compact_next (level : ℕ) : compact.next level = [' '] := rfl

@[simp] theorem compact_last (level : ℕ) : compact.last level = [] := rfl

def newline (width : ℕ) : List Char := '\n' :: List.replicate width ' '

theorem isSpace_newline (width : ℕ) : IsSpace (newline width) := by
  intro char hchar
  rcases List.mem_cons.mp hchar with rfl | hblank
  · decide
  · rw [List.eq_of_mem_replicate hblank]
    decide

/-- `indent=width`. -/
def indented (width : ℕ) : Layout where
  first level := newline (width * (level + 1))
  next level := newline (width * (level + 1))
  last level := newline (width * level)
  isSpace_first _ := isSpace_newline _
  isSpace_next _ := isSpace_newline _
  isSpace_last _ := isSpace_newline _

mutual

/-- `_make_iterencode`; an empty container is written without white space. -/
def layOut (layout : Layout) (level : ℕ) : Json → List Char
  | .scalar value => writeScalar value
  | .arr [] => ['[', ']']
  | .arr (item :: items) =>
      '[' :: (layout.first level ++ (layOut layout (level + 1) item ++ layOutItems layout level items))
  | .obj [] => ['{', '}']
  | .obj ((name, value) :: fields) =>
      '{' :: (layout.first level ++ (writeString name ++
        (':' :: ' ' :: (layOut layout (level + 1) value ++ layOutFields layout level fields))))

/-- The items behind the first, and the closing bracket. -/
def layOutItems (layout : Layout) (level : ℕ) : List Json → List Char
  | [] => layout.last level ++ [']']
  | item :: items =>
      ',' :: (layout.next level ++ (layOut layout (level + 1) item ++ layOutItems layout level items))

def layOutFields (layout : Layout) (level : ℕ) : List (String × Json) → List Char
  | [] => layout.last level ++ ['}']
  | (name, value) :: fields =>
      ',' :: (layout.next level ++ (writeString name ++
        (':' :: ' ' :: (layOut layout (level + 1) value ++ layOutFields layout level fields))))

end

/-- `json.dumps(value, indent=width)`. -/
def dumpsIndent (width : ℕ) (value : Json) : String :=
  String.ofList (layOut (indented width) 0 value)

mutual

/-- The writer of `json.dumps` without an indentation. -/
theorem layOut_compact : (level : ℕ) → (value : Json) → layOut compact level value = write value
  | _, .scalar _ => rfl
  | _, .arr [] => rfl
  | level, .arr (item :: items) => by
      simp [layOut, write, writeItems, layOut_compact (level + 1) item,
        layOutItems_compact level items]
  | _, .obj [] => rfl
  | level, .obj ((name, value) :: fields) => by
      simp [layOut, write, writeFields, layOut_compact (level + 1) value,
        layOutFields_compact level fields]

theorem layOutItems_compact : (level : ℕ) → (items : List Json) →
    layOutItems compact level items = writeItems [',', ' '] items
  | _, [] => rfl
  | level, item :: items => by
      simp [layOutItems, writeItems, layOut_compact (level + 1) item,
        layOutItems_compact level items]

theorem layOutFields_compact : (level : ℕ) → (fields : List (String × Json)) →
    layOutFields compact level fields = writeFields [',', ' '] fields
  | _, [] => rfl
  | level, (name, value) :: fields => by
      simp [layOutFields, writeFields, layOut_compact (level + 1) value,
        layOutFields_compact level fields]

end

/-! ## Every layout is read back -/

/-- A word or a string, in its shortest form. -/
theorem spells_writeScalar (value : Scalar) :
    Spells (writeScalar value) (.scalar (canonicalScalar value)) := by
  have hword (value : Scalar) (hvalue : loaded (.scalar value) = true)
      (hstr : ∀ text, value ≠ .str text) : Spells (writeScalar value) (.scalar value) :=
    .word (spellsWord_writeScalar hvalue hstr)
  cases value with
  | str text => exact .string (readString_flatMap text)
  | decimal mantissa places =>
      have hshort := hword (canonicalScalar (.decimal mantissa places))
        (loaded_canonicalScalar _) (by simp [canonicalScalar])
      simp only [canonicalScalar, writeScalar, writeDecimal_shorten] at hshort
      exact hshort
  | null => exact hword .null rfl (by simp)
  | bool value => exact hword (.bool value) rfl (by simp)
  | int value => exact hword (.int value) rfl (by simp)

section Layouts

variable (layout : Layout)

mutual

theorem spells_layOut : (level : ℕ) → (value : Json) → distinct value = true →
    Spells (layOut layout level value) (canonical value)
  | _, .scalar value, _ => spells_writeScalar value
  | _, .arr [], _ => by
      have hempty := Spells.emptyArray isSpace_nil
      exact hempty
  | level, .arr (item :: items), h => by
      simp only [distinct, distinctItems, Bool.and_eq_true] at h
      simp only [layOut, canonical, canonicalItems]
      exact .array (layout.isSpace_first level)
        (spells_layOutItems level item items (spells_layOut (level + 1) item h.1) h.2)
  | _, .obj [], _ => by
      have hempty := Spells.emptyObject isSpace_nil
      exact hempty
  | level, .obj ((name, value) :: fields), h => by
      simp only [distinct, distinctFields, Bool.and_eq_true, decide_eq_true_eq] at h
      have hfields := spells_layOutFields level name value fields
        (spells_layOut (level + 1) value h.2.1) h.2.2
      have hdict : update [] (canonicalFields ((name, value) :: fields)) =
          canonicalFields ((name, value) :: fields) :=
        update_of_nodup (by simpa only [List.nil_append, canonicalFields_keys] using h.1)
      simp only [layOut, canonical]
      rw [← hdict]
      exact .object (layout.isSpace_first level) hfields

theorem spells_layOutItems : (level : ℕ) → (item : Json) → (items : List Json) →
    Spells (layOut layout (level + 1) item) (canonical item) → distinctItems items = true →
    SpellsItems (layOut layout (level + 1) item ++ layOutItems layout level items)
      (canonical item :: canonicalItems items)
  | level, _, [], hitem, _ => .last hitem (layout.isSpace_last level)
  | level, _, next :: items, hitem, h => by
      simp only [distinctItems, Bool.and_eq_true] at h
      simp only [layOutItems, canonicalItems]
      have hmore := SpellsItems.more hitem isSpace_nil (layout.isSpace_next level)
        (spells_layOutItems level next items (spells_layOut (level + 1) next h.1) h.2)
      exact hmore

theorem spells_layOutFields : (level : ℕ) → (name : String) → (value : Json) →
    (fields : List (String × Json)) →
    Spells (layOut layout (level + 1) value) (canonical value) → distinctFields fields = true →
    SpellsFields (writeString name ++
      (':' :: ' ' :: (layOut layout (level + 1) value ++ layOutFields layout level fields)))
      (canonicalFields ((name, value) :: fields))
  | level, name, value, [], hvalue, _ => by
      have hmembers := SpellsMembers.last (readString_flatMap name) isSpace_nil isSpace_blank hvalue
        (layout.isSpace_last level)
      simpa [writeString, layOutFields, canonicalFields] using SpellsFields.quoted hmembers
  | level, name, value, (next, other) :: fields, hvalue, h => by
      simp only [distinctFields, Bool.and_eq_true] at h
      have hrest := spells_layOutFields level next other fields
        (spells_layOut (level + 1) other h.1) h.2
      have hmembers := SpellsMembers.more (readString_flatMap name) isSpace_nil isSpace_blank hvalue
        isSpace_nil (layout.isSpace_next level) hrest
      simpa [writeString, layOutFields, canonicalFields] using SpellsFields.quoted hmembers

end

end Layouts

/-- A document without a repeated key is read back from its indented text, up to the form of its
floats. -/
theorem loads_dumpsIndent (width : ℕ) {value : Json} (h : distinct value = true) (after : String)
    (hafter : IsSpace after.toList) :
    loads (dumpsIndent width value ++ after) = some (canonical value) := by
  have hread := loads_of_spells (spells_layOut (indented width) 0 value h) isSpace_nil hafter
  rwa [List.nil_append, String.ofList_append, String.ofList_toList] at hread

end ReflectNanobind.Library.JsonLayout
