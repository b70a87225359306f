import ReflectNanobind.Library.JsonNumber
import ReflectNanobind.Library.Text
import Mathlib.Data.List.Nodup

/-!
# JSON texts

The writer and the reader of Python's `json` module, with the default settings: the writer escapes
everything but printable ASCII, and the reader keeps the last value of a key.  A document as the
reader returns it, without a repeated key in an object and with its floats in shortest form, is read
back from its text, and its text is a single line.
-/

namespace ReflectNanobind.Library.JsonDumps

open JsonSchema JsonNumber

/-! ## Writing -/

def hexDigits (code : ℕ) : List Char :=
  [code / 0x1000 % 0x10, code / 0x100 % 0x10, code / 0x10 % 0x10, code % 0x10].map Nat.digitChar

def unicodeEscape (code : ℕ) : List Char := '\\' :: 'u' :: hexDigits code

/-- `ESCAPE_DCT`, by the character behind the backslash. -/
def escapes : List (Char × Char) :=
  [('\\', '\\'), ('"', '"'), ('\x08', 'b'), ('\x0c', 'f'), ('\n', 'n'), ('\r', 'r'), ('\t', 't')]

/-- One character, as `py_encode_basestring_ascii` writes it. -/
def escape (char : Char) : List Char :=
  match escapes.lookup char with
  | some short => ['\\', short]
  | none =>
      if 0x20 ≤ char.toNat ∧ char.toNat ≤ 0x7e then [char]
      else if char.toNat < 0x10000 then unicodeEscape char.toNat
      else
        unicodeEscape (0xd800 + (char.toNat - 0x10000) / 0x400) ++
          unicodeEscape (0xdc00 + (char.toNat - 0x10000) % 0x400)

def writeString (text : String) : List Char := '"' :: (text.toList.flatMap escape ++ ['"'])

def writeScalar : Scalar → List Char
  | .null => ['n', 'u', 'l', 'l']
  | .bool true => ['t', 'r', 'u', 'e']
  | .bool false => ['f', 'a', 'l', 's', 'e']
  | .int value => writeInt value
  | .decimal mantissa places => writeDecimal mantissa places
  | .str text => writeString text

mutual

/-- `_iterencode`, with the separators `", "` and `": "`. -/
def write : Json → List Char
  | .scalar value => writeScalar value
  | .arr items => '[' :: writeItems [] items
  | .obj fields => '{' :: writeFields [] fields

/-- The items, with the text that stands before the first of them, and the closing bracket. -/
def writeItems (before : List Char) : List Json → List Char
  | [] => [']']
  | item :: items => before ++ (write item ++ writeItems [',', ' '] items)

def writeFields (before : List Char) : List (String × Json) → List Char
  | [] => ['}']
  | (name, value) :: fields =>
      before ++ (writeString name ++
        (':' :: ' ' :: (write value ++ writeFields [',', ' '] fields)))

end

/-- `json.dumps`. -/
def dumps (value : Json) : String := String.ofList (write value)

/-! ## Reading -/

def hexValue (char : Char) : Option ℕ :=
  if char.isDigit then some (char.toNat - '0'.toNat)
  else if 'a' ≤ char ∧ char ≤ 'f' then some (char.toNat - 'a'.toNat + 10)
  else if 'A' ≤ char ∧ char ≤ 'F' then some (char.toNat - 'A'.toNat + 10)
  else none

/-- `_decode_uXXXX`. -/
def readHex : List Char → Option (ℕ × List Char)
  | first :: second :: third :: fourth :: rest => do
      let first ← hexValue first
      let second ← hexValue second
      let third ← hexValue third
      let fourth ← hexValue fourth
      some (((first * 0x10 + second) * 0x10 + third) * 0x10 + fourth, rest)
  | _ => none

/-- `BACKSLASH`. -/
def unescapes : List (Char × Char) :=
  [('"', '"'), ('\\', '\\'), ('/', '/'), ('b', '\x08'), ('f', '\x0c'), ('n', '\n'), ('r', '\r'),
    ('t', '\t')]

/-- What stands behind a backslash. A surrogate that is not part of a pair is no character. -/
def readEscape : List Char → Option (Char × List Char)
  | [] => none
  | mark :: rest =>
      if mark = 'u' then do
        let (code, rest) ← readHex rest
        if 0xd800 ≤ code ∧ code ≤ 0xdbff then
          match rest with
          | '\\' :: 'u' :: rest => do
              let (low, rest) ← readHex rest
              if 0xdc00 ≤ low ∧ low ≤ 0xdfff then
                some (Char.ofNat (0x10000 + (code - 0xd800) * 0x400 + (low - 0xdc00)), rest)
              else none
          | _ => none
        else if 0xdc00 ≤ code ∧ code ≤ 0xdfff then none
        else some (Char.ofNat code, rest)
      else (unescapes.lookup mark).map fun char ↦ (char, rest)

/-- `py_scanstring` from behind the opening quotation mark, with a bound on the characters. -/
def readContents : ℕ → List Char → Option (List Char × List Char)
  | 0, _ => none
  | _ + 1, [] => none
  | fuel + 1, char :: rest =>
      if char = '"' then some ([], rest)
      else if char = '\\' then do
        let (char, rest) ← readEscape rest
        let (chars, rest) ← readContents fuel rest
        some (char :: chars, rest)
      else if char.toNat < 0x20 then none
      else do
        let (chars, rest) ← readContents fuel rest
        some (char :: chars, rest)

def readString (text : List Char) : Option (String × List Char) :=
  (readContents text.length text).map fun read ↦ (String.ofList read.1, read.2)

def literals : List (List Char × Scalar) :=
  [(['n', 'u', 'l', 'l'], .null), (['t', 'r', 'u', 'e'], .bool true),
    (['f', 'a', 'l', 's', 'e'], .bool false)]

/-- A literal or a number. -/
def readWord (text : List Char) : Option (Scalar × List Char) :=
  match literals.find? (·.1.isPrefixOf text) with
  | some literal => some (literal.2, text.drop literal.1.length)
  | none => readNumber text

/-- `WHITESPACE.match`. -/
def skipSpace (text : List Char) : List Char := text.dropWhile ([' ', '\t', '\n', '\r'].contains ·)

mutual

/-- `scan_once`, with a bound on the nesting and the number of items. -/
def readValue : ℕ → List Char → Option (Json × List Char)
  | 0, _ => none
  | _ + 1, [] => none
  | fuel + 1, char :: rest =>
      if char = '"' then (readString rest).map fun read ↦ (.str read.1, read.2)
      else if char = '[' then
        match skipSpace rest with
        | ']' :: rest => some (.arr [], rest)
        | text => (readItems fuel text).map fun read ↦ (.arr read.1, read.2)
      else if char = '{' then
        match skipSpace rest with
        | '}' :: rest => some (.obj [], rest)
        | text => (readFields fuel text).map fun read ↦ (.obj (update [] read.1), read.2)
      else (readWord (char :: rest)).map fun read ↦ (.scalar read.1, read.2)

/-- `JSONArray`, from its first item. -/
def readItems : ℕ → List Char → Option (List Json × List Char)
  | 0, _ => none
  | fuel + 1, text => do
      let (item, rest) ← readValue fuel text
      match skipSpace rest with
      | ']' :: rest => some ([item], rest)
      | ',' :: rest => do
          let (items, rest) ← readItems fuel (skipSpace rest)
          some (item :: items, rest)
      | _ => none

/-- `JSONObject`, from its first name; the pairs in the order of the text. -/
def readFields : ℕ → List Char → Option (List (String × Json) × List Char)
  | fuel + 1, '"' :: text => do
      let (name, rest) ← readString text
      match skipSpace rest with
      | ':' :: rest => do
          let (value, rest) ← readValue fuel (skipSpace rest)
          match skipSpace rest with
          | '}' :: rest => some ([(name, value)], rest)
          | ',' :: rest => do
              let (fields, rest) ← readFields fuel (skipSpace rest)
              some ((name, value) :: fields, rest)
          | _ => none
      | _ => none
  | _, _ => none

end

/-- `json.loads`. -/
def loads (text : String) : Option Json :=
  match readValue (text.toList.length + 1) (skipSpace text.toList) with
  | some (value, rest) => if skipSpace rest = [] then some value else none
  | none => none

/-! ## Documents that were read -/

mutual

/-- No object of the document has a key twice, and its floats are in shortest form: what the reader
returns. -/
def loaded : Json → Bool
  | .scalar (.decimal mantissa places) => decide (IsShortest mantissa places)
  | .scalar _ => true
  | .arr items => loadedItems items
  | .obj fields => decide (fields.map Prod.fst).Nodup && loadedFields fields

def loadedItems : List Json → Bool
  | [] => true
  | item :: items => loaded item && loadedItems items

def loadedFields : List (String × Json) → Bool
  | [] => true
  | (_, value) :: fields => loaded value && loadedFields fields

end

/-! ## Strings -/

theorem hexValue_digitChar {digit : ℕ} (h : digit < 0x10) :
    hexValue (Nat.digitChar digit) = some digit := by
  have hall : (List.range 0x10).all
      (fun digit ↦ hexValue (Nat.digitChar digit) == some digit) = true := by decide
  exact eq_of_beq (List.all_eq_true.mp hall digit (List.mem_range.mpr h))

theorem readHex_hexDigits {code : ℕ} (h : code < 0x10000) (rest : List Char) :
    readHex (hexDigits code ++ rest) = some (code, rest) := by
  have hdigit (shifted : ℕ) :
      hexValue (Nat.digitChar (shifted % 0x10)) = some (shifted % 0x10) :=
    hexValue_digitChar (Nat.mod_lt _ (by decide))
  have hcode : ((code / 0x1000 % 0x10 * 0x10 + code / 0x100 % 0x10) * 0x10 +
      code / 0x10 % 0x10) * 0x10 + code % 0x10 = code := by omega
  simp [hexDigits, readHex, hdigit, hcode]

theorem readEscape_unicode {char : Char} (h : char.toNat < 0x10000) (rest : List Char) :
    readEscape ('u' :: (hexDigits char.toNat ++ rest)) = some (char, rest) := by
  have hvalid : char.toNat < 0xd800 ∨ 0xdfff < char.toNat ∧ char.toNat < 0x110000 := char.valid
  have hhigh : ¬(0xd800 ≤ char.toNat ∧ char.toNat ≤ 0xdbff) := by omega
  have hlow : ¬(0xdc00 ≤ char.toNat ∧ char.toNat ≤ 0xdfff) := by omega
  simp [readEscape, readHex_hexDigits h, hhigh, hlow]

theorem readEscape_surrogates {high low : ℕ} (hhigh : 0xd800 ≤ high ∧ high ≤ 0xdbff)
    (hlow : 0xdc00 ≤ low ∧ low ≤ 0xdfff) (rest : List Char) :
    readEscape ('u' :: (hexDigits high ++ (unicodeEscape low ++ rest))) =
      some (Char.ofNat (0x10000 + (high - 0xd800) * 0x400 + (low - 0xdc00)), rest) := by
  have hreadHigh := readHex_hexDigits (by omega : high < 0x10000) (unicodeEscape low ++ rest)
  have hreadLow := readHex_hexDigits (by omega : low < 0x10000) rest
  rw [unicodeEscape, List.cons_append, List.cons_append] at hreadHigh ⊢
  simp [readEscape, hreadHigh, hhigh, hreadLow, hlow]

/-- A character beyond sixteen bits is read back from its surrogate pair. -/
theorem readEscape_pair {char : Char} (h : 0x10000 ≤ char.toNat) (rest : List Char) :
    readEscape ('u' :: (hexDigits (0xd800 + (char.toNat - 0x10000) / 0x400) ++
      (unicodeEscape (0xdc00 + (char.toNat - 0x10000) % 0x400) ++ rest))) = some (char, rest) := by
  have hvalid : char.toNat < 0xd800 ∨ 0xdfff < char.toNat ∧ char.toNat < 0x110000 := char.valid
  have hpair : 0x10000 + (0xd800 + (char.toNat - 0x10000) / 0x400 - 0xd800) * 0x400 +
      (0xdc00 + (char.toNat - 0x10000) % 0x400 - 0xdc00) = char.toNat := by omega
  rw [readEscape_surrogates (by omega) (by omega), hpair, Char.ofNat_toNat]

theorem unescapes_of_mem_escapes : ∀ entry ∈ escapes,
    entry.2 ≠ 'u' ∧ unescapes.lookup entry.2 = some entry.1 := by
  decide

/-- A character is read back from what is written for it. -/
theorem readContents_escape (fuel : ℕ) (char : Char) (rest : List Char) :
    readContents (fuel + 1) (escape char ++ rest) =
      (readContents fuel rest).map fun read ↦ (char :: read.1, read.2) := by
  unfold escape
  split
  · next short hshort =>
      obtain ⟨before, after, hsplit, -⟩ := List.lookup_eq_some_iff.mp hshort
      have hmem : (char, short) ∈ escapes := by simp [hsplit]
      obtain ⟨hne, hback⟩ := unescapes_of_mem_escapes _ hmem
      cases hrest : readContents fuel rest <;> simp [readContents, readEscape, hne, hback, hrest]
  · next hnone =>
      have hplain : char ≠ '"' ∧ char ≠ '\\' := by
        constructor <;> rintro rfl <;> simp [escapes] at hnone
      split_ifs with hascii hshort
      · cases hrest : readContents fuel rest <;>
          simp [readContents, hplain, Nat.not_lt.mpr hascii.1, hrest]
      · cases hrest : readContents fuel rest <;>
          simp [unicodeEscape, readContents, readEscape_unicode hshort, hrest]
      · have hread := readEscape_pair (Nat.not_lt.mp hshort) rest
        simp only [unicodeEscape, List.cons_append, List.append_assoc] at hread ⊢
        cases hrest : readContents fuel rest <;> simp [readContents, hread, hrest]

theorem readContents_flatMap (chars : List Char) {fuel : ℕ} (h : chars.length < fuel)
    (rest : List Char) :
    readContents fuel (chars.flatMap escape ++ '"' :: rest) = some (chars, rest) := by
  obtain ⟨fuel, rfl⟩ : ∃ before, fuel = before + 1 := ⟨fuel - 1, by omega⟩
  induction chars generalizing fuel with
  | nil => simp [readContents]
  | cons char chars ih =>
      obtain ⟨fuel, rfl⟩ : ∃ before, fuel = before + 1 :=
        ⟨fuel - 1, by simp only [List.length_cons] at h; omega⟩
      have hchars := ih fuel (by simpa using h)
      rw [List.flatMap_cons, List.append_assoc, readContents_escape, hchars]
      rfl

theorem escape_ne_nil (char : Char) : escape char ≠ [] := by
  unfold escape
  split
  · simp
  · split_ifs <;> simp [unicodeEscape]

theorem length_le_flatMap_escape (chars : List Char) :
    chars.length ≤ (chars.flatMap escape).length := by
  induction chars with
  | nil => simp
  | cons char chars ih =>
      have hpositive := List.length_pos_iff.mpr (escape_ne_nil char)
      simp only [List.flatMap_cons, List.length_append, List.length_cons]
      omega

theorem readString_flatMap (text : String) (rest : List Char) :
    readString (text.toList.flatMap escape ++ '"' :: rest) = some (text, rest) := by
  have hlength := length_le_flatMap_escape text.toList
  have hfuel : text.toList.length < (text.toList.flatMap escape ++ '"' :: rest).length := by
    simp only [List.length_append, List.length_cons]
    omega
  rw [readString, readContents_flatMap _ hfuel]
  simp

/-! ## Values -/

theorem readWord_of_readNumber {text : List Char} {read : Scalar × List Char}
    (h : readNumber text = some read) : readWord text = some read := by
  obtain ⟨first, rest, rfl, hfirst⟩ := head_of_readNumber h
  have hne : 'n' ≠ first ∧ 't' ≠ first ∧ 'f' ≠ first := by
    refine ⟨?_, ?_, ?_⟩ <;> rintro rfl <;> exact absurd hfirst (by decide)
  have hliteral : literals.find? (·.1.isPrefixOf (first :: rest)) = none := by
    simp [literals, List.isPrefixOf, hne]
  rw [readWord, hliteral]
  exact h

/-- The characters that stand for themselves in front of a value, and those that open one. -/
def marks : List Char := [' ', '\t', '\n', '\r', ']', '"', '[', '{']

section Words

variable {value : Scalar} (hvalue : loaded (.scalar value) = true)
  (hstr : ∀ text, value ≠ .str text)

include hvalue hstr

/-- A scalar other than a string is read back as a literal or a number. -/
theorem readWord_writeScalar {rest : List Char} (h : Stops rest) :
    readWord (writeScalar value ++ rest) = some (value, rest) := by
  cases value with
  | null => rfl
  | bool value => cases value <;> rfl
  | int value => exact readWord_of_readNumber (readNumber_writeInt value h)
  | decimal mantissa places =>
      exact readWord_of_readNumber (readNumber_writeDecimal (by simpa [loaded] using hvalue) h)
  | str text => exact absurd rfl (hstr text)

theorem head_writeScalar :
    ∃ char rest, writeScalar value = char :: rest ∧ char ∉ marks := by
  have hnumber {text : List Char} {read : Scalar × List Char} (h : readNumber text = some read) :
      ∃ char rest, text = char :: rest ∧ char ∉ marks := by
    obtain ⟨first, rest, rfl, hfirst⟩ := head_of_readNumber h
    refine ⟨first, rest, rfl, fun hmark ↦ ?_⟩
    simp only [marks, List.mem_cons, List.not_mem_nil, or_false] at hmark
    rcases hmark with rfl | rfl | rfl | rfl | rfl | rfl | rfl | rfl <;>
      exact absurd hfirst (by decide)
  cases value with
  | null => exact ⟨_, _, rfl, by decide⟩
  | bool value => cases value <;> exact ⟨_, _, rfl, by decide⟩
  | int value => exact hnumber (by simpa [writeScalar] using readNumber_writeInt value stops_nil)
  | decimal mantissa places =>
      have hshortest : IsShortest mantissa places := by simpa [loaded] using hvalue
      exact hnumber (by simpa [writeScalar] using readNumber_writeDecimal hshortest stops_nil)
  | str text => exact absurd rfl (hstr text)

end Words

theorem skipSpace_of_not_mem {char : Char} (h : char ∉ [' ', '\t', '\n', '\r'])
    (rest : List Char) : skipSpace (char :: rest) = char :: rest := by
  rw [skipSpace, List.dropWhile_cons_of_neg]
  simpa using h

/-- A value starts with no white space and with no closing bracket. -/
theorem head_write {value : Json} (h : loaded value = true) :
    ∃ char rest, write value = char :: rest ∧ char ∉ [' ', '\t', '\n', '\r'] ∧ char ≠ ']' := by
  cases value with
  | scalar value =>
      by_cases hstr : ∃ text, value = .str text
      · obtain ⟨text, rfl⟩ := hstr
        exact ⟨_, _, rfl, by decide, by decide⟩
      · obtain ⟨char, rest, hwrite, hchar⟩ :=
          head_writeScalar h fun text htext ↦ hstr ⟨text, htext⟩
        simp only [marks, List.mem_cons, not_or] at hchar
        exact ⟨char, rest, hwrite, by simp [hchar], hchar.2.2.2.2.1⟩
  | arr items => exact ⟨_, _, rfl, by decide, by decide⟩
  | obj fields => exact ⟨_, _, rfl, by decide, by decide⟩

theorem skipSpace_space (text : List Char) : skipSpace (' ' :: text) = skipSpace text := rfl

theorem skipSpace_write {value : Json} (h : loaded value = true) (rest : List Char) :
    skipSpace (write value ++ rest) = write value ++ rest := by
  obtain ⟨char, others, hwrite, hspace, -⟩ := head_write h
  rw [hwrite]
  exact skipSpace_of_not_mem hspace _

theorem setKey_of_not_mem {name : String} {fields : List (String × Json)}
    (h : name ∉ fields.map Prod.fst) (value : Json) :
    setKey name value fields = fields ++ [(name, value)] := by
  induction fields with
  | nil => rfl
  | cons entry rest ih =>
      obtain ⟨other, old⟩ := entry
      obtain ⟨hne, hrest⟩ := not_or.mp (mt List.mem_cons.mpr h)
      rw [setKey, if_neg (Ne.symm hne), ih hrest, List.cons_append]

/-- Pairs with distinct keys are the items of the dict that is built of them. -/
theorem update_of_nodup {fields entries : List (String × Json)}
    (h : ((fields ++ entries).map Prod.fst).Nodup) : update fields entries = fields ++ entries := by
  induction entries generalizing fields with
  | nil => simp [update]
  | cons entry rest ih =>
      have hsplit : (fields ++ entry :: rest).map Prod.fst =
          fields.map Prod.fst ++ entry.1 :: rest.map Prod.fst := by simp
      have hfresh : entry.1 ∉ fields.map Prod.fst := by
        rw [hsplit, List.nodup_append] at h
        exact fun hmem ↦ h.2.2 _ hmem _ List.mem_cons_self rfl
      have hstep : update (fields ++ [entry]) rest = fields ++ [entry] ++ rest :=
        ih (by simpa using h)
      rw [update, List.foldl_cons, setKey_of_not_mem hfresh, ← update, hstep, List.append_assoc,
        List.singleton_append]

/-! ### Enough fuel -/

mutual

def fuel : Json → ℕ
  | .scalar _ => 1
  | .arr items => 1 + fuelItems items
  | .obj fields => 1 + fuelFields fields

def fuelItems : List Json → ℕ
  | [] => 0
  | item :: items => 1 + fuel item + fuelItems items

def fuelFields : List (String × Json) → ℕ
  | [] => 0
  | (_, value) :: fields => 1 + fuel value + fuelFields fields

end

/-! ### The round trip -/

theorem stops_writeItems (items : List Json) (rest : List Char) :
    Stops (writeItems [',', ' '] items ++ rest) := by
  cases items <;> exact stops_cons (by decide) _

theorem stops_writeFields (fields : List (String × Json)) (rest : List Char) :
    Stops (writeFields [',', ' '] fields ++ rest) := by
  cases fields with
  | nil => exact stops_cons (by decide) _
  | cons entry fields => exact stops_cons (by decide) _

theorem readValue_scalar {value : Scalar} (hvalue : loaded (.scalar value) = true) (bound : ℕ)
    {rest : List Char} (h : Stops rest) :
    readValue (bound + 1) (write (.scalar value) ++ rest) = some (.scalar value, rest) := by
  by_cases hstr : ∃ text, value = .str text
  · obtain ⟨text, rfl⟩ := hstr
    have htext : write (.scalar (.str text)) ++ rest =
        '"' :: (text.toList.flatMap escape ++ '"' :: rest) := by
      simp [write, writeScalar, writeString]
    rw [htext, readValue, if_pos rfl, readString_flatMap]
    rfl
  · have hother (text : String) (htext : value = .str text) : False := hstr ⟨text, htext⟩
    obtain ⟨char, others, hwrite, hchar⟩ := head_writeScalar hvalue hother
    have hread := readWord_writeScalar hvalue hother h
    simp only [marks, List.mem_cons, List.not_mem_nil, or_false, not_or] at hchar
    obtain ⟨-, -, -, -, -, hquote, hbracket, hbrace⟩ := hchar
    rw [hwrite, List.cons_append] at hread
    rw [write, hwrite, List.cons_append, readValue, if_neg hquote, if_neg hbracket, if_neg hbrace,
      hread]
    rfl

/-! What the three readers do with what is written, for one bound. -/

def ReadsValues (bound : ℕ) : Prop :=
  ∀ value rest, loaded value = true → fuel value ≤ bound → Stops rest →
    readValue bound (write value ++ rest) = some (value, rest)

def ReadsItems (bound : ℕ) : Prop :=
  ∀ items rest, items ≠ [] → loadedItems items = true → fuelItems items ≤ bound →
    readItems bound (writeItems [] items ++ rest) = some (items, rest)

def ReadsFields (bound : ℕ) : Prop :=
  ∀ fields rest, fields ≠ [] → loadedFields fields = true → fuelFields fields ≤ bound →
    readFields bound (writeFields [] fields ++ rest) = some (fields, rest)

section Step

variable {bound : ℕ}

/-- Behind an opening bracket a value is read, unless the bracket is closed at once. -/
theorem readValue_bracket {char : Char} (hspace : char ∉ [' ', '\t', '\n', '\r'])
    (hbracket : char ≠ ']') (text : List Char) : readValue (bound + 1) ('[' :: char :: text) =
      (readItems bound (char :: text)).map fun read ↦ (.arr read.1, read.2) := by
  rw [readValue, if_neg (by decide), if_pos rfl, skipSpace_of_not_mem hspace]
  split
  · next heq => exact absurd (List.cons.inj heq).1 hbracket
  · rfl

theorem readValue_brace (text : List Char) : readValue (bound + 1) ('{' :: '"' :: text) =
    (readFields bound ('"' :: text)).map fun read ↦ (.obj (update [] read.1), read.2) := by
  rw [readValue, if_neg (by decide), if_neg (by decide), if_pos rfl,
    skipSpace_of_not_mem (by decide)]
  rfl

theorem readsValues_step (hitems : ReadsItems bound) (hfields : ReadsFields bound) :
    ReadsValues (bound + 1) := by
  intro value rest hvalue hbound hrest
  cases value with
  | scalar value => exact readValue_scalar hvalue bound hrest
  | arr items =>
      rw [write, List.cons_append]
      cases items with
      | nil => rfl
      | cons item items =>
          have hread := hitems (item :: items) rest (List.cons_ne_nil _ _)
            (by simpa [loaded] using hvalue) (by simp only [fuel] at hbound; omega)
          have hitem : loaded item = true := by
            simp only [loaded, loadedItems, Bool.and_eq_true] at hvalue
            exact hvalue.1
          obtain ⟨char, others, hwrite, hspace, hbracket⟩ := head_write hitem
          have htext : writeItems [] (item :: items) ++ rest =
              char :: (others ++ writeItems [',', ' '] items ++ rest) := by simp [writeItems, hwrite]
          rw [htext, readValue_bracket hspace hbracket, ← htext, hread]
          rfl
  | obj fields =>
      rw [write, List.cons_append]
      cases fields with
      | nil => rfl
      | cons entry fields =>
          simp only [loaded, Bool.and_eq_true, decide_eq_true_eq] at hvalue
          have hread := hfields (entry :: fields) rest (List.cons_ne_nil _ _) hvalue.2
            (by simp only [fuel] at hbound; omega)
          have hdict : update [] (entry :: fields) = entry :: fields :=
            update_of_nodup (by simpa using hvalue.1)
          obtain ⟨others, htext⟩ : ∃ others, writeFields [] (entry :: fields) ++ rest =
              '"' :: others := ⟨_, rfl⟩
          rw [htext, readValue_brace, ← htext, hread, Option.map_some, hdict]

theorem readsItems_step (hvalues : ReadsValues bound) (hitems : ReadsItems bound) :
    ReadsItems (bound + 1) := by
  intro items rest hne hloaded hbound
  obtain ⟨item, items, rfl⟩ := List.exists_cons_of_ne_nil hne
  simp only [loadedItems, Bool.and_eq_true] at hloaded
  simp only [fuelItems] at hbound
  have hread := hvalues item (writeItems [',', ' '] items ++ rest) hloaded.1 (by omega)
    (stops_writeItems items rest)
  rw [writeItems, List.nil_append, List.append_assoc, readItems, hread]
  cases items with
  | nil => rfl
  | cons next items =>
      have hnext := hitems (next :: items) rest (List.cons_ne_nil _ _) hloaded.2 (by omega)
      have hitem : loaded next = true := by
        simp only [loadedItems, Bool.and_eq_true] at hloaded
        exact hloaded.2.1
      simp only [writeItems, List.nil_append, List.append_assoc] at hnext
      simp [writeItems, skipSpace_of_not_mem, skipSpace_space, skipSpace_write hitem, hnext]

theorem readsFields_step (hvalues : ReadsValues bound) (hfields : ReadsFields bound) :
    ReadsFields (bound + 1) := by
  intro fields rest hne hloaded hbound
  obtain ⟨⟨name, value⟩, fields, rfl⟩ := List.exists_cons_of_ne_nil hne
  simp only [loadedFields, Bool.and_eq_true] at hloaded
  simp only [fuelFields] at hbound
  have hread := hvalues value (writeFields [',', ' '] fields ++ rest) hloaded.1 (by omega)
    (stops_writeFields fields rest)
  have hname := readString_flatMap name
    (':' :: ' ' :: (write value ++ (writeFields [',', ' '] fields ++ rest)))
  have hcolon (text : List Char) : skipSpace (':' :: text) = ':' :: text :=
    skipSpace_of_not_mem (by decide) text
  have htext : writeFields [] ((name, value) :: fields) ++ rest =
      '"' :: (name.toList.flatMap escape ++
        '"' :: ':' :: ' ' :: (write value ++ (writeFields [',', ' '] fields ++ rest))) := by
    simp [writeFields, writeString]
  rw [htext, readFields, hname]
  simp only [Option.bind_eq_bind, Option.bind_some, hcolon, skipSpace_space,
    skipSpace_write hloaded.1, hread]
  cases fields with
  | nil => rfl
  | cons next fields =>
      have hnext := hfields (next :: fields) rest (List.cons_ne_nil _ _) hloaded.2 (by omega)
      simp only [writeFields, writeString, List.nil_append, List.append_assoc, List.cons_append]
        at hnext
      simp [writeFields, writeString, skipSpace_of_not_mem, skipSpace_space, hnext]

end Step

/-- With enough fuel each reader returns what was written. -/
theorem reads (bound : ℕ) : ReadsValues bound ∧ ReadsItems bound ∧ ReadsFields bound := by
  induction bound with
  | zero =>
      refine ⟨fun value rest _ hbound _ ↦ ?_, fun items rest hne _ hbound ↦ ?_,
        fun fields rest hne _ hbound ↦ ?_⟩
      · cases value <;> simp [fuel] at hbound
      · obtain ⟨item, items, rfl⟩ := List.exists_cons_of_ne_nil hne
        simp [fuelItems] at hbound
      · obtain ⟨entry, fields, rfl⟩ := List.exists_cons_of_ne_nil hne
        simp [fuelFields] at hbound
  | succ bound ih =>
      obtain ⟨hvalues, hitems, hfields⟩ := ih
      exact ⟨readsValues_step hitems hfields, readsItems_step hvalues hitems,
        readsFields_step hvalues hfields⟩

theorem writeScalar_ne_nil (value : Scalar) : writeScalar value ≠ [] := by
  cases value with
  | null => exact List.cons_ne_nil _ _
  | bool value => cases value <;> exact List.cons_ne_nil _ _
  | int value => simp [writeScalar, writeInt, Nat.toDigits_ne_nil]
  | decimal mantissa places =>
      simp only [writeScalar, writeDecimal]
      split <;> simp [writeFixed, writeExponent]
  | str text => exact List.cons_ne_nil _ _

mutual

theorem fuel_le_length : (value : Json) → fuel value ≤ (write value).length
  | .scalar value => by
      have hpositive := List.length_pos_iff.mpr (writeScalar_ne_nil value)
      simp only [fuel, write]
      omega
  | .arr items => by
      have hitems := fuelItems_le_length [] items
      simp only [fuel, write, List.length_cons]
      omega
  | .obj fields => by
      have hfields := fuelFields_le_length [] fields
      simp only [fuel, write, List.length_cons]
      omega

/-- Every item but the first has a separator in front of it. -/
theorem fuelItems_le_length : (before : List Char) → (items : List Json) →
    fuelItems items + min 1 before.length ≤ (writeItems before items).length
  | before, [] => by
      simp only [fuelItems, writeItems, List.length_singleton]
      omega
  | before, item :: items => by
      have hitem := fuel_le_length item
      have hitems := fuelItems_le_length [',', ' '] items
      simp only [fuelItems, writeItems, List.length_append, List.length_cons,
        List.length_nil] at hitems ⊢
      omega

theorem fuelFields_le_length : (before : List Char) → (fields : List (String × Json)) →
    fuelFields fields + min 1 before.length ≤ (writeFields before fields).length
  | before, [] => by
      simp only [fuelFields, writeFields, List.length_singleton]
      omega
  | before, (name, value) :: fields => by
      have hvalue := fuel_le_length value
      have hfields := fuelFields_le_length [',', ' '] fields
      simp only [fuelFields, writeFields, List.length_append, List.length_cons,
        List.length_nil] at hfields ⊢
      omega

end

/-- A document that was read is read back from its text. -/
theorem loads_dumps {value : Json} (h : loaded value = true) : loads (dumps value) = some value := by
  have hread := (reads ((write value).length + 1)).1 value [] h
    (Nat.le_succ_of_le (fuel_le_length value)) stops_nil
  have hstart := skipSpace_write h []
  rw [List.append_nil] at hread hstart
  simp only [loads, dumps, String.toList_ofList, hstart, hread]
  rfl

/-! ## One line -/

/-- What the writer puts on a line: ASCII from the space to the tilde. -/
def printable (char : Char) : Bool := decide (0x20 ≤ char.toNat) && decide (char.toNat ≤ 0x7e)

theorem printable_of_numberChar {char : Char} (h : numberChar char = true) :
    printable char = true := by
  rcases Bool.or_eq_true _ _ ▸ h with hdigit | hmark
  · simp only [Char.isDigit, Bool.and_eq_true, decide_eq_true_eq] at hdigit
    have hlow : 0x30 ≤ char.toNat := hdigit.1
    have hhigh : char.toNat ≤ 0x39 := hdigit.2
    simp [printable]
    omega
  · simp only [List.contains_eq_mem, List.mem_cons, List.not_mem_nil, or_false,
      decide_eq_true_eq] at hmark
    rcases hmark with rfl | rfl | rfl | rfl <;> decide

theorem printable_hexDigits (code : ℕ) : (hexDigits code).all printable = true := by
  have hall : (List.range 0x10).all (fun digit ↦ printable (Nat.digitChar digit)) = true := by
    decide
  have hdigit (shifted : ℕ) : printable (Nat.digitChar (shifted % 0x10)) = true :=
    List.all_eq_true.mp hall _ (List.mem_range.mpr (Nat.mod_lt _ (by decide)))
  simp [hexDigits, hdigit]

theorem printable_unicodeEscape (code : ℕ) : (unicodeEscape code).all printable = true := by
  have hmarks : printable '\\' = true ∧ printable 'u' = true := by decide
  simp [unicodeEscape, hmarks, printable_hexDigits]

theorem printable_escape (char : Char) : (escape char).all printable = true := by
  unfold escape
  split
  · next short hshort =>
      obtain ⟨before, after, hsplit, -⟩ := List.lookup_eq_some_iff.mp hshort
      have hall : escapes.all (fun entry ↦ printable entry.2) = true := by decide
      have hmem : (char, short) ∈ escapes := by simp [hsplit]
      have hmark : printable '\\' = true := by decide
      simp [hmark, List.all_eq_true.mp hall _ hmem]
  · split_ifs with hascii hshort
    · simpa [printable] using hascii
    · exact printable_unicodeEscape _
    · simp [printable_unicodeEscape]

theorem printable_writeString (text : String) : (writeString text).all printable = true := by
  have hquote : printable '"' = true := by decide
  simp only [writeString, List.all_cons, List.all_append, hquote, List.all_flatMap,
    List.all_nil, Bool.and_true, Bool.true_and]
  exact List.all_eq_true.mpr fun char _ ↦ printable_escape char

theorem printable_writeScalar (value : Scalar) : (writeScalar value).all printable = true := by
  cases value with
  | null => decide
  | bool value => cases value <;> decide
  | int value =>
      exact List.all_eq_true.mpr fun char hchar ↦
        printable_of_numberChar (numberChar_of_mem_writeInt hchar)
  | decimal mantissa places =>
      exact List.all_eq_true.mpr fun char hchar ↦
        printable_of_numberChar (numberChar_of_mem_writeDecimal hchar)
  | str text => exact printable_writeString text

mutual

theorem printable_write : (value : Json) → (write value).all printable = true
  | .scalar value => printable_writeScalar value
  | .arr items => by
      have hbracket : printable '[' = true := by decide
      simp [write, hbracket, printable_writeItems [] rfl items]
  | .obj fields => by
      have hbrace : printable '{' = true := by decide
      simp [write, hbrace, printable_writeFields [] rfl fields]

theorem printable_writeItems : (before : List Char) → before.all printable = true →
    (items : List Json) → (writeItems before items).all printable = true
  | _, _, [] => by
      simp only [writeItems]
      decide
  | before, hbefore, item :: items => by
      have hrest := printable_writeItems [',', ' '] (by decide) items
      simp only [writeItems, List.all_append, hbefore, printable_write item, hrest, Bool.and_true]

theorem printable_writeFields : (before : List Char) → before.all printable = true →
    (fields : List (String × Json)) → (writeFields before fields).all printable = true
  | _, _, [] => by
      simp only [writeFields]
      decide
  | before, hbefore, (name, value) :: fields => by
      have hrest := printable_writeFields [',', ' '] (by decide) fields
      have hmarks : printable ':' = true ∧ printable ' ' = true := by decide
      simp only [writeFields, List.all_append, List.all_cons, hbefore, printable_writeString,
        hmarks, printable_write value, hrest, Bool.and_true]

end

theorem isLineBreak_of_printable {char : Char} (h : printable char = true) :
    Text.isLineBreak char = false := by
  simp only [printable, Bool.and_eq_true, decide_eq_true_eq] at h
  simp [Text.isLineBreak]
  omega

/-- A dumped document has no line boundary in it. -/
theorem oneLine_dumps (value : Json) : Text.OneLine (dumps value) := by
  intro char hchar
  rw [dumps, String.toList_ofList] at hchar
  exact isLineBreak_of_printable (List.all_eq_true.mp (printable_write value) char hchar)

theorem splitlines_dumps (values : List Json) :
    Text.splitlines (Text.printLines (values.map dumps)) = values.map dumps := by
  have honeLine : ∀ line ∈ values.map dumps, Text.OneLine line := by
    intro line hline
    obtain ⟨value, -, rfl⟩ := List.mem_map.mp hline
    exact oneLine_dumps value
  have hlines := Text.splitlines_printLines_append honeLine ""
  rw [String.append_empty] at hlines
  rw [hlines]
  exact List.append_nil _

/-- Documents that are dumped line by line are read back in order, one from each line. -/
theorem loads_splitlines {values : List Json} (h : ∀ value ∈ values, loaded value = true) :
    (Text.splitlines (Text.printLines (values.map dumps))).map loads = values.map some := by
  rw [splitlines_dumps, List.map_map]
  exact List.map_congr_left fun value hvalue ↦ loads_dumps (h value hvalue)

end ReflectNanobind.Library.JsonDumps
