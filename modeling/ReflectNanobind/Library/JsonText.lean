import Mathlib.Data.Nat.Notation

/-!
# The JSON grammar

The grammar of JSON texts as relations between characters and what they denote; numbers and strings
are kept as they are written.  What a text may not contain is decided by a scan that only knows whether
it is inside a string: outside of strings the letter `i` never occurs, and every `n` starts a `null`.
-/

namespace ReflectNanobind.Library.JsonText

/-! ## Tokens -/

def IsSpace (text : List Char) : Prop := ∀ char ∈ text, char ∈ [' ', '\t', '\n', '\r']

def AllDigits (text : List Char) : Prop := ∀ char ∈ text, char.isDigit = true

/-- `int`: a zero, or digits without a leading zero. -/
inductive IsInt : List Char → Prop
  | zero : IsInt ['0']
  | digits {first : Char} {rest : List Char} (hfirst : first.isDigit = true) (hzero : first ≠ '0')
      (hrest : AllDigits rest) : IsInt (first :: rest)

/-- A decimal number has no leading zero. -/
theorem isInt_toDigits (number : ℕ) : IsInt (Nat.toDigits 10 number) := by
  induction number using Nat.strongRecOn with
  | ind number ih =>
      rcases Nat.lt_or_ge number 10 with hlt | hge
      · rw [Nat.toDigits_of_lt_base hlt]
        rcases Nat.eq_zero_or_pos number with rfl | hpos
        · exact .zero
        · refine .digits (by simpa using hlt) (fun hzero ↦ ?_) (by simp [AllDigits])
          have hvalue := Nat.toNat_digitChar_sub_48_of_lt_ten hlt
          rw [hzero] at hvalue
          exact absurd hvalue (Nat.ne_of_lt hpos)
      · have hstarts := ih (number / 10) (by omega)
        have hvalue := Nat.ofDigitChars_ten_toDigits (n := number / 10)
        have hlast : (Nat.digitChar (number % 10)).isDigit = true := by simp [Nat.mod_lt]
        rw [Nat.toDigits_of_base_le (by decide) hge]
        generalize Nat.toDigits 10 (number / 10) = digits at hstarts hvalue
        cases hstarts with
        | zero =>
            -- the quotient would be zero
            have hzero : Nat.ofDigitChars 10 ['0'] 0 = 0 := by decide
            omega
        | digits hfirst hzero hrest =>
            refine .digits hfirst hzero fun char hchar ↦ ?_
            rcases List.mem_append.mp hchar with hchar | hchar
            · exact hrest char hchar
            · rw [List.mem_singleton.mp hchar]
              exact hlast

/-- `[ frac ]`. -/
inductive IsFrac : List Char → Prop
  | none : IsFrac []
  | some {digits : List Char} (hdigits : AllDigits digits) (hne : digits ≠ []) :
      IsFrac ('.' :: digits)

/-- `[ exp ]`. -/
inductive IsExp : List Char → Prop
  | none : IsExp []
  | some {mark : Char} {sign digits : List Char} (hmark : mark ∈ ['e', 'E'])
      (hsign : sign ∈ [[], ['+'], ['-']]) (hdigits : AllDigits digits) (hne : digits ≠ []) :
      IsExp (mark :: (sign ++ digits))

/-- `number = [ minus ] int [ frac ] [ exp ]`. -/
inductive IsNumber : List Char → Prop
  | mk {sign int frac exp : List Char} (hsign : sign ∈ [[], ['-']]) (hint : IsInt int)
      (hfrac : IsFrac frac) (hexp : IsExp exp) : IsNumber (sign ++ (int ++ (frac ++ exp)))

def isHex (char : Char) : Bool :=
  char.isDigit || ('a' ≤ char && char ≤ 'f') || ('A' ≤ char && char ≤ 'F')

/-- What may stand between the quotation marks of a string. -/
inductive IsContents : List Char → Prop
  | nil : IsContents []
  | plain {char : Char} {rest : List Char} (hquote : char ≠ '"') (hescape : char ≠ '\\')
      (hcontrol : 0x20 ≤ char.toNat) (hrest : IsContents rest) : IsContents (char :: rest)
  | escape {char : Char} {rest : List Char}
      (hchar : char ∈ ['"', '\\', '/', 'b', 'f', 'n', 'r', 't']) (hrest : IsContents rest) :
      IsContents ('\\' :: char :: rest)
  | unicode {digits rest : List Char} (hdigits : ∀ char ∈ digits, isHex char = true)
      (hlength : digits.length = 4) (hrest : IsContents rest) :
      IsContents ('\\' :: 'u' :: (digits ++ rest))

/-! ## Values -/

/-- What a JSON text denotes. -/
inductive Node where
  | null
  | bool (value : Bool)
  | number (text : List Char)
  | string (text : List Char)
  | array (items : List Node)
  | object (fields : List (List Char × Node))

mutual

inductive IsValue : List Char → Node → Prop
  | null : IsValue ['n', 'u', 'l', 'l'] .null
  | true : IsValue ['t', 'r', 'u', 'e'] (.bool Bool.true)
  | false : IsValue ['f', 'a', 'l', 's', 'e'] (.bool Bool.false)
  | number {text : List Char} (h : IsNumber text) : IsValue text (.number text)
  | string {text : List Char} (h : IsContents text) :
      IsValue ('"' :: (text ++ ['"'])) (.string text)
  | emptyArray {space : List Char} (h : IsSpace space) : IsValue ('[' :: (space ++ [']'])) (.array [])
  | array {text : List Char} {items : List Node} (h : IsItems text items) :
      IsValue ('[' :: (text ++ [']'])) (.array items)
  | emptyObject {space : List Char} (h : IsSpace space) :
      IsValue ('{' :: (space ++ ['}'])) (.object [])
  | object {text : List Char} {fields : List (List Char × Node)} (h : IsFields text fields) :
      IsValue ('{' :: (text ++ ['}'])) (.object fields)

/-- A nonempty list of values with commas between them. -/
inductive IsItems : List Char → List Node → Prop
  | one {before text after : List Char} {item : Node} (hbefore : IsSpace before)
      (htext : IsValue text item) (hafter : IsSpace after) :
      IsItems (before ++ (text ++ after)) [item]
  | more {before text after rest : List Char} {item : Node} {items : List Node}
      (hbefore : IsSpace before) (htext : IsValue text item) (hafter : IsSpace after)
      (hrest : IsItems rest items) :
      IsItems (before ++ (text ++ (after ++ (',' :: rest)))) (item :: items)

/-- `member = string name-separator value`. -/
inductive IsField : List Char → List Char → Node → Prop
  | mk {before name middle start text after : List Char} {item : Node} (hbefore : IsSpace before)
      (hname : IsContents name) (hmiddle : IsSpace middle) (hstart : IsSpace start)
      (htext : IsValue text item) (hafter : IsSpace after) :
      IsField (before ++ ('"' :: (name ++ ('"' :: (middle ++ (':' :: (start ++ (text ++ after))))))))
        name item

/-- A nonempty list of members with commas between them. -/
inductive IsFields : List Char → List (List Char × Node) → Prop
  | one {text name : List Char} {item : Node} (h : IsField text name item) :
      IsFields text [(name, item)]
  | more {text name rest : List Char} {item : Node} {fields : List (List Char × Node)}
      (h : IsField text name item) (hrest : IsFields rest fields) :
      IsFields (text ++ (',' :: rest)) ((name, item) :: fields)

end

/-- `JSON-text = ws value ws`. -/
inductive IsText : List Char → Node → Prop
  | mk {before text after : List Char} {node : Node} (hbefore : IsSpace before)
      (htext : IsValue text node) (hafter : IsSpace after) :
      IsText (before ++ (text ++ after)) node

/-! ## Scanning -/

/-- Where a scan stands: outside of strings, in one, behind a backslash in one, or behind an `n`
outside of strings. -/
inductive ScanState where
  | outside | inside | escaped | afterN
  deriving DecidableEq, Repr

def ScanState.step : ScanState → Char → Option ScanState
  | .outside, char =>
      if char = '"' then some .inside
      else if char = 'n' then some .afterN
      else if char = 'i' then none
      else some .outside
  | .inside, char =>
      if char = '"' then some .outside
      else if char = '\\' then some .escaped
      else some .inside
  | .escaped, _ => some .inside
  | .afterN, char => if char = 'u' then some .outside else none

def scan (state : ScanState) (text : List Char) : Option ScanState :=
  text.foldlM ScanState.step state

@[simp] theorem scan_nil (state : ScanState) : scan state [] = some state := rfl

theorem scan_cons (state : ScanState) (char : Char) (text : List Char) :
    scan state (char :: text) = (state.step char).bind (scan · text) := by
  simp [scan, List.foldlM_cons]

theorem scan_append (state : ScanState) (first second : List Char) :
    scan state (first ++ second) = (scan state first).bind (scan · second) := by
  simp [scan, List.foldlM_append]

/-- A text that the scan crosses from outside of strings to outside of strings. -/
def Crossed (text : List Char) : Prop := scan .outside text = some .outside

theorem crossed_nil : Crossed [] := rfl

theorem Crossed.append {first second : List Char} (hfirst : Crossed first)
    (hsecond : Crossed second) : Crossed (first ++ second) := by
  rw [Crossed, scan_append, hfirst]
  exact hsecond

theorem Crossed.cons {char : Char} {text : List Char}
    (hchar : ScanState.step .outside char = some .outside) (htext : Crossed text) :
    Crossed (char :: text) := by
  rw [Crossed, scan_cons, hchar]
  exact htext

theorem crossed_of_forall {text : List Char}
    (h : ∀ char ∈ text, ScanState.step .outside char = some .outside) : Crossed text := by
  induction text with
  | nil => exact crossed_nil
  | cons char rest ih =>
      exact Crossed.cons (h char List.mem_cons_self)
        (ih fun other hother ↦ h other (List.mem_cons_of_mem _ hother))

theorem crossed_space {text : List Char} (h : IsSpace text) : Crossed text := by
  refine crossed_of_forall fun char hchar ↦ ?_
  have hspace := h char hchar
  simp only [List.mem_cons, List.not_mem_nil, or_false] at hspace
  rcases hspace with rfl | rfl | rfl | rfl <;> rfl

theorem step_digit {char : Char} (h : char.isDigit = true) :
    ScanState.step .outside char = some .outside := by
  have hne : char ≠ '"' ∧ char ≠ 'n' ∧ char ≠ 'i' := by
    refine ⟨?_, ?_, ?_⟩ <;> rintro rfl <;> exact absurd h (by decide)
  simp [ScanState.step, hne]

theorem crossed_digits {text : List Char} (h : AllDigits text) : Crossed text :=
  crossed_of_forall fun char hchar ↦ step_digit (h char hchar)

theorem crossed_number {text : List Char} (h : IsNumber text) : Crossed text := by
  obtain ⟨hsign, hint, hfrac, hexp⟩ := h
  refine Crossed.append ?_ (Crossed.append ?_ (Crossed.append ?_ ?_))
  · simp only [List.mem_cons, List.not_mem_nil, or_false] at hsign
    rcases hsign with rfl | rfl <;> rfl
  · cases hint with
    | zero => rfl
    | digits hfirst _ hrest => exact Crossed.cons (step_digit hfirst) (crossed_digits hrest)
  · cases hfrac with
    | none => exact crossed_nil
    | some hdigits _ => exact Crossed.cons rfl (crossed_digits hdigits)
  · cases hexp with
    | none => exact crossed_nil
    | some hmark hsign hdigits _ =>
        refine Crossed.cons ?_ (Crossed.append ?_ (crossed_digits hdigits))
        · simp only [List.mem_cons, List.not_mem_nil, or_false] at hmark
          rcases hmark with rfl | rfl <;> rfl
        · simp only [List.mem_cons, List.not_mem_nil, or_false] at hsign
          rcases hsign with rfl | rfl | rfl <;> rfl

/-! ### Strings -/

theorem step_inside {char : Char} (hquote : char ≠ '"') (hescape : char ≠ '\\') :
    ScanState.step .inside char = some .inside := by
  simp [ScanState.step, hquote, hescape]

theorem scan_inside_of_forall {text : List Char} (h : ∀ char ∈ text, char ≠ '"' ∧ char ≠ '\\') :
    scan .inside text = some .inside := by
  induction text with
  | nil => rfl
  | cons char rest ih =>
      obtain ⟨hquote, hescape⟩ := h char List.mem_cons_self
      rw [scan_cons, step_inside hquote hescape]
      exact ih fun other hother ↦ h other (List.mem_cons_of_mem _ hother)

theorem isHex_ne {char : Char} (h : isHex char = true) : char ≠ '"' ∧ char ≠ '\\' := by
  constructor <;> rintro rfl <;> exact absurd h (by decide)

theorem scan_contents {text : List Char} (h : IsContents text) :
    scan .inside text = some .inside := by
  induction h with
  | nil => rfl
  | plain hquote hescape _ _ ih =>
      rw [scan_cons, step_inside hquote hescape]
      exact ih
  | escape _ _ ih => exact ih
  | @unicode digits rest hdigits _ _ ih =>
      have hscan := scan_inside_of_forall fun char hchar ↦ isHex_ne (hdigits char hchar)
      calc
        scan .inside ('\\' :: 'u' :: (digits ++ rest)) = scan .inside (digits ++ rest) := rfl
        _ = (scan .inside digits).bind (scan · rest) := scan_append ..
        _ = some .inside := by rw [hscan]; exact ih

theorem crossed_quoted {name rest : List Char} (hname : scan .inside name = some .inside)
    (hrest : Crossed rest) : Crossed ('"' :: (name ++ '"' :: rest)) := by
  have hstep : scan .outside ('"' :: (name ++ '"' :: rest)) =
      scan .inside (name ++ '"' :: rest) := scan_cons ..
  rw [Crossed, hstep, scan_append, hname]
  exact hrest

/-! ### Values -/

mutual

theorem crossed_value : {text : List Char} → {node : Node} → IsValue text node → Crossed text
  | _, _, .null => rfl
  | _, _, .true => rfl
  | _, _, .false => rfl
  | _, _, .number h => crossed_number h
  | _, _, .string h => crossed_quoted (scan_contents h) crossed_nil
  | _, _, .emptyArray h => Crossed.cons rfl ((crossed_space h).append rfl)
  | _, _, .array h => Crossed.cons rfl (Crossed.append (crossed_items h) rfl)
  | _, _, .emptyObject h => Crossed.cons rfl ((crossed_space h).append rfl)
  | _, _, .object h => Crossed.cons rfl (Crossed.append (crossed_fields h) rfl)

theorem crossed_items : {text : List Char} → {items : List Node} → IsItems text items →
    Crossed text
  | _, _, .one hbefore htext hafter =>
      (crossed_space hbefore).append ((crossed_value htext).append (crossed_space hafter))
  | _, _, .more hbefore htext hafter hrest =>
      (crossed_space hbefore).append ((crossed_value htext).append
        ((crossed_space hafter).append (Crossed.cons rfl (crossed_items hrest))))

theorem crossed_field : {text name : List Char} → {item : Node} → IsField text name item →
    Crossed text
  | _, _, _, .mk hbefore hname hmiddle hstart htext hafter =>
      (crossed_space hbefore).append (crossed_quoted (scan_contents hname)
        ((crossed_space hmiddle).append (Crossed.cons rfl ((crossed_space hstart).append
          ((crossed_value htext).append (crossed_space hafter))))))

theorem crossed_fields : {text : List Char} → {fields : List (List Char × Node)} →
    IsFields text fields → Crossed text
  | _, _, .one h => crossed_field h
  | _, _, .more h hrest => (crossed_field h).append (Crossed.cons rfl (crossed_fields hrest))

end

/-- A JSON text has no `i` outside of its strings, and no `n` there but at the start of `null`. -/
theorem crossed_text {text : List Char} {node : Node} (h : IsText text node) : Crossed text := by
  obtain ⟨hbefore, htext, hafter⟩ := h
  exact (crossed_space hbefore).append ((crossed_value htext).append (crossed_space hafter))

end ReflectNanobind.Library.JsonText
