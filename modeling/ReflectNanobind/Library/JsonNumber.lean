import ReflectNanobind.Library.JsonSchema
import ReflectNanobind.Library.JsonText
import Mathlib.Algebra.Ring.Nat
import Mathlib.Data.List.DropRight

/-!
# Numbers as Python writes and reads them in JSON

Integers are written with all their digits, floats in the shortest form that `repr` gives them: with
a point, or with an exponent when they are very large or very small.  A float is the decimal that its
shortest form denotes.  A number is read back from what is written for it, whatever follows.
-/

namespace ReflectNanobind.Library.JsonNumber

open JsonSchema JsonText

/-! ## Writing -/

def signText (negative : Bool) : List Char := if negative then ['-'] else []

/-- `int.__repr__`. -/
def writeInt (value : ℤ) : List Char :=
  signText (decide (value < 0)) ++ Nat.toDigits 10 value.natAbs

/-- The same number with one place, or without a trailing zero. -/
def shorten : ℤ → ℕ → ℤ × ℕ
  | mantissa, 0 => (mantissa * 10, 1)
  | mantissa, 1 => (mantissa, 1)
  | mantissa, places + 2 =>
      if mantissa % 10 = 0 then shorten (mantissa / 10) (places + 1) else (mantissa, places + 2)

/-- The decimal digits, with zeros in front up to the width. -/
def padded (width number : ℕ) : List Char :=
  List.replicate (width - (Nat.toDigits 10 number).length) '0' ++ Nat.toDigits 10 number

def fracText (digits : List Char) : List Char := if digits = [] then [] else '.' :: digits

def writeFixed (number places : ℕ) : List Char :=
  Nat.toDigits 10 (number / 10 ^ places) ++ '.' :: padded places (number % 10 ^ places)

/-- One digit before the point, and no zero at the end. -/
def writeExponent (number places : ℕ) : List Char :=
  let digits := Nat.toDigits 10 number
  let significant := digits.rdropWhile (· == '0')
  let exponent : ℤ := digits.length - places - 1
  significant.take 1 ++ (fracText (significant.drop 1) ++
    ('e' :: (if exponent < 0 then '-' else '+') :: padded 2 exponent.natAbs))

/-- `float.__repr__`, of `mantissa / 10 ^ places`. -/
def writeDecimal (mantissa : ℤ) (places : ℕ) : List Char :=
  let (mantissa, places) := shorten mantissa places
  let number := mantissa.natAbs
  let point : ℤ := (Nat.toDigits 10 number).length - places
  signText (decide (mantissa < 0)) ++
    if -4 < point ∧ point ≤ 16 then writeFixed number places else writeExponent number places

/-! ## Reading -/

def signed (negative : Bool) (number : ℕ) : ℤ := if negative then -number else number

/-- An optional minus sign. -/
def readSign : List Char → Bool × List Char
  | '-' :: rest => (true, rest)
  | text => (false, text)

/-- `(?:0|[1-9][0-9]*)` -/
def readInt : List Char → Option (List Char × List Char)
  | '0' :: rest => some (['0'], rest)
  | text =>
      if text.takeWhile Char.isDigit = [] then none
      else some (text.takeWhile Char.isDigit, text.dropWhile Char.isDigit)

/-- `(\.[0-9]+)?` -/
def readFrac : List Char → List Char × List Char
  | '.' :: rest =>
      if rest.takeWhile Char.isDigit = [] then ([], '.' :: rest)
      else (rest.takeWhile Char.isDigit, rest.dropWhile Char.isDigit)
  | text => ([], text)

/-- `[-+]?` -/
def readExponentSign : List Char → Bool × List Char
  | '-' :: rest => (true, rest)
  | '+' :: rest => (false, rest)
  | text => (false, text)

/-- `([eE][-+]?[0-9]+)?` -/
def readExponent : List Char → Option ℤ × List Char
  | [] => (none, [])
  | mark :: text =>
      let (negative, rest) := readExponentSign text
      if (mark = 'e' ∨ mark = 'E') ∧ rest.takeWhile Char.isDigit ≠ [] then
        (some (signed negative (Nat.ofDigitChars 10 (rest.takeWhile Char.isDigit) 0)),
          rest.dropWhile Char.isDigit)
      else (none, mark :: text)

/-- The float `mantissa / 10 ^ scale`. -/
def ofScale (mantissa : ℤ) : ℤ → Scalar
  | .ofNat places => .decimal (shorten mantissa places).1 (shorten mantissa places).2
  | .negSucc places => .decimal (mantissa * 10 ^ (places + 2)) 1

/-- An integer without fraction and exponent, else a float. -/
def numberOf (negative : Bool) (int frac : List Char) : Option ℤ → Scalar
  | none =>
      if frac = [] then .int (signed negative (Nat.ofDigitChars 10 int 0))
      else ofScale (signed negative (Nat.ofDigitChars 10 (int ++ frac) 0)) frac.length
  | some exponent =>
      ofScale (signed negative (Nat.ofDigitChars 10 (int ++ frac) 0)) (frac.length - exponent)

/-- `NUMBER_RE.match`, and the number that it stands for. -/
def readNumber (text : List Char) : Option (Scalar × List Char) :=
  let (negative, rest) := readSign text
  (readInt rest).map fun (int, rest) ↦
    let (frac, rest) := readFrac rest
    let (exponent, rest) := readExponent rest
    (numberOf negative int frac exponent, rest)

/-! ## Reading back -/

/-- What stands behind a number: nothing, or no character that could continue it. -/
def Stops (rest : List Char) : Prop :=
  ∀ char ∈ rest.head?, char.isDigit = false ∧ char ∉ ['.', 'e', 'E']

theorem stops_nil : Stops [] := by simp [Stops]

theorem stops_cons {char : Char} (h : char.isDigit = false ∧ char ∉ ['.', 'e', 'E'])
    (rest : List Char) : Stops (char :: rest) := by
  intro other hother
  obtain rfl : char = other := by simpa using hother
  exact h

/-- The text does not start with a digit. -/
def NoDigit (rest : List Char) : Prop := ∀ char ∈ rest.head?, char.isDigit = false

theorem Stops.noDigit {rest : List Char} (h : Stops rest) : NoDigit rest :=
  fun char hchar ↦ (h char hchar).1

theorem takeWhile_of_noDigit {rest : List Char} (h : NoDigit rest) :
    rest.takeWhile Char.isDigit = [] ∧ rest.dropWhile Char.isDigit = rest := by
  cases rest with
  | nil => exact ⟨rfl, rfl⟩
  | cons char rest =>
      have hchar := h char rfl
      simp [hchar]

section Digits

variable {digits rest : List Char} (hdigits : AllDigits digits) (hrest : NoDigit rest)

include hdigits hrest

theorem takeWhile_digits : (digits ++ rest).takeWhile Char.isDigit = digits := by
  rw [List.takeWhile_append_of_pos hdigits, (takeWhile_of_noDigit hrest).1, List.append_nil]

theorem dropWhile_digits : (digits ++ rest).dropWhile Char.isDigit = rest := by
  rw [List.dropWhile_append_of_pos hdigits, (takeWhile_of_noDigit hrest).2]

theorem readInt_append (hint : IsInt digits) : readInt (digits ++ rest) = some (digits, rest) := by
  cases hint with
  | zero => rfl
  | @digits first others hfirst hzero hothers =>
      have hne : first :: others ≠ [] := List.cons_ne_nil _ _
      rw [readInt, takeWhile_digits hdigits hrest, dropWhile_digits hdigits hrest, if_neg hne]
      exact fun tail heq ↦ hzero (List.cons.inj heq).1

theorem readFrac_append (hne : digits ≠ []) :
    readFrac ('.' :: (digits ++ rest)) = (digits, rest) := by
  rw [readFrac, takeWhile_digits hdigits hrest, dropWhile_digits hdigits hrest, if_neg hne]

theorem readExponent_append (hne : digits ≠ []) (negative : Bool) :
    readExponent ('e' :: (if negative then '-' else '+') :: (digits ++ rest)) =
      (some (signed negative (Nat.ofDigitChars 10 digits 0)), rest) := by
  have hsign : readExponentSign ((if negative then '-' else '+') :: (digits ++ rest)) =
      (negative, digits ++ rest) := by
    cases negative <;> rfl
  simp [readExponent, hsign, takeWhile_digits hdigits hrest, dropWhile_digits hdigits hrest, hne]

end Digits

theorem readFrac_of_stops {rest : List Char} (h : ∀ char ∈ rest.head?, char ≠ '.') :
    readFrac rest = ([], rest) := by
  unfold readFrac
  split
  · exact absurd rfl (h '.' rfl)
  · rfl

theorem readExponent_of_stops {rest : List Char} (h : Stops rest) :
    readExponent rest = (none, rest) := by
  cases rest with
  | nil => rfl
  | cons mark text =>
      have hmark : ¬(mark = 'e' ∨ mark = 'E') := by
        rintro (rfl | rfl) <;> exact absurd (h _ rfl).2 (by decide)
      simp [readExponent, hmark]

theorem readSign_append {digits rest : List Char} (hdigits : AllDigits digits) (hne : digits ≠ [])
    (negative : Bool) : readSign (signText negative ++ (digits ++ rest)) =
      (negative, digits ++ rest) := by
  cases negative with
  | true => rfl
  | false =>
      obtain ⟨first, others, rfl⟩ := List.exists_cons_of_ne_nil hne
      have hfirst := hdigits first List.mem_cons_self
      have hminus : first ≠ '-' := by
        rintro rfl
        exact absurd hfirst (by decide)
      simp only [signText, Bool.false_eq_true, if_false, List.nil_append, List.cons_append]
      unfold readSign
      split
      · next heq => exact absurd (List.cons.inj heq).1 hminus
      · rfl

/-! ### Integers -/

theorem signed_natAbs (value : ℤ) : signed (decide (value < 0)) value.natAbs = value := by
  unfold signed
  split
  · next h => have := of_decide_eq_true h; omega
  · next h => have := of_decide_eq_false (eq_false_of_ne_true h); omega

theorem readNumber_writeInt (value : ℤ) {rest : List Char} (h : Stops rest) :
    readNumber (writeInt value ++ rest) = some (.int value, rest) := by
  have hdigits : AllDigits (Nat.toDigits 10 value.natAbs) :=
    fun _ hchar ↦ Nat.isDigit_of_mem_toDigits (by decide) (by decide) hchar
  have hfrac : readFrac rest = ([], rest) :=
    readFrac_of_stops fun char hchar hpoint ↦ (h char hchar).2 (by simp [hpoint])
  rw [writeInt, List.append_assoc]
  simp [readNumber, readSign_append hdigits Nat.toDigits_ne_nil,
    readInt_append hdigits h.noDigit (isInt_toDigits _), hfrac, readExponent_of_stops h, numberOf,
    signed_natAbs]

/-! ### Floats -/

/-- The form in which a float is read back: one place, or no zero at the end. -/
def IsShortest (mantissa : ℤ) (places : ℕ) : Prop :=
  places = 1 ∨ 1 < places ∧ mantissa % 10 ≠ 0

instance (mantissa : ℤ) (places : ℕ) : Decidable (IsShortest mantissa places) :=
  inferInstanceAs (Decidable (_ ∨ _))

theorem shorten_of_isShortest {mantissa : ℤ} {places : ℕ} (h : IsShortest mantissa places) :
    shorten mantissa places = (mantissa, places) := by
  rcases h with rfl | ⟨hplaces, hlast⟩
  · rfl
  · obtain ⟨others, rfl⟩ : ∃ others, places = others + 2 := ⟨places - 2, by omega⟩
    rw [shorten, if_neg hlast]

theorem isShortest_pos {mantissa : ℤ} {places : ℕ} (h : IsShortest mantissa places) :
    0 < places := by
  rcases h with rfl | ⟨hplaces, -⟩ <;> omega

theorem allDigits_padded (width number : ℕ) : AllDigits (padded width number) := by
  intro char hchar
  rcases List.mem_append.mp hchar with hzero | hdigit
  · rw [(List.mem_replicate.mp hzero).2]
    rfl
  · exact Nat.isDigit_of_mem_toDigits (by decide) (by decide) hdigit

theorem padded_ne_nil (width number : ℕ) : padded width number ≠ [] := by
  simp [padded, Nat.toDigits_ne_nil]

theorem ofDigitChars_padded (width number : ℕ) :
    Nat.ofDigitChars 10 (padded width number) 0 = number := by
  simp [padded, Nat.ofDigitChars_append]

theorem length_padded {width number : ℕ} (hwidth : 0 < width) (h : number < 10 ^ width) :
    (padded width number).length = width := by
  have hlength := (Nat.length_toDigits_le_iff (by decide) hwidth).mpr h
  simp [padded]
  omega

/-- The digits before and behind the point are those of the whole mantissa. -/
theorem ofDigitChars_fixed (number : ℕ) {places : ℕ} (hplaces : 0 < places) :
    Nat.ofDigitChars 10
      (Nat.toDigits 10 (number / 10 ^ places) ++ padded places (number % 10 ^ places)) 0 =
        number := by
  have hlength := length_padded hplaces (Nat.mod_lt number (Nat.pow_pos (by decide : 0 < 10)))
  rw [Nat.ofDigitChars_append, Nat.ofDigitChars_eq_ofDigitChars_zero, hlength,
    Nat.ofDigitChars_ten_toDigits, ofDigitChars_padded]
  exact Nat.div_add_mod number (10 ^ places)

theorem readNumber_writeFixed {mantissa : ℤ} {places : ℕ} (hshortest : IsShortest mantissa places)
    {rest : List Char} (h : Stops rest) :
    readNumber (signText (decide (mantissa < 0)) ++ (writeFixed mantissa.natAbs places ++ rest)) =
      some (.decimal mantissa places, rest) := by
  have hpositive := isShortest_pos hshortest
  have hint : AllDigits (Nat.toDigits 10 (mantissa.natAbs / 10 ^ places)) :=
    fun _ hchar ↦ Nat.isDigit_of_mem_toDigits (by decide) (by decide) hchar
  have hfrac := allDigits_padded places (mantissa.natAbs % 10 ^ places)
  have hne := padded_ne_nil places (mantissa.natAbs % 10 ^ places)
  have hlength := length_padded hpositive
    (Nat.mod_lt mantissa.natAbs (Nat.pow_pos (by decide : 0 < 10)))
  have hpoint (text : List Char) : NoDigit ('.' :: text) := by simp [NoDigit]
  have hscale : ((padded places (mantissa.natAbs % 10 ^ places)).length : ℤ) = .ofNat places := by
    rw [hlength]
    rfl
  simp only [writeFixed, List.append_assoc, List.cons_append, readNumber,
    readSign_append hint Nat.toDigits_ne_nil, readInt_append hint (hpoint _) (isInt_toDigits _),
    readFrac_append hfrac h.noDigit hne, readExponent_of_stops h, Option.map_some, numberOf,
    if_neg hne, ofDigitChars_fixed _ hpositive, signed_natAbs]
  rw [hscale, ofScale, shorten_of_isShortest hshortest]

theorem tail_eq_nil {rest : List Char} (h : IsInt ('0' :: rest)) : rest = [] := by
  cases h with
  | zero => rfl
  | digits _ hzero _ => exact absurd rfl hzero

/-- The digits of a positive number are its significant digits and zeros. -/
theorem significant_digits {number : ℕ} (hpositive : 0 < number) :
    ∃ first others zeros, Nat.toDigits 10 number = first :: others ++ List.replicate zeros '0' ∧
      (Nat.toDigits 10 number).rdropWhile (· == '0') = first :: others ∧
      IsInt [first] ∧ AllDigits others := by
  have hdigits : AllDigits (Nat.toDigits 10 number) :=
    fun _ hchar ↦ Nat.isDigit_of_mem_toDigits (by decide) (by decide) hchar
  have hvalue := Nat.ofDigitChars_ten_toDigits (n := number)
  have hint := isInt_toDigits number
  generalize Nat.toDigits 10 number = digits at *
  have hzeros : digits.rtakeWhile (· == '0') =
      List.replicate (digits.rtakeWhile (· == '0')).length '0' :=
    List.eq_replicate_of_mem fun char hchar ↦ by simpa using List.mem_rtakeWhile_imp hchar
  have hsplit := List.rdropWhile_append_rtakeWhile (p := (· == '0')) (l := digits)
  rw [hzeros] at hsplit
  generalize (digits.rtakeWhile (· == '0')).length = zeros at hsplit
  cases hsignificant : digits.rdropWhile (· == '0') with
  | nil =>
      -- only zeros: the number would be zero
      rw [hsignificant, List.nil_append] at hsplit
      rw [← hsplit, Nat.ofDigitChars_replicate_zero] at hvalue
      omega
  | cons first others =>
      rw [hsignificant] at hsplit
      subst hsplit
      have hall := List.forall_mem_append.mp hdigits
      obtain ⟨hfirst, hothers⟩ := List.forall_mem_cons.mp hall.1
      have hzero : first ≠ '0' := by
        rintro rfl
        obtain ⟨rfl, hnone⟩ := List.append_eq_nil_iff.mp (tail_eq_nil hint)
        simp [hnone] at hsignificant
      exact ⟨first, others, zeros, rfl, rfl, .digits hfirst hzero (by simp [AllDigits]), hothers⟩

theorem readFrac_fracText {digits : List Char} (hdigits : AllDigits digits) (rest : List Char) :
    readFrac (fracText digits ++ 'e' :: rest) = (digits, 'e' :: rest) := by
  have hmark : NoDigit ('e' :: rest) := by simp [NoDigit]
  unfold fracText
  split
  · next hnil =>
      rw [hnil]
      exact readFrac_of_stops (by simp)
  · next hne => exact readFrac_append hdigits hmark hne

theorem noDigit_fracText (digits rest : List Char) :
    NoDigit (fracText digits ++ 'e' :: rest) := by
  unfold fracText
  split <;> simp [NoDigit]

theorem signed_mul_pow (negative : Bool) (number zeros : ℕ) :
    signed negative (10 ^ zeros * number) = signed negative number * 10 ^ zeros := by
  cases negative <;> simp [signed, Int.mul_comm]

/-- The significant digits scaled by the exponent are the float. -/
theorem ofScale_significant {mantissa : ℤ} {places zeros significant : ℕ}
    (hshortest : IsShortest mantissa places)
    (hvalue : mantissa.natAbs = 10 ^ zeros * significant) :
    ofScale (signed (decide (mantissa < 0)) significant) (places - zeros) =
      .decimal mantissa places := by
  have hmantissa : signed (decide (mantissa < 0)) significant * 10 ^ zeros = mantissa := by
    rw [← signed_mul_pow, ← hvalue, signed_natAbs]
  cases zeros with
  | zero =>
      rw [pow_zero, mul_one] at hmantissa
      have hscale : ((places : ℤ) - ((0 : ℕ) : ℤ)) = .ofNat places := by simp
      rw [hmantissa, hscale, ofScale, shorten_of_isShortest hshortest]
  | succ zeros =>
      -- a zero at the end leaves only one place
      have hplaces : places = 1 := by
        rcases hshortest with hone | ⟨-, hlast⟩
        · exact hone
        · refine absurd ?_ hlast
          rw [← hmantissa, pow_succ, ← mul_assoc]
          exact Int.mul_emod_left _ _
      subst hplaces
      cases zeros with
      | zero =>
          rw [pow_one] at hmantissa
          simp [ofScale, shorten, hmantissa]
      | succ zeros =>
          have hscale : (((1 : ℕ) : ℤ) - ((zeros + 1 + 1 : ℕ) : ℤ)) = .negSucc zeros := by omega
          rw [hscale, ofScale, hmantissa]

theorem readNumber_writeExponent {mantissa : ℤ} {places : ℕ} (hpositive : 0 < mantissa.natAbs)
    (hshortest : IsShortest mantissa places) {rest : List Char} (h : Stops rest) :
    readNumber (signText (decide (mantissa < 0)) ++ (writeExponent mantissa.natAbs places ++ rest)) =
      some (.decimal mantissa places, rest) := by
  obtain ⟨first, others, zeros, hdigits, hsignificant, hint, hothers⟩ :=
    significant_digits hpositive
  have hfirst : AllDigits [first] := by
    cases hint with
    | zero => simp [AllDigits]
    | digits hfirst _ _ => simpa [AllDigits] using hfirst
  have hvalue : mantissa.natAbs = 10 ^ zeros * Nat.ofDigitChars 10 (first :: others) 0 := by
    rw [← Nat.ofDigitChars_replicate_zero, ← Nat.ofDigitChars_append, ← hdigits,
      Nat.ofDigitChars_ten_toDigits]
  have hlength : ((Nat.toDigits 10 mantissa.natAbs).length : ℤ) = others.length + 1 + zeros := by
    rw [hdigits]
    simp
    omega
  simp only [writeExponent, hsignificant, hlength, List.take_succ_cons, List.take_zero,
    List.drop_succ_cons, List.drop_zero, List.append_assoc, List.cons_append, List.nil_append]
  generalize hexponent : (others.length + 1 + zeros - places - 1 : ℤ) = exponent
  have hread := readExponent_append (allDigits_padded 2 exponent.natAbs) h.noDigit
    (padded_ne_nil 2 exponent.natAbs) (decide (exponent < 0))
  rw [ofDigitChars_padded, signed_natAbs] at hread
  simp only [decide_eq_true_eq] at hread
  have hscale : (others.length - exponent : ℤ) = places - zeros := by omega
  have hreadInt := readInt_append hfirst (noDigit_fracText others
    ((if exponent < 0 then '-' else '+') :: (padded 2 exponent.natAbs ++ rest))) hint
  rw [readNumber, ← List.singleton_append, readSign_append hfirst (List.cons_ne_nil _ _)]
  simp only [hreadInt, readFrac_fracText hothers, hread, Option.map_some, numberOf, hscale]
  rw [List.singleton_append, ofScale_significant hshortest hvalue]

/-- A float in its shortest form is read back from its text. -/
theorem readNumber_writeDecimal {mantissa : ℤ} {places : ℕ} (hshortest : IsShortest mantissa places)
    {rest : List Char} (h : Stops rest) :
    readNumber (writeDecimal mantissa places ++ rest) = some (.decimal mantissa places, rest) := by
  simp only [writeDecimal, shorten_of_isShortest hshortest, List.append_assoc]
  split
  · exact readNumber_writeFixed hshortest h
  · next hpoint =>
      refine readNumber_writeExponent (Nat.pos_of_ne_zero fun hzero ↦ hpoint ?_) hshortest h
      -- zero is written with a point
      have hplaces : places = 1 := by
        rcases hshortest with hone | ⟨-, hlast⟩
        · exact hone
        · exact absurd (by simp [Int.natAbs_eq_zero.mp hzero]) hlast
      simp [hzero, hplaces]

/-! ## The characters of a number -/

def numberChar (char : Char) : Bool := char.isDigit || ['-', '+', '.', 'e'].contains char

/-- A text that is read as a number starts with a sign or a digit. -/
theorem head_of_readNumber {text : List Char} {read : Scalar × List Char}
    (h : readNumber text = some read) :
    ∃ first rest, text = first :: rest ∧ (first = '-' ∨ first.isDigit = true) := by
  cases text with
  | nil => simp [readNumber, readSign, readInt] at h
  | cons first rest =>
      refine ⟨first, rest, rfl, ?_⟩
      by_contra hne
      obtain ⟨hminus, hdigit⟩ := not_or.mp hne
      have hzero : first ≠ '0' := by
        rintro rfl
        exact hdigit rfl
      simp [readNumber, readSign, readInt, hminus, hdigit, hzero] at h

section Characters

variable {char : Char}

theorem numberChar_of_mem_toDigits {number : ℕ} (h : char ∈ Nat.toDigits 10 number) :
    numberChar char = true := by
  simp [numberChar, Nat.isDigit_of_mem_toDigits (by decide) (by decide) h]

theorem numberChar_of_mem_signText {negative : Bool} (h : char ∈ signText negative) :
    numberChar char = true := by
  cases negative with
  | true =>
      rw [List.mem_singleton.mp h]
      rfl
  | false => simp [signText] at h

theorem numberChar_of_mem_padded {width number : ℕ} (h : char ∈ padded width number) :
    numberChar char = true := by
  simp [numberChar, allDigits_padded width number char h]

theorem numberChar_of_mem_writeInt {value : ℤ} (h : char ∈ writeInt value) :
    numberChar char = true := by
  rcases List.mem_append.mp h with hsign | hdigit
  · exact numberChar_of_mem_signText hsign
  · exact numberChar_of_mem_toDigits hdigit

theorem numberChar_of_mem_writeFixed {number places : ℕ} (h : char ∈ writeFixed number places) :
    numberChar char = true := by
  simp only [writeFixed, List.mem_append, List.mem_cons] at h
  rcases h with hdigit | rfl | hdigit
  · exact numberChar_of_mem_toDigits hdigit
  · rfl
  · exact numberChar_of_mem_padded hdigit

theorem numberChar_of_mem_writeExponent {number places : ℕ}
    (h : char ∈ writeExponent number places) : numberChar char = true := by
  have hsignificant : ∀ digit ∈ (Nat.toDigits 10 number).rdropWhile (· == '0'),
      numberChar digit = true :=
    fun digit hdigit ↦ numberChar_of_mem_toDigits ((List.rdropWhile_prefix _ _).subset hdigit)
  simp only [writeExponent, List.mem_append, List.mem_cons] at h
  rcases h with hdigit | hfrac | rfl | hsign | hdigit
  · exact hsignificant _ (List.mem_of_mem_take hdigit)
  · unfold fracText at hfrac
    split at hfrac
    · simp at hfrac
    · rcases List.mem_cons.mp hfrac with rfl | hdigit
      · rfl
      · exact hsignificant _ (List.mem_of_mem_drop hdigit)
  · rfl
  · rw [hsign]
    split <;> rfl
  · exact numberChar_of_mem_padded hdigit

theorem numberChar_of_mem_writeDecimal {mantissa : ℤ} {places : ℕ}
    (h : char ∈ writeDecimal mantissa places) : numberChar char = true := by
  unfold writeDecimal at h
  rcases List.mem_append.mp h with hsign | hnumber
  · exact numberChar_of_mem_signText hsign
  split at hnumber
  · exact numberChar_of_mem_writeFixed hnumber
  · exact numberChar_of_mem_writeExponent hnumber

end Characters

end ReflectNanobind.Library.JsonNumber
