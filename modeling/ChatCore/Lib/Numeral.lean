import Mathlib.Data.List.TakeWhile
import Mathlib.Algebra.GroupWithZero.Nat

/-!
# `ChatCore.Lib.Numeral`: decimal numerals and `std::stoul`

`std::stoul` with base 10 and a 64-bit `unsigned long`. It skips white space, takes an optional
sign, reads digits up to the first other character and ignores what follows. It throws when
there is no digit and when the digits exceed the greatest `unsigned long`. A minus sign negates
the number modulo `2 ^ 64`.

`IsNumeral s n` says that the whole of `s` is a decimal numeral of `n`. `NumberIn` names the
parts that `stoul` sees in a text. `stoul_eq_some_iff` says that it reads exactly the texts with
such parts, and `stoul_cases` splits these into numerals and the others (`Lenient`).
-/

set_option autoImplicit false

namespace ChatCore.Lib

/-- `std::isspace` in the "C" locale. -/
def isSpace (c : Char) : Bool := c ∈ [' ', '\t', '\n', '\x0b', '\x0c', '\r']

/-- The number that a list of digits denotes. -/
def decimalValue (digits : List Char) : Nat :=
  digits.foldl (fun value c => 10 * value + (c.toNat - '0'.toNat)) 0

/-- `s` as a whole is a decimal numeral of `n`. -/
def IsNumeral (s : String) (n : Nat) : Prop :=
  s.toList ≠ [] ∧ (∀ c ∈ s.toList, c.isDigit) ∧ decimalValue s.toList = n

/-- The number of values of an `unsigned long`. -/
def ulongSize : Nat := 2 ^ 64

/-- The optional sign in front of a number. -/
def takeSign : List Char → List Char × List Char
  | '+' :: text => (['+'], text)
  | '-' :: text => (['-'], text)
  | text => ([], text)

/-- The number that digits with a sign stand for. -/
def signedValue (sign digits : List Char) : Nat :=
  if sign = ['-'] then (ulongSize - decimalValue digits) % ulongSize else decimalValue digits

/-- `std::stoul`. The result `none` is an exception. -/
def stoul (s : String) : Option Nat :=
  let (sign, text) := takeSign (s.toList.dropWhile isSpace)
  let digits := text.takeWhile Char.isDigit
  if digits = [] then none
  else if ulongSize ≤ decimalValue digits then none
  else some (signedValue sign digits)

/-- A text with white space, a sign, digits and the rest. -/
structure NumberIn (text spaces sign digits rest : List Char) : Prop where
  split : text = spaces ++ (sign ++ (digits ++ rest))
  spaces : ∀ c ∈ spaces, isSpace c
  sign : sign = [] ∨ sign = ['+'] ∨ sign = ['-']
  ne_nil : digits ≠ []
  digits : ∀ c ∈ digits, c.isDigit
  rest : ∀ c ∈ rest.head?, ¬ c.isDigit

/-- A digit is neither white space nor a sign. -/
theorem isSpace_of_isDigit {c : Char} (h : c.isDigit) : isSpace c = false ∧ c ≠ '+' ∧ c ≠ '-' := by
  refine ⟨?_, ?_, ?_⟩
  · rw [Bool.eq_false_iff]
    intro hspace
    simp only [isSpace, List.mem_cons, List.not_mem_nil, or_false, decide_eq_true_eq] at hspace
    rcases hspace with rfl | rfl | rfl | rfl | rfl | rfl <;> exact absurd h (by decide)
  · rintro rfl
    exact absurd h (by decide)
  · rintro rfl
    exact absurd h (by decide)

/-- The head of a list of digits. -/
theorem takeSign_append_digits {digits rest : List Char} (hne : digits ≠ [])
    (hdigits : ∀ c ∈ digits, c.isDigit) : takeSign (digits ++ rest) = ([], digits ++ rest) := by
  cases digits with
  | nil => exact absurd rfl hne
  | cons c digits =>
    obtain ⟨-, hplus, hminus⟩ := isSpace_of_isDigit (hdigits c (by simp))
    rw [List.cons_append]
    unfold takeSign
    split
    · rename_i heq
      cases heq
      exact absurd rfl hplus
    · rename_i heq
      cases heq
      exact absurd rfl hminus
    · rfl

/-- The digits at the front end where the rest begins. -/
theorem takeWhile_append_rest {digits rest : List Char} (hdigits : ∀ c ∈ digits, c.isDigit)
    (hrest : ∀ c ∈ rest.head?, ¬ c.isDigit) : (digits ++ rest).takeWhile Char.isDigit = digits := by
  rw [List.takeWhile_append_of_pos hdigits]
  cases rest with
  | nil => simp
  | cons c rest =>
    have hc : c.isDigit = false := by simpa using hrest c rfl
    simp [hc]

/-- The spaces at the front end where the rest begins. -/
theorem dropWhile_append_rest {spaces rest : List Char} (hspaces : ∀ c ∈ spaces, isSpace c)
    (hrest : ∀ c ∈ rest.head?, ¬ isSpace c) : (spaces ++ rest).dropWhile isSpace = rest := by
  rw [List.dropWhile_append_of_pos hspaces]
  cases rest with
  | nil => rfl
  | cons c rest =>
    have hc : isSpace c = false := by simpa using hrest c rfl
    simp [hc]

/-- Behind the white space, the sign or the first digit is no white space. -/
theorem NumberIn.head_not_space {text spaces sign digits rest : List Char}
    (h : NumberIn text spaces sign digits rest) :
    ∀ c ∈ (sign ++ (digits ++ rest)).head?, ¬ isSpace c := by
  intro c hc
  rcases h.sign with rfl | rfl | rfl
  · cases digits with
    | nil => exact absurd rfl h.ne_nil
    | cons d digits =>
      cases hc
      simp [(isSpace_of_isDigit (h.digits c (by simp))).1]
  · cases hc
    decide
  · cases hc
    decide

/-- `stoul` takes the parts of a text apart. -/
theorem NumberIn.takeSign_eq {text spaces sign digits rest : List Char}
    (h : NumberIn text spaces sign digits rest) :
    takeSign (text.dropWhile isSpace) = (sign, digits ++ rest) := by
  rw [h.split, dropWhile_append_rest h.spaces h.head_not_space]
  rcases h.sign with rfl | rfl | rfl
  · rw [List.nil_append, takeSign_append_digits h.ne_nil h.digits]
  · rfl
  · rfl

/-- What `takeSign` leaves, together with the sign, is the text. -/
theorem takeSign_append (text : List Char) :
    (takeSign text).1 ++ (takeSign text).2 = text ∧
      ((takeSign text).1 = [] ∨ (takeSign text).1 = ['+'] ∨ (takeSign text).1 = ['-']) := by
  unfold takeSign
  split <;> simp

/-- What is left after `dropWhile` does not begin with such a character. -/
theorem head?_dropWhile_not {p : Char → Bool} (text : List Char) :
    ∀ c ∈ (text.dropWhile p).head?, ¬ p c := by
  intro c hc
  have hnot := List.head?_dropWhile_not p text
  rw [Option.mem_def.mp hc] at hnot
  simpa using hnot

/-- The parts that `stoul` takes from a text with a digit in the right place. -/
theorem numberIn_takeSign {text : List Char}
    (h : (takeSign (text.dropWhile isSpace)).2.takeWhile Char.isDigit ≠ []) :
    NumberIn text (text.takeWhile isSpace) (takeSign (text.dropWhile isSpace)).1
      ((takeSign (text.dropWhile isSpace)).2.takeWhile Char.isDigit)
      ((takeSign (text.dropWhile isSpace)).2.dropWhile Char.isDigit) where
  split := by
    rw [List.takeWhile_append_dropWhile, (takeSign_append _).1, List.takeWhile_append_dropWhile]
  spaces c hc := List.mem_takeWhile_imp hc
  sign := (takeSign_append _).2
  ne_nil := h
  digits c hc := List.mem_takeWhile_imp hc
  rest := head?_dropWhile_not _

/-- `stoul` reads the texts that have digits in the right place and within the range. -/
theorem stoul_eq_some_iff {s : String} {n : Nat} : stoul s = some n ↔
    ∃ spaces sign digits rest, NumberIn s.toList spaces sign digits rest ∧
      decimalValue digits < ulongSize ∧ n = signedValue sign digits := by
  constructor
  · intro h
    simp only [stoul] at h
    split at h
    · cases h
    · rename_i hne
      split at h
      · cases h
      · rename_i hlt
        exact ⟨_, _, _, _, numberIn_takeSign hne, Nat.lt_of_not_le hlt, (Option.some.inj h).symm⟩
  · rintro ⟨spaces, sign, digits, rest, hnumber, hlt, rfl⟩
    simp only [stoul]
    rw [hnumber.takeSign_eq, takeWhile_append_rest hnumber.digits hnumber.rest,
      if_neg hnumber.ne_nil, if_neg (Nat.not_le.mpr hlt)]

/-- A text that is no numeral but from which `stoul` reads `n`: there is white space or a sign
in front of the digits, or something behind them. -/
def Lenient (s : String) (n : Nat) : Prop :=
  ∃ spaces sign digits rest, NumberIn s.toList spaces sign digits rest ∧
    decimalValue digits < ulongSize ∧ n = signedValue sign digits ∧
    ¬ (spaces = [] ∧ sign = [] ∧ rest = [])

/-- A text with something around the digits is no numeral. -/
theorem Lenient.not_isNumeral {s : String} {n m : Nat} (h : Lenient s n) : ¬ IsNumeral s m := by
  obtain ⟨spaces, sign, digits, rest, hnumber, -, -, hextra⟩ := h
  rintro ⟨-, hdigits, -⟩
  have hsplit := hnumber.split
  refine hextra ⟨?_, ?_, ?_⟩
  · by_contra hne
    obtain ⟨c, spaces, rfl⟩ := List.exists_cons_of_ne_nil hne
    have hspace := hnumber.spaces c (by simp)
    rw [(isSpace_of_isDigit (hdigits c (by simp [hsplit]))).1] at hspace
    cases hspace
  · rcases hnumber.sign with rfl | rfl | rfl
    · rfl
    · exact absurd (hdigits '+' (by simp [hsplit])) (by decide)
    · exact absurd (hdigits '-' (by simp [hsplit])) (by decide)
  · by_contra hne
    obtain ⟨c, rest, rfl⟩ := List.exists_cons_of_ne_nil hne
    exact hnumber.rest c rfl (hdigits c (by simp [hsplit]))

/-- The texts that `stoul` reads: numerals and the lenient ones. -/
theorem stoul_cases {s : String} {n : Nat} :
    stoul s = some n ↔ (IsNumeral s n ∧ n < ulongSize) ∨ Lenient s n := by
  rw [stoul_eq_some_iff]
  constructor
  · rintro ⟨spaces, sign, digits, rest, hnumber, hlt, rfl⟩
    by_cases hextra : spaces = [] ∧ sign = [] ∧ rest = []
    · obtain ⟨rfl, rfl, rfl⟩ := hextra
      have htext : s.toList = digits := by simpa using hnumber.split
      refine .inl ⟨⟨htext ▸ hnumber.ne_nil, htext ▸ hnumber.digits, ?_⟩, ?_⟩
      · simp [htext, signedValue]
      · simpa [signedValue] using hlt
    · exact .inr ⟨spaces, sign, digits, rest, hnumber, hlt, rfl, hextra⟩
  · rintro (⟨⟨hne, hdigits, rfl⟩, hlt⟩ | ⟨spaces, sign, digits, rest, hnumber, hlt, rfl, -⟩)
    · refine ⟨[], [], s.toList, [], ⟨by simp, by simp, .inl rfl, hne, hdigits, by simp⟩, hlt, ?_⟩
      simp [signedValue]
    · exact ⟨spaces, sign, digits, rest, hnumber, hlt, rfl⟩

/-- The text of a number is a numeral of it. -/
theorem isNumeral_toString (n : Nat) : IsNumeral (toString n) n := by
  have hchars : (toString n).toList = Nat.toDigits 10 n := by
    show (Nat.repr n).toList = _
    simp [Nat.repr]
  refine ⟨?_, ?_, ?_⟩
  · rw [hchars]
    exact Nat.toDigits_ne_nil
  · rw [hchars]
    intro c hc
    exact Nat.isDigit_of_mem_toDigits (by decide) (by decide) hc
  · have hvalue := Nat.ofDigitChars_toDigits (b := 10) (n := n) (by decide) (by decide)
    rw [Nat.ofDigitChars_eq_foldl] at hvalue
    rw [hchars]
    exact hvalue

end ChatCore.Lib
