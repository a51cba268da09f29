import Mathlib.Algebra.Order.BigOperators.Group.List
import Mathlib.Algebra.Order.Group.Nat
import ChatCore.Lib.Json

/-!
# `ChatCore.Lib.JsonText`: the text of a JSON value and its size

The compact text that `nlohmann::json::dump()` is documented to write: no blanks, the fields of
an object in the order of its keys, characters beyond ASCII as they are, and only the characters
escaped that JSON demands. The text of a double is left open (`float`).

`size` is the number of bytes of the text in UTF-8. The size of a record follows from its listed
fields alone (`size_defineType`), because the order of the fields does not matter for it.
-/

set_option autoImplicit false

namespace ChatCore.Lib.Json

/-- A character in a quoted string. -/
def escape (c : Char) : List Char :=
  if c = '\x22' then ['\\', '\x22']
  else if c = '\\' then ['\\', '\\']
  else if c = '\x08' then ['\\', 'b']
  else if c = '\t' then ['\\', 't']
  else if c = '\n' then ['\\', 'n']
  else if c = '\x0c' then ['\\', 'f']
  else if c = '\r' then ['\\', 'r']
  else if c.toNat < 32 then
    ['\\', 'u', '0', '0', Nat.digitChar (c.toNat / 16), Nat.digitChar (c.toNat % 16)]
  else [c]

/-- A string with its quotes. -/
def quote (s : String) : List Char := '\x22' :: s.toList.flatMap escape ++ ['\x22']

mutual

/-- The text of a value. -/
def text (float : Rat → List Char) : Json → List Char
  | .null => ['n', 'u', 'l', 'l']
  | .boolean true => ['t', 'r', 'u', 'e']
  | .boolean false => ['f', 'a', 'l', 's', 'e']
  | .numberUnsigned n => Nat.toDigits 10 n
  | .numberInteger n => (if n < 0 then ['-'] else []) ++ Nat.toDigits 10 n.natAbs
  | .numberFloat x => float x
  | .string s => quote s
  | .array elements => '[' :: [','].intercalate (elementTexts float elements) ++ [']']
  | .object fields => '\x7b' :: [','].intercalate (fieldTexts float fields) ++ ['\x7d']

def elementTexts (float : Rat → List Char) : List Json → List (List Char)
  | [] => []
  | value :: rest => text float value :: elementTexts float rest

def fieldTexts (float : Rat → List Char) : List (String × Json) → List (List Char)
  | [] => []
  | (key, value) :: rest => (quote key ++ ':' :: text float value) :: fieldTexts float rest

end

/-- The bytes of a text. -/
def utf8 (cs : List Char) : List UInt8 := cs.flatMap String.utf8EncodeChar

/-- The bytes of the text of a value. -/
def size (float : Rat → List Char) (value : Json) : Nat := (utf8 (text float value)).length

/-- The digits of a number. -/
def decimalSize (n : Nat) : Nat := (Nat.toDigits 10 n).length

/-- The bytes of a character in a quoted string. -/
def escapedSize (c : Char) : Nat :=
  if c = '\x22' ∨ c = '\\' ∨ c = '\x08' ∨ c = '\t' ∨ c = '\n' ∨ c = '\x0c' ∨ c = '\r' then 2
  else if c.toNat < 32 then 6
  else c.utf8Size

/-- The bytes of a string with its quotes. -/
def quotedSize (s : String) : Nat := 2 + (s.toList.map escapedSize).sum

/-- The bytes of an array whose elements have the given sizes. -/
def arraySize (sizes : List Nat) : Nat := 2 + sizes.sum + (sizes.length - 1)

/-! ### The sizes of the texts -/

/-- The bytes of a text are those of its characters. -/
theorem length_utf8 (cs : List Char) : (utf8 cs).length = (cs.map Char.utf8Size).sum := by
  induction cs with
  | nil => rfl
  | cons c cs ih =>
    rw [utf8, List.flatMap_cons, List.length_append, String.length_utf8EncodeChar, List.map_cons,
      List.sum_cons, ← ih]
    rfl

/-- The bytes of two texts one after the other. -/
theorem length_utf8_append (cs ds : List Char) :
    (utf8 (cs ++ ds)).length = (utf8 cs).length + (utf8 ds).length := by
  rw [utf8, List.flatMap_append, List.length_append]
  rfl

/-- The bytes of a text without its first character. -/
theorem length_utf8_cons (c : Char) (cs : List Char) :
    (utf8 (c :: cs)).length = c.utf8Size + (utf8 cs).length := by
  rw [utf8, List.flatMap_cons, List.length_append, String.length_utf8EncodeChar]
  rfl

/-- A digit is one byte. -/
theorem utf8Size_of_isDigit {c : Char} (h : c.isDigit = true) : c.utf8Size = 1 := by
  have hle : c.val ≤ 57 := by
    simp only [Char.isDigit, Bool.and_eq_true, decide_eq_true_eq] at h
    exact h.2
  rw [Char.utf8Size_eq_one_iff]
  exact UInt32.le_trans hle (by decide)

/-- A hexadecimal digit is one byte. -/
theorem utf8Size_digitChar : ∀ d < 16, (Nat.digitChar d).utf8Size = 1 := by decide

/-- The bytes of a number in decimal digits. -/
theorem length_utf8_toDigits (n : Nat) : (utf8 (Nat.toDigits 10 n)).length = decimalSize n := by
  have hone : ∀ c ∈ Nat.toDigits 10 n, c.utf8Size = 1 := fun c hc =>
    utf8Size_of_isDigit (Nat.isDigit_of_mem_toDigits (by decide) (by decide) hc)
  rw [length_utf8, decimalSize, List.map_congr_left hone, List.map_const',
    List.sum_replicate_nat, Nat.mul_one]

/-- A number below ten has one digit. -/
theorem decimalSize_of_one_digit {n : Nat} (h : n < 10) : decimalSize n = 1 := by
  rw [decimalSize, Nat.toDigits_of_lt_base h]
  rfl

/-- A number from 100 to 999 has three digits. -/
theorem decimalSize_of_three_digits {n : Nat} (hmin : 100 ≤ n) (hmax : n < 1000) :
    decimalSize n = 3 := by
  have hle : decimalSize n ≤ 3 := (Nat.length_toDigits_le_iff (by decide) (by decide)).mpr hmax
  have hgt : ¬ decimalSize n ≤ 2 := fun h =>
    absurd ((Nat.length_toDigits_le_iff (by decide) (by decide)).mp h) (Nat.not_lt.mpr hmin)
  omega

/-- A number below `10 ^ k` has at most `k` digits. -/
theorem decimalSize_le {n k : Nat} (hk : 0 < k) (h : n < 10 ^ k) : decimalSize n ≤ k :=
  (Nat.length_toDigits_le_iff (by decide) hk).mpr h

/-- A concatenation has one pair of quotes. -/
theorem quotedSize_append (a b : String) :
    quotedSize (a ++ b) + 2 = quotedSize a + quotedSize b := by
  simp only [quotedSize, String.toList_append, List.map_append, List.sum_append]
  omega

/-- An array of at most `n` elements, each of at most `bound` bytes together with its comma. -/
theorem arraySize_le {sizes : List Nat} {n bound : Nat} (hlen : sizes.length ≤ n)
    (h : ∀ size ∈ sizes, size + 1 ≤ bound) : arraySize sizes ≤ 2 + n * bound := by
  have hsum : (sizes.map (· + 1)).sum ≤ (sizes.map (· + 1)).length * bound := by
    rw [← Nat.nsmul_eq_mul]
    refine List.sum_le_card_nsmul _ bound fun k hk => ?_
    obtain ⟨size, hsize, rfl⟩ := List.mem_map.mp hk
    exact h size hsize
  have hcommas : (sizes.map (· + 1)).sum = sizes.sum + sizes.length := by
    rw [List.sum_map_add, List.map_id', List.map_const', List.sum_replicate_nat, Nat.mul_one]
  have hmul : sizes.length * bound ≤ n * bound := Nat.mul_le_mul_right _ hlen
  rw [List.length_map] at hsum
  unfold arraySize
  omega

/-- The bytes of a character in a quoted string. -/
theorem length_utf8_escape (c : Char) : (utf8 (escape c)).length = escapedSize c := by
  simp only [escape, escapedSize]
  by_cases hshort : c = '\x22' ∨ c = '\\' ∨ c = '\x08' ∨ c = '\t' ∨ c = '\n' ∨ c = '\x0c' ∨ c = '\r'
  · rw [if_pos hshort]
    rcases hshort with rfl | rfl | rfl | rfl | rfl | rfl | rfl <;> rfl
  · rw [if_neg hshort]
    simp only [not_or] at hshort
    obtain ⟨h1, h2, h3, h4, h5, h6, h7⟩ := hshort
    rw [if_neg h1, if_neg h2, if_neg h3, if_neg h4, if_neg h5, if_neg h6, if_neg h7]
    split
    · rename_i hcontrol
      simp only [length_utf8, List.map_cons, List.map_nil, List.sum_cons, List.sum_nil]
      rw [utf8Size_digitChar (c.toNat / 16) (by omega), utf8Size_digitChar (c.toNat % 16) (by omega)]
      rfl
    · rw [length_utf8_cons]
      rfl

/-- The bytes of a quoted string. -/
theorem length_utf8_quote (s : String) : (utf8 (quote s)).length = quotedSize s := by
  have hescape : ∀ cs : List Char,
      (utf8 (cs.flatMap escape)).length = (cs.map escapedSize).sum := by
    intro cs
    induction cs with
    | nil => rfl
    | cons c cs ih =>
      rw [List.flatMap_cons, length_utf8_append, length_utf8_escape, ih, List.map_cons,
        List.sum_cons]
  have hquote : ('\x22' : Char).utf8Size = 1 := rfl
  rw [quote, List.cons_append, length_utf8_cons, length_utf8_append, hescape, length_utf8_cons,
    hquote, quotedSize]
  show 1 + ((s.toList.map escapedSize).sum + (1 + 0)) = 2 + (s.toList.map escapedSize).sum
  omega

/-- Commas stand between the texts. -/
theorem length_utf8_intercalate (texts : List (List Char)) :
    (utf8 ([','].intercalate texts)).length
      = (texts.map fun cs => (utf8 cs).length).sum + (texts.length - 1) := by
  induction texts with
  | nil => rfl
  | cons cs texts ih =>
    cases texts with
    | nil => simp
    | cons ds texts =>
      rw [List.intercalate_cons_cons, length_utf8_append, length_utf8_append, ih]
      simp only [List.map_cons, List.sum_cons, List.length_cons]
      show (utf8 cs).length + 1 + ((utf8 ds).length + _ + _) = _
      omega

variable (float : Rat → List Char)

/-- The texts of the elements, without the recursion. -/
theorem elementTexts_eq (elements : List Json) :
    elementTexts float elements = elements.map (text float) := by
  induction elements with
  | nil => rfl
  | cons value rest ih => rw [elementTexts, ih, List.map_cons]

/-- The texts of the fields, without the recursion. -/
theorem fieldTexts_eq (fields : List (String × Json)) :
    fieldTexts float fields = fields.map fun f => quote f.1 ++ ':' :: text float f.2 := by
  induction fields with
  | nil => rfl
  | cons f rest ih => rw [fieldTexts, ih, List.map_cons]

/-- The size of an unsigned number. -/
@[simp] theorem size_numberUnsigned (n : Nat) : size float (.numberUnsigned n) = decimalSize n := by
  rw [size, text, length_utf8_toDigits]

/-- The size of a string. -/
@[simp] theorem size_string (s : String) : size float (.string s) = quotedSize s := by
  rw [size, text, length_utf8_quote]

/-- Two brackets around the texts. -/
theorem length_utf8_bracket {left right : Char} (hleft : left.utf8Size = 1)
    (hright : right.utf8Size = 1) (texts : List (List Char)) :
    (utf8 (left :: [','].intercalate texts ++ [right])).length
      = arraySize (texts.map fun cs => (utf8 cs).length) := by
  rw [List.cons_append, length_utf8_cons, length_utf8_append, length_utf8_intercalate,
    length_utf8_cons, hleft, hright, arraySize, List.length_map]
  show 1 + (_ + (texts.length - 1) + (1 + 0)) = _
  omega

/-- The size of an array depends on the sizes of its elements. -/
@[simp] theorem size_array (elements : List Json) :
    size float (.array elements) = arraySize (elements.map (size float)) := by
  rw [size, text, length_utf8_bracket rfl rfl, elementTexts_eq, List.map_map]
  rfl

/-- The bytes of a field of an object: the key, the colon and the value. -/
def fieldSize (key : String) (value : Json) : Nat := quotedSize key + 1 + size float value

/-- The size of an object depends on the sizes of its fields. -/
theorem size_object (fields : List (String × Json)) :
    size float (.object fields) = arraySize (fields.map fun f => fieldSize float f.1 f.2) := by
  rw [size, text, length_utf8_bracket rfl rfl, fieldTexts_eq, List.map_map]
  congr 1
  refine List.map_congr_left fun f _ => ?_
  show (utf8 (quote f.1 ++ ':' :: text float f.2)).length = quotedSize f.1 + 1 + size float f.2
  rw [length_utf8_append, length_utf8_quote, length_utf8_cons, Nat.add_assoc]
  rfl

/-- The size of an array does not depend on the order. -/
theorem arraySize_perm {sizes sizes' : List Nat} (h : sizes.Perm sizes') :
    arraySize sizes = arraySize sizes' := by
  rw [arraySize, arraySize, h.sum_nat, h.length_eq]

/-- The assignment to a new key adds a field. -/
theorem insertField_perm {key : String} (value : Json) : ∀ {fields : List (String × Json)},
    key ∉ fields.map Prod.fst → (insertField key value fields).Perm ((key, value) :: fields) := by
  intro fields
  induction fields with
  | nil => exact fun _ => .refl _
  | cons f fields ih =>
    intro hkey
    rw [List.map_cons, List.mem_cons, not_or] at hkey
    simp only [insertField]
    rw [if_neg hkey.1]
    split
    · exact .refl _
    · exact ((ih hkey.2).cons f).trans (.swap _ _ _)

end ChatCore.Lib.Json

namespace ChatCore.Lib.Codec

open Json

variable {R : Type}

/-- The fields of a written record are the listed ones, on top of what was there before. -/
theorem foldl_insertField_perm (r : R) : ∀ {fields : List (Field R)} {object : List (String × Json)},
    (fields.map Field.key).Nodup → (∀ f ∈ fields, f.key ∉ object.map Prod.fst) →
    (fields.foldl (fun object f => insertField f.key (f.write r) object) object).Perm
      (fields.map (fun f => (f.key, f.write r)) ++ object) := by
  intro fields
  induction fields with
  | nil => exact fun _ _ => .refl _
  | cons f fields ih =>
    intro object hnodup hnew
    rw [List.map_cons, List.nodup_cons] at hnodup
    have hperm := insertField_perm (f.write r) (hnew f List.mem_cons_self)
    have hnew' : ∀ g ∈ fields, g.key ∉ (insertField f.key (f.write r) object).map Prod.fst := by
      intro g hg hmem
      rw [(hperm.map Prod.fst).mem_iff, List.map_cons, List.mem_cons] at hmem
      rcases hmem with heq | hmem
      · have hkey : f.key ∈ fields.map Field.key := List.mem_map.mpr ⟨g, hg, heq⟩
        exact hnodup.1 hkey
      · exact hnew g (List.mem_cons_of_mem _ hg) hmem
    rw [List.foldl_cons]
    refine (ih hnodup.2 hnew').trans ?_
    exact (hperm.append_left _).trans List.perm_middle

/-- The size of a record is the size of its listed fields. -/
theorem size_defineType (float : Rat → List Char) {init r : R} {fields : List (Field R)}
    (hkeys : (fields.map Field.key).Nodup) :
    size float ((defineType init fields).toJson r)
      = arraySize (fields.map fun f => fieldSize float f.key (f.write r)) := by
  have hperm : (fields.foldl (fun object f => insertField f.key (f.write r) object) []).Perm
      (fields.map (fun f => (f.key, f.write r)) ++ []) :=
    foldl_insertField_perm r hkeys fun _ _ => List.not_mem_nil
  show size float (.object (fields.foldl _ [])) = _
  rw [size_object, arraySize_perm (hperm.map _), List.append_nil, List.map_map]
  rfl

end ChatCore.Lib.Codec
