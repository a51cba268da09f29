import ChatCore.Lib.Json
import Mathlib.Data.Rat.Cast.CharZero

/-!
# `ChatCore.Lib.JsonExact`: readers that change no value

A reader that casts numbers may accept a value and read another one. `Covers p q` says that
every value of `q` is the value that `p` holds in the same place. Numbers are compared as
numbers, so `1.0` is `1`, and the fields of a record in `p` that are not in `q` do not count.
With `q` the JSON form of what was read from `p`, this says that reading changed no value.

`Codec.Exact c ok` says that for all inputs that `c` accepts, reading changes no value exactly
when the input satisfies `ok`. There is a rule for each codec. For an unsigned integer the
condition is `IsUnsigned`: the value is a number, and an integer within the range of the type.
A list hands the condition to its elements (`Each`) and a record to its fields (`Fields`).
Fields that are always exact, such as texts, need no entry in a `Fields` condition.
-/

set_option autoImplicit false

namespace ChatCore.Lib

namespace Json

/-- The number that a JSON value is. -/
def number? : Json → Option Rat
  | .numberUnsigned n => some n
  | .numberInteger n => some n
  | .numberFloat x => some x
  | _ => none

/-- `p` holds every value of `q` in the place where `q` has it. -/
inductive Covers : Json → Json → Prop
  | null : Covers .null .null
  | boolean (value : Bool) : Covers (.boolean value) (.boolean value)
  | string (value : String) : Covers (.string value) (.string value)
  | number {p q : Json} {x : Rat} : p.number? = some x → q.number? = some x → Covers p q
  | array {elements elements' : List Json} : List.Forall₂ Covers elements elements' →
      Covers (.array elements) (.array elements')
  | object {p : Json} {fields : List (String × Json)} :
      (∀ key value, fields.lookup key = some value → (p.atKey key).isSome) →
      (∀ key value value', fields.lookup key = some value → p.atKey key = some value' →
        Covers value' value) →
      Covers p (.object fields)

/-- The value is an integer within the range of an unsigned type. -/
def IsUnsigned (bits : Nat) (json : Json) : Prop :=
  ∃ n : Nat, n < 2 ^ bits ∧ json.number? = some (n : Rat)

/-- Every element of a list satisfies `ok`. -/
def Each (ok : Json → Prop) (json : Json) : Prop :=
  ∀ elements, json = .array elements → ∀ e ∈ elements, ok e

/-- Every field that the list names satisfies its condition. -/
def Fields (conditions : List (String × (Json → Prop))) (json : Json) : Prop :=
  ∀ condition ∈ conditions, ∀ value, json.atKey condition.1 = some value → condition.2 value

/-- What covers an unsigned number is that number. -/
theorem covers_numberUnsigned_iff {json : Json} {n : Nat} :
    Covers json (.numberUnsigned n) ↔ json.number? = some (n : Rat) := by
  constructor
  · intro h
    cases h with
    | number hp hq =>
      cases hq
      exact hp
  · intro h
    exact .number h rfl

/-- Only the string itself covers a string. -/
theorem covers_string_iff {json : Json} {s : String} :
    Covers json (.string s) ↔ json = .string s := by
  constructor
  · intro h
    cases h with
    | string => rfl
    | number _ hq => cases hq
  · rintro rfl
    exact .string s

/-- An array covers an array element by element. -/
theorem covers_array_iff {elements elements' : List Json} :
    Covers (.array elements) (.array elements') ↔ List.Forall₂ Covers elements elements' := by
  constructor
  · intro h
    cases h with
    | number _ hq => cases hq
    | array h => exact h
  · exact .array

/-- What covers an object has all its fields. -/
theorem covers_object_iff {p : Json} {fields : List (String × Json)} :
    Covers p (.object fields) ↔ ∀ key value, fields.lookup key = some value →
      ∃ value', p.atKey key = some value' ∧ Covers value' value := by
  constructor
  · intro h
    cases h with
    | number _ hq => cases hq
    | object hsome hcovers =>
      intro key value hvalue
      obtain ⟨value', hvalue'⟩ := Option.isSome_iff_exists.mp (hsome key value hvalue)
      exact ⟨value', hvalue', hcovers key value value' hvalue hvalue'⟩
  · intro h
    refine .object (fun key value hvalue => ?_) fun key value value' hvalue hvalue' => ?_
    · obtain ⟨value', hvalue', -⟩ := h key value hvalue
      simp [hvalue']
    · obtain ⟨value'', hvalue'', hcovers⟩ := h key value hvalue
      cases hvalue'.symm.trans hvalue''
      exact hcovers

/-- The remainder of a cast to `bits` bits fits them. -/
theorem toNat_emod_lt (m : Int) (bits : Nat) : (m % ((2 ^ bits : Nat) : Int)).toNat < 2 ^ bits := by
  have hpos : (0 : Int) < ((2 ^ bits : Nat) : Int) := by exact_mod_cast Nat.two_pow_pos bits
  have hlt := Int.emod_lt_of_pos m hpos
  have hnonneg := Int.emod_nonneg m hpos.ne'
  omega

/-- A number that is read is below the size of the type. -/
theorem getUnsigned_lt {bits n : Nat} {json : Json} {x : Rat} (hx : json.number? = some x)
    (h : json.getUnsigned bits = some n) : n < 2 ^ bits := by
  cases json with
  | numberUnsigned m =>
    cases h
    exact Nat.mod_lt _ (Nat.two_pow_pos bits)
  | numberInteger m =>
    cases h
    exact toNat_emod_lt m bits
  | numberFloat m =>
    cases h
    exact toNat_emod_lt _ bits
  | _ => cases hx

/-- An integer within the range is read as it is, in whichever form it is written. -/
theorem getUnsigned_of_number? {bits n : Nat} {json : Json} (hlt : n < 2 ^ bits)
    (h : json.number? = some (n : Rat)) : json.getUnsigned bits = some n := by
  have hmod : ((n : Int) % ((2 ^ bits : Nat) : Int)).toNat = n := by
    rw [Int.emod_eq_of_lt (Int.natCast_nonneg n) (by exact_mod_cast hlt), Int.toNat_natCast]
  cases json with
  | numberUnsigned m =>
    have hm : m = n := by simpa [number?] using h
    rw [hm]
    simp [getUnsigned, Nat.mod_eq_of_lt hlt]
  | numberInteger m =>
    have hm : m = (n : Int) := by
      have hcast : (m : Rat) = ((n : Int) : Rat) := by simpa [number?] using h
      exact_mod_cast hcast
    rw [hm]
    simp only [getUnsigned, hmod]
  | numberFloat x =>
    have hx : x = (n : Rat) := by simpa [number?] using h
    rw [hx]
    simp only [getUnsigned, Rat.num_natCast, Rat.den_natCast]
    simpa using hmod
  | _ => cases h

end Json

namespace Codec

open Json

variable {α R : Type}

/-- On the inputs that `c` accepts, reading changes no value exactly when `ok` holds. -/
def Exact (c : Codec α) (ok : Json → Prop) : Prop :=
  ∀ json a, c.fromJson json = some a → (Covers json (c.toJson a) ↔ ok json)

/-- A codec that never changes a value. -/
def AlwaysExact (c : Codec α) : Prop := c.Exact fun _ => True

/-- An unsigned field is read exactly when the value is an unsigned number that fits. -/
theorem exact_unsigned (bits : Nat) : (unsigned bits).Exact (IsUnsigned bits) := by
  intro json n hread
  show Covers json (.numberUnsigned n) ↔ _
  rw [covers_numberUnsigned_iff]
  constructor
  · intro hnumber
    exact ⟨n, getUnsigned_lt hnumber hread, hnumber⟩
  · rintro ⟨m, hlt, hnumber⟩
    cases (getUnsigned_of_number? hlt hnumber).symm.trans hread
    exact hnumber

/-- A string field is always read exactly. -/
theorem exact_string : string.AlwaysExact := by
  intro json s hread
  show Covers json (.string s) ↔ _
  rw [covers_string_iff]
  refine iff_of_true ?_ trivial
  cases json with
  | string value =>
    cases hread
    rfl
  | _ => cases hread

/-- The elements of a list that was read. -/
theorem Exact.forall₂_iff {c : Codec α} {ok : Json → Prop} (h : c.Exact ok) :
    ∀ {elements : List Json} {values : List α}, elements.mapM c.fromJson = some values →
      (List.Forall₂ Covers elements (values.map c.toJson) ↔ ∀ e ∈ elements, ok e) := by
  intro elements
  induction elements with
  | nil =>
    intro values hread
    cases hread
    simp
  | cons e elements ih =>
    intro values hread
    rw [List.mapM_cons] at hread
    obtain ⟨a, ha, hread'⟩ := Option.bind_eq_some_iff.mp hread
    obtain ⟨rest, hrest, hvalues⟩ := Option.bind_eq_some_iff.mp hread'
    cases hvalues
    rw [List.map_cons, List.forall₂_cons, ih hrest, h e a ha, List.forall_mem_cons]

/-- A list is read exactly when each element is. -/
theorem exact_vector {c : Codec α} {ok : Json → Prop} (h : c.Exact ok) :
    (vector c).Exact (Each ok) := by
  intro json values hread
  cases json with
  | array elements =>
    show Covers (.array elements) (.array (values.map c.toJson)) ↔ _
    rw [covers_array_iff, h.forall₂_iff hread, Each]
    simp
  | _ => cases hread

/-- Each field is read back after it was set, and the fields behind it do not touch it. -/
def Lawful : List (Field R) → Prop
  | [] => True
  | f :: fields => (∀ r a, f.get (f.set r a) = a) ∧
    (∀ g ∈ fields, ∀ r b, f.get (g.set r b) = f.get r) ∧ Lawful fields

/-- The conditions of a list of fields. A field whose codec is always exact has none. -/
inductive FieldsExact : List (Field R) → List (String × (Json → Prop)) → Prop
  | nil : FieldsExact [] []
  | cons {f : Field R} {fields : List (Field R)} {ok : Json → Prop}
      {conditions : List (String × (Json → Prop))} : f.codec.Exact ok →
      FieldsExact fields conditions → FieldsExact (f :: fields) ((f.key, ok) :: conditions)
  | skip {f : Field R} {fields : List (Field R)} {conditions : List (String × (Json → Prop))} :
      f.codec.AlwaysExact → FieldsExact fields conditions → FieldsExact (f :: fields) conditions

/-- Fields that are read later leave a field as it is. -/
theorem get_foldlM_read {json : Json} {f : Field R} : ∀ {fields : List (Field R)} {t r : R},
    (∀ g ∈ fields, ∀ r b, f.get (g.set r b) = f.get r) →
    fields.foldlM (fun t g => g.read json t) t = some r → f.get r = f.get t := by
  intro fields
  induction fields with
  | nil =>
    intro t r _ hread
    cases hread
    rfl
  | cons g fields ih =>
    intro t r hlaws hread
    rw [List.foldlM_cons] at hread
    obtain ⟨u, hu, hrest⟩ := Option.bind_eq_some_iff.mp hread
    rw [ih (fun g' hg' => hlaws g' (List.mem_cons_of_mem _ hg')) hrest]
    simp only [Field.read, Option.bind_eq_some_iff, Option.map_eq_some_iff] at hu
    obtain ⟨value, -, b, -, rfl⟩ := hu
    exact hlaws g List.mem_cons_self t b

/-- What was read of a record: each listed field comes from the value under its key. -/
theorem read_of_mem {json : Json} : ∀ {fields : List (Field R)} {t r : R}, Lawful fields →
    fields.foldlM (fun t g => g.read json t) t = some r →
    ∀ f ∈ fields, ∃ value, json.atKey f.key = some value ∧
      f.codec.fromJson value = some (f.get r) := by
  intro fields
  induction fields with
  | nil =>
    intro t r _ _ f hf
    cases hf
  | cons g fields ih =>
    intro t r hlaws hread f hf
    rw [List.foldlM_cons] at hread
    obtain ⟨u, hu, hrest⟩ := Option.bind_eq_some_iff.mp hread
    rcases List.mem_cons.mp hf with rfl | hf
    · rw [get_foldlM_read hlaws.2.1 hrest]
      simp only [Field.read, Option.bind_eq_some_iff, Option.map_eq_some_iff] at hu
      obtain ⟨value, hvalue, b, hb, rfl⟩ := hu
      exact ⟨value, hvalue, by rw [hlaws.1, hb]⟩
    · exact ih hlaws.2.2 hrest f hf

/-- A record covers field by field. -/
theorem covers_toJson_iff {init r : R} {fields : List (Field R)} {json : Json}
    (hkeys : (fields.map Field.key).Nodup) :
    Covers json ((defineType init fields).toJson r) ↔
      ∀ f ∈ fields, ∃ value, json.atKey f.key = some value ∧ Covers value (f.write r) := by
  have hwritten : ∀ f ∈ fields,
      ((defineType init fields).toJson r).atKey f.key = some (f.write r) :=
    fun f hf => atKey_toJson r hkeys hf
  show Covers json (.object _) ↔ _
  rw [covers_object_iff]
  constructor
  · intro h f hf
    exact h f.key (f.write r) (hwritten f hf)
  · intro h key value hvalue
    by_cases hkey : key ∈ fields.map Field.key
    · obtain ⟨f, hf, rfl⟩ := List.mem_map.mp hkey
      cases hvalue.symm.trans (hwritten f hf)
      exact h f hf
    · rw [lookup_foldl_insertField r key fields [] hkey] at hvalue
      cases hvalue

/-- The conditions of the fields against what is covered, for a record that was read. -/
theorem FieldsExact.covers_iff {r : R} {json : Json} {fields : List (Field R)}
    {conditions : List (String × (Json → Prop))} (h : FieldsExact fields conditions)
    (hread : ∀ f ∈ fields, ∃ value, json.atKey f.key = some value ∧
      f.codec.fromJson value = some (f.get r)) :
    (∀ f ∈ fields, ∃ value, json.atKey f.key = some value ∧ Covers value (f.write r)) ↔
      Fields conditions json := by
  -- A field that was read has one value under its key.
  have hfield : ∀ {f : Field R} {ok : Json → Prop}, f.codec.Exact ok →
      (∃ value, json.atKey f.key = some value ∧ f.codec.fromJson value = some (f.get r)) →
      ((∃ value, json.atKey f.key = some value ∧ Covers value (f.write r)) ↔
        ∀ value, json.atKey f.key = some value → ok value) := by
    rintro f ok hexact ⟨value, hvalue, hfrom⟩
    simp only [hvalue, Option.some.injEq, exists_eq_left', forall_eq']
    exact hexact value _ hfrom
  induction h with
  | nil => simp [Fields]
  | cons hexact _ ih =>
    rw [List.forall_mem_cons] at hread
    rw [List.forall_mem_cons, Fields, List.forall_mem_cons]
    exact and_congr (hfield hexact hread.1) (ih hread.2)
  | skip hexact _ ih =>
    rw [List.forall_mem_cons] at hread
    rw [List.forall_mem_cons]
    have hcovers := (hfield hexact hread.1).mpr fun _ _ => trivial
    exact (and_iff_right hcovers).trans (ih hread.2)

/-- A record is read without a change exactly when its fields are. -/
theorem exact_defineType {init : R} {fields : List (Field R)}
    {conditions : List (String × (Json → Prop))} (hkeys : (fields.map Field.key).Nodup)
    (hlaws : Lawful fields) (hfields : FieldsExact fields conditions) :
    (defineType init fields).Exact (Fields conditions) := by
  intro json r hread
  rw [covers_toJson_iff hkeys]
  exact hfields.covers_iff (read_of_mem hlaws hread)

end Codec

end ChatCore.Lib
