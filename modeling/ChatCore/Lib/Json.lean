import Mathlib.Algebra.GroupWithZero.Nat
import Mathlib.Tactic.Common

/-!
# `ChatCore.Lib.Json`: JSON values and codecs of records

The JSON values of a C++ library in the style of `nlohmann::json`. A number is unsigned, signed
or floating. A finite double is a rational number. An object is a map, so its fields are kept in
the order of their keys and a key occurs once (`insertField`).

A `Codec` writes and reads a type. `Codec.defineType` is the codec of a record that lists its
fields (`Field`): the writer writes the listed fields, and the reader starts with a default
value and reads the listed fields into it. `Codec.Reads c a b` says that the reader gets `b`
from what the writer made of `a`, and there is a rule for each codec.
-/

set_option autoImplicit false

namespace ChatCore.Lib

inductive Json where
  | null
  | boolean (value : Bool)
  | numberUnsigned (value : Nat)
  | numberInteger (value : Int)
  | numberFloat (value : Rat)
  | string (value : String)
  | array (elements : List Json)
  | object (fields : List (String × Json))

namespace Json

/-- Assignment to a key of an object. -/
def insertField (key : String) (value : Json) : List (String × Json) → List (String × Json)
  | [] => [(key, value)]
  | (k, v) :: rest =>
    if key = k then (k, value) :: rest
    else if key < k then (key, value) :: (k, v) :: rest
    else (k, v) :: insertField key value rest

/-- The value at a key, `none` for a missing key and for a value that is no object. -/
def atKey (key : String) : Json → Option Json
  | .object fields => fields.lookup key
  | _ => none

/-- Conversion to an unsigned integer type by `static_cast`. A boolean converts to the types
below 64 bits. A double outside of the range of the type, where the cast is undefined, is
reduced like an integer. -/
def getUnsigned (bits : Nat) : Json → Option Nat
  | .numberUnsigned n => some (n % 2 ^ bits)
  | .numberInteger n => some (n % (2 ^ bits : Nat)).toNat
  | .numberFloat x => some (x.num.tdiv x.den % (2 ^ bits : Nat)).toNat
  | .boolean b => if bits < 64 then some b.toNat else none
  | _ => none

/-- The lookup in a list of fields, as a case distinction. -/
theorem lookup_cons_eq (key k : String) (v : Json) (fields : List (String × Json)) :
    ((k, v) :: fields).lookup key = if key = k then some v else fields.lookup key := by
  rw [List.lookup_cons]
  by_cases hkey : key = k
  · simp [hkey]
  · have hbeq : (key == k) = false := beq_eq_false_iff_ne.mpr hkey
    rw [hbeq, if_neg hkey]

/-- An assignment changes the value at its key. -/
theorem lookup_insertField (key key' : String) (value : Json) : ∀ fields : List (String × Json),
    (insertField key value fields).lookup key'
      = if key' = key then some value else fields.lookup key' := by
  intro fields
  induction fields with
  | nil => exact lookup_cons_eq key' key value []
  | cons field fields ih =>
    obtain ⟨k, v⟩ := field
    simp only [insertField]
    split
    · -- The key is there already.
      rename_i hk
      rw [lookup_cons_eq, lookup_cons_eq, hk]
      split <;> rfl
    · rename_i hk
      split
      · exact lookup_cons_eq key' key value _
      · rw [lookup_cons_eq, ih, lookup_cons_eq]
        by_cases hkey : key' = key
        · rw [if_pos hkey, if_pos hkey, if_neg (hkey ▸ hk)]
        · rw [if_neg hkey, if_neg hkey]

end Json

/-- How a type is written and read. Reading returns `none` where the library throws. -/
structure Codec (α : Type) where
  toJson : α → Json
  fromJson : Json → Option α

/-- A listed field of a record. -/
structure Field (R : Type) where
  key : String
  {α : Type}
  codec : Codec α
  get : R → α
  set : R → α → R

namespace Field

variable {R : Type}

/-- What the writer writes under the key of the field. -/
def write (f : Field R) (r : R) : Json := f.codec.toJson (f.get r)

/-- Reading of the field into a record. -/
def read (f : Field R) (json : Json) (r : R) : Option R :=
  (json.atKey f.key).bind fun value => (f.codec.fromJson value).map (f.set r)

end Field

namespace Codec

variable {α R : Type}

/-- An unsigned integer type. -/
def unsigned (bits : Nat) : Codec Nat where
  toJson := .numberUnsigned
  fromJson := Json.getUnsigned bits

/-- `std::string`. -/
def string : Codec String where
  toJson := .string
  fromJson
    | .string value => some value
    | _ => none

/-- `std::vector`. -/
def vector (c : Codec α) : Codec (List α) where
  toJson values := .array (values.map c.toJson)
  fromJson
    | .array elements => elements.mapM c.fromJson
    | _ => none

/-- A record with its listed fields. The reader starts with `init`. -/
def defineType (init : R) (fields : List (Field R)) : Codec R where
  toJson r :=
    .object (fields.foldl (fun object f => Json.insertField f.key (f.write r) object) [])
  fromJson json := fields.foldlM (fun r f => f.read json r) init

/-- The reader gets `b` from what the writer made of `a`. -/
def Reads (c : Codec α) (a b : α) : Prop := c.fromJson (c.toJson a) = some b

/-- A number that fits is read back. -/
theorem reads_unsigned {bits n : Nat} (h : n < 2 ^ bits) : (unsigned bits).Reads n n := by
  show some (n % 2 ^ bits) = some n
  rw [Nat.mod_eq_of_lt h]

/-- Every string is read back. -/
theorem reads_string (s : String) : string.Reads s s := rfl

/-- A list is read element by element. -/
theorem reads_vector {c : Codec α} {f : α → α} : ∀ {values : List α},
    (∀ a ∈ values, c.Reads a (f a)) → (vector c).Reads values (values.map f) := by
  intro values h
  show (values.map c.toJson).mapM c.fromJson = some (values.map f)
  induction values with
  | nil => rfl
  | cons a values ih =>
    have ha : c.fromJson (c.toJson a) = some (f a) := h a List.mem_cons_self
    have hrest := ih fun b hb => h b (List.mem_cons_of_mem _ hb)
    rw [List.map_cons, List.mapM_cons, ha, hrest]
    rfl

/-- Every listed field of `r` is read as the one of `r'`. -/
def FieldsRead (r r' : R) : List (Field R) → Prop
  | [] => True
  | f :: fields => f.codec.Reads (f.get r) (f.get r') ∧ FieldsRead r r' fields

/-- A field of the list is read back. -/
theorem FieldsRead.of_mem {r r' : R} : ∀ {fields : List (Field R)}, FieldsRead r r' fields →
    ∀ f ∈ fields, f.codec.Reads (f.get r) (f.get r') := by
  intro fields
  induction fields with
  | nil => exact fun _ f hf => absurd hf (List.not_mem_nil)
  | cons g fields ih =>
    intro h f hf
    rcases List.mem_cons.mp hf with rfl | hf
    · exact h.1
    · exact ih h.2 f hf

/-- The fields of a written record, on top of what was there before. -/
theorem lookup_foldl_insertField (r : R) (key : String) : ∀ (fields : List (Field R))
    (object : List (String × Json)), key ∉ fields.map Field.key →
    (fields.foldl (fun object f => Json.insertField f.key (f.write r) object) object).lookup key
      = object.lookup key := by
  intro fields
  induction fields with
  | nil => intro object _; rfl
  | cons f fields ih =>
    intro object hkey
    rw [List.map_cons, List.mem_cons, not_or] at hkey
    rw [List.foldl_cons, ih _ hkey.2, Json.lookup_insertField, if_neg hkey.1]

/-- A written record has each listed field under its key. -/
theorem atKey_toJson {init : R} (r : R) {f : Field R} : ∀ {fields : List (Field R)},
    (fields.map Field.key).Nodup → f ∈ fields →
    ((defineType init fields).toJson r).atKey f.key = some (f.write r) := by
  intro fields hnodup hf
  show (fields.foldl (fun object f => Json.insertField f.key (f.write r) object) []).lookup f.key
    = some (f.write r)
  generalize ([] : List (String × Json)) = object
  induction fields generalizing object with
  | nil => exact absurd hf List.not_mem_nil
  | cons g fields ih =>
    rw [List.map_cons, List.nodup_cons] at hnodup
    rw [List.foldl_cons]
    rcases List.mem_cons.mp hf with rfl | hf
    · rw [lookup_foldl_insertField r _ fields _ hnodup.1, Json.lookup_insertField, if_pos rfl]
    · exact ih hnodup.2 hf _

/-- A reader that finds every listed field sets them one after the other. -/
theorem foldlM_read {json : Json} (r' : R) : ∀ {fields : List (Field R)} {init : R},
    (∀ f ∈ fields, ∀ t, f.read json t = some (f.set t (f.get r'))) →
    fields.foldlM (fun t f => f.read json t) init
      = some (fields.foldl (fun t f => f.set t (f.get r')) init) := by
  intro fields
  induction fields with
  | nil => intro init _; rfl
  | cons f fields ih =>
    intro init h
    rw [List.foldlM_cons, h f List.mem_cons_self]
    exact ih fun g hg => h g (List.mem_cons_of_mem _ hg)

/-- A record is read field by field. The last condition says what the listed fields make of
the default value. -/
theorem reads_defineType {init r r' : R} {fields : List (Field R)}
    (hkeys : (fields.map Field.key).Nodup) (hfields : FieldsRead r r' fields)
    (hset : fields.foldl (fun t f => f.set t (f.get r')) init = r') :
    (defineType init fields).Reads r r' := by
  show fields.foldlM (fun t f => f.read ((defineType init fields).toJson r) t) init = some r'
  rw [foldlM_read r', hset]
  intro f hf t
  have hread : f.codec.fromJson (f.write r) = some (f.get r') := hfields.of_mem f hf
  rw [Field.read, atKey_toJson r hkeys hf, Option.bind_some, hread]
  rfl

end Codec

end ChatCore.Lib
