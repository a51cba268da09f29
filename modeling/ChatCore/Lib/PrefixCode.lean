import Mathlib.Data.List.Basic

/-!
# `ChatCore.Lib.PrefixCode`: streams of self-delimiting code words

A code is prefix free when no valid code word begins another one and none is empty. A stream
may then be cut into code words from its front in one way only. `Split` is such a cut with what
is left over. When no code word begins the rest, the cut takes the longest possible part of the
stream, and every other cut stops earlier at one of its boundaries (`Split.isPrefix`).
`LongestSplit` is this cut, and `Split.longest` says how to find it.
-/

set_option autoImplicit false

namespace ChatCore.Lib

variable {α β : Type}

/-- A code whose valid words do not begin each other. -/
structure PrefixFree (encode : α → List β) (valid : α → Prop) : Prop where
  ne_nil : ∀ a, valid a → encode a ≠ []
  eq_of_isPrefix : ∀ a b, valid a → valid b → encode a <+: encode b → a = b

/-- `stream` is the code words of `values` and then `rest`. -/
structure Split (encode : α → List β) (valid : α → Prop) (stream : List β)
    (values : List α) (rest : List β) : Prop where
  stream_eq : stream = values.flatMap encode ++ rest
  all_valid : ∀ a ∈ values, valid a

/-- The cut of `stream` that contains every other one. It is the only cut of its part of the
stream. -/
structure LongestSplit (encode : α → List β) (valid : α → Prop) (stream : List β)
    (values : List α) (rest : List β) : Prop extends Split encode valid stream values rest where
  longest : ∀ values' rest', Split encode valid stream values' rest' → values' <+: values
  unique : ∀ values', (∀ a ∈ values', valid a) →
    values'.flatMap encode = values.flatMap encode → values' = values

variable {encode : α → List β} {valid : α → Prop}

/-- A cut whose rest begins with no code word contains every other cut. -/
theorem Split.isPrefix (hcode : PrefixFree encode valid) {stream rest rest' : List β}
    {values values' : List α} (h : Split encode valid stream values rest)
    (hrest : ∀ a, valid a → ¬ encode a <+: rest) (h' : Split encode valid stream values' rest') :
    values' <+: values := by
  induction values' generalizing stream values with
  | nil => exact List.nil_prefix
  | cons w values' ih =>
    have hw := h'.all_valid w List.mem_cons_self
    have hword : encode w <+: stream := by
      rw [h'.stream_eq, List.flatMap_cons, List.append_assoc]
      exact List.prefix_append _ _
    cases values with
    | nil =>
      rw [h.stream_eq] at hword
      exact absurd hword (hrest w hw)
    | cons v values =>
      have hv := h.all_valid v List.mem_cons_self
      have hword' : encode v <+: stream := by
        rw [h.stream_eq, List.flatMap_cons, List.append_assoc]
        exact List.prefix_append _ _
      -- Both words begin the stream, so one of them begins the other.
      have heq : w = v := by
        cases List.prefix_or_prefix_of_prefix hword hword' with
        | inl hp => exact hcode.eq_of_isPrefix w v hw hv hp
        | inr hp => exact (hcode.eq_of_isPrefix v w hv hw hp).symm
      subst heq
      have hstream := h.stream_eq
      rw [h'.stream_eq, List.flatMap_cons, List.flatMap_cons, List.append_assoc,
        List.append_assoc] at hstream
      have htail := List.append_cancel_left hstream
      have htail' : Split encode valid (values.flatMap encode ++ rest) values rest :=
        ⟨rfl, fun a ha => h.all_valid a (List.mem_cons_of_mem _ ha)⟩
      have hprefix := ih htail'
        ⟨htail.symm, fun a ha => h'.all_valid a (List.mem_cons_of_mem _ ha)⟩
      exact List.cons_prefix_cons.mpr ⟨rfl, hprefix⟩

/-- The code words determine the values. -/
theorem PrefixFree.eq_of_flatMap_eq (hcode : PrefixFree encode valid) {values values' : List α}
    (h : ∀ a ∈ values, valid a) (h' : ∀ a ∈ values', valid a)
    (heq : values'.flatMap encode = values.flatMap encode) : values' = values := by
  have hnil : ∀ a, valid a → ¬ encode a <+: [] := fun a ha hp =>
    hcode.ne_nil a ha (List.prefix_nil.mp hp)
  have hs : Split encode valid (values.flatMap encode) values [] := ⟨(List.append_nil _).symm, h⟩
  have hs' : Split encode valid (values.flatMap encode) values' [] :=
    ⟨by rw [List.append_nil, heq], h'⟩
  have hone := hs.isPrefix hcode hnil hs'
  have htwo := hs'.isPrefix hcode hnil hs
  exact hone.eq_of_length (Nat.le_antisymm hone.length_le htwo.length_le)

/-- A cut is the longest one when no code word begins its rest. -/
theorem Split.longest (hcode : PrefixFree encode valid) {stream rest : List β} {values : List α}
    (h : Split encode valid stream values rest) (hrest : ∀ a, valid a → ¬ encode a <+: rest) :
    LongestSplit encode valid stream values rest where
  toSplit := h
  longest _ _ h' := h.isPrefix hcode hrest h'
  unique _ hvalid heq := hcode.eq_of_flatMap_eq h.all_valid hvalid heq

/-- A stream of code words and nothing else has no other longest cut. -/
theorem LongestSplit.eq_of_flatMap (hcode : PrefixFree encode valid) {values values' : List α}
    {rest : List β} (hvalid : ∀ a ∈ values', valid a)
    (h : LongestSplit encode valid (values'.flatMap encode) values rest) :
    values = values' ∧ rest = [] := by
  have hsplit : Split encode valid (values'.flatMap encode) values' [] :=
    ⟨(List.append_nil _).symm, hvalid⟩
  have hprefix := hsplit.isPrefix hcode
    (fun a ha hp => hcode.ne_nil a ha (List.prefix_nil.mp hp)) h.toSplit
  have hprefix' := h.longest _ _ hsplit
  have heq : values = values' :=
    hprefix.eq_of_length (Nat.le_antisymm hprefix.length_le hprefix'.length_le)
  have hstream := h.stream_eq
  rw [heq] at hstream
  exact ⟨heq, List.self_eq_append_right.mp hstream⟩

end ChatCore.Lib
