import ChatCore.Apps.OperatorInput

/-!
# `ChatCore.Proofs.OperatorInput`: which texts are read as numbers

A number that the operator types should be read only when the text as a whole is a decimal
numeral of it. `std::stoul` reads more (`Lenient`): white space and a sign in front of the
digits, anything behind them. `parseNumber_only_iff` says that the two parsers with a range
check go wrong exactly when such a text stands for a number within the range.
`execute_only_iff` is about `join`. It has no range check, so it also goes wrong on every
numeral from `2 ^ 32` on that fits into 64 bits.

`operator_numbers_iff` puts the three together with the defaults and the error text.
-/

set_option autoImplicit false

namespace ChatCore.Apps

open ChatCore.Lib
open ChatCore.Api (uint32Size)
open ChatCore.Client (ClientOp)

/-- A flag that is read as a number has a text that `stoul` reads and that is not too large. -/
theorem Arguments.parseNumber_eq_some {arguments : Arguments} {flag s : String}
    (hs : arguments.firstValue flag = some s) {max n : Nat} :
    arguments.parseNumber flag max = some n ↔ stoul s = some n ∧ n ≤ max := by
  simp only [parseNumber, hs, Option.bind_some, Option.bind_eq_some_iff]
  constructor
  · rintro ⟨result, hread, hcheck⟩
    split at hcheck
    · cases hcheck
    · cases hcheck
      exact ⟨hread, by omega⟩
  · rintro ⟨hread, hle⟩
    exact ⟨n, hread, if_neg (by omega)⟩

/-- A parser with a range check reads numerals only, except from the lenient texts of a number
within the range. -/
theorem Arguments.parseNumber_only_iff {arguments : Arguments} {flag s : String}
    (hs : arguments.firstValue flag = some s) (max : Nat) :
    (∀ n, arguments.parseNumber flag max = some n → IsNumeral s n ∧ n ≤ max) ↔
      ∀ n ≤ max, ¬ Lenient s n := by
  constructor
  · intro honly n hle hlenient
    have hread := (parseNumber_eq_some hs).mpr ⟨stoul_cases.mpr (.inr hlenient), hle⟩
    exact hlenient.not_isNumeral (honly n hread).1
  · intro hplain n hread
    obtain ⟨hread, hle⟩ := (parseNumber_eq_some hs).mp hread
    rcases stoul_cases.mp hread with ⟨hnumeral, -⟩ | hlenient
    · exact ⟨hnumeral, hle⟩
    · exact absurd hlenient (hplain n hle)

namespace JoinChannelCommand

/-- A join is what `stoul` reads, cut to 32 bits. -/
theorem execute_eq_ok {s : String} {rest : List String} {op : ClientOp} :
    execute (s :: rest) = .ok op ↔
      ∃ n, stoul s = some n ∧ op = .joinChannel (n % uint32Size) := by
  cases hread : stoul s with
  | none => simp [execute, hread]
  | some n => simp [execute, hread, eq_comm]

/-- `join` joins the channel of a numeral only, except from lenient texts and from numerals
that do not fit into 32 bits but into 64. -/
theorem execute_only_iff (s : String) (rest : List String) :
    (∀ op, execute (s :: rest) = .ok op →
      ∃ id, op = .joinChannel id ∧ IsNumeral s id ∧ id < uint32Size) ↔
      (∀ n, ¬ Lenient s n) ∧ ∀ n, IsNumeral s n → n < uint32Size ∨ ulongSize ≤ n := by
  constructor
  · intro honly
    have hread : ∀ n, stoul s = some n → IsNumeral s (n % uint32Size) := by
      intro n hn
      obtain ⟨id, hop, hnumeral, -⟩ := honly _ (execute_eq_ok.mpr ⟨n, hn, rfl⟩)
      cases hop
      exact hnumeral
    refine ⟨fun n hlenient => ?_, fun n hnumeral => ?_⟩
    · exact hlenient.not_isNumeral (hread n (stoul_cases.mpr (.inr hlenient)))
    · by_contra hrange
      push Not at hrange
      -- The text would be a numeral of `n` and of what the cast leaves of `n`.
      have hcast := hread n (stoul_cases.mpr (.inl ⟨hnumeral, hrange.2⟩))
      have heq : n % uint32Size = n := hcast.2.2.symm.trans hnumeral.2.2
      have hlt : n % uint32Size < uint32Size := Nat.mod_lt _ (by decide)
      omega
  · rintro ⟨hplain, hrange⟩ op hop
    obtain ⟨n, hn, rfl⟩ := execute_eq_ok.mp hop
    rcases stoul_cases.mp hn with ⟨hnumeral, hlt⟩ | hlenient
    · have hlt32 : n < uint32Size := by
        rcases hrange n hnumeral with h | h
        · exact h
        · omega
      refine ⟨n % uint32Size, rfl, ?_, ?_⟩
      · rw [Nat.mod_eq_of_lt hlt32]
        exact hnumeral
      · exact Nat.mod_lt _ (by decide)
    · exact absurd hlenient (hplain n)

/-- The only error of a join with an argument is the one about the number. -/
theorem execute_eq_error {s text : String} {rest : List String}
    (h : execute (s :: rest) = .error text) : text = "invalid <channel_id>" := by
  simp only [execute] at h
  split at h
  · cases h
    rfl
  · cases h

end JoinChannelCommand

/-- When the port, the number of clients and the channel mean what the operator typed. The
parsers read numerals of the right range only, exactly when the text is not a lenient one of a
number within the range, and for `join` not a numeral from `2 ^ 32` up to `2 ^ 64` either. In
the other cases the default or the error text is used. -/
theorem operator_numbers_iff (arguments : Arguments) (s : String) (rest : List String) :
    (arguments.firstValue "port" = some s →
      ((∀ p, ChatServerArguments.parsePort arguments = some p → IsNumeral s p ∧ p ≤ 65535) ↔
        ∀ p ≤ 65535, ¬ Lenient s p) ∧
      (ChatServerArguments.parsePort arguments = none →
        (ChatServerArguments.ofArguments arguments).port = 1338)) ∧
    (arguments.firstValue "clients" = some s →
      ((∀ n, LoadTesterArguments.parseClientCount arguments = some n →
          IsNumeral s n ∧ n ≤ 4294967295) ↔
        ∀ n ≤ 4294967295, ¬ Lenient s n) ∧
      (LoadTesterArguments.parseClientCount arguments = none →
        (LoadTesterArguments.ofArguments arguments).clientCount = 30)) ∧
    ((∀ op, JoinChannelCommand.execute (s :: rest) = .ok op →
        ∃ id, op = .joinChannel id ∧ IsNumeral s id ∧ id < uint32Size) ↔
      (∀ n, ¬ Lenient s n) ∧ ∀ n, IsNumeral s n → n < uint32Size ∨ ulongSize ≤ n) ∧
    ∀ text, JoinChannelCommand.execute (s :: rest) = .error text →
      text = "invalid <channel_id>" := by
  refine ⟨fun hs => ⟨Arguments.parseNumber_only_iff hs 65535, fun hnone => ?_⟩,
    fun hs => ⟨Arguments.parseNumber_only_iff hs 4294967295, fun hnone => ?_⟩,
    JoinChannelCommand.execute_only_iff s rest, fun text h => JoinChannelCommand.execute_eq_error h⟩
  · simp [ChatServerArguments.ofArguments, hnone]
  · simp [LoadTesterArguments.ofArguments, hnone]

/-- A numeral is not a lenient text, so `--port 8081` is read as it stands. -/
theorem port_as_typed :
    ChatServerArguments.parsePort (.ofArgv ["chatcore", "--port", "8081"]) = some 8081 ∧
      ∀ p, ChatServerArguments.parsePort (.ofArgv ["chatcore", "--port", "8081"]) = some p →
        IsNumeral "8081" p ∧ p ≤ 65535 := by
  have hnumeral : IsNumeral "8081" 8081 := by
    refine ⟨by decide, ?_, by decide⟩
    exact List.all_eq_true.mp (by decide)
  have hport := (operator_numbers_iff (.ofArgv ["chatcore", "--port", "8081"]) "8081" []).1
  refine ⟨by decide, ((hport (by decide)).1).mpr fun p _ hlenient => ?_⟩
  exact hlenient.not_isNumeral hnumeral

/-- Texts that are no numerals of the numbers they are read as: something behind the digits, a
minus sign that wraps around, and a channel id that the cast cuts off. -/
theorem numbers_not_as_typed :
    (ChatServerArguments.parsePort (.ofArgv ["chatcore", "--port", "80abc"]) = some 80 ∧
      ¬ IsNumeral "80abc" 80) ∧
    (LoadTesterArguments.parseClientCount
        (.ofArgv ["tester", "--clients", "-18446744073709551615"]) = some 1 ∧
      ¬ IsNumeral "-18446744073709551615" 1) ∧
    (JoinChannelCommand.execute ["4294967297"] = .ok (.joinChannel 1) ∧
      ¬ IsNumeral "4294967297" 1) := by
  refine ⟨⟨by decide, fun h => ?_⟩, ⟨by decide, fun h => ?_⟩, by decide, fun h => ?_⟩
  · exact absurd (h.2.1 'a' (by decide)) (by decide)
  · exact absurd (h.2.1 '-' (by decide)) (by decide)
  · exact absurd h.2.2 (by decide)

end ChatCore.Apps
