import ChatCore.Apps.ClientCommands

/-!
# `ChatCore.Proofs.ClientCommands`: a line and what it does

A text that begins with a slash is the line of a token and of arguments without spaces, and of no
others (`words_commandLine`, `exists_commandLine`). So `HandleInput` on such a text is `Execute` on
a token and its arguments (`handleInput_commandLine`).

`handleInput_ok_iff` says which texts do what. A name with a space cannot be typed, and words behind
the arguments are ignored. Only the number of `join` has more than one text.
-/

set_option autoImplicit false

namespace ChatCore.Apps

open ChatCore.Lib
open ChatCore.Api (uint32Size)

variable {token input : String} {arguments rest : List String} {action : Action}

/-! ### Lines and words -/

/-- The token and the arguments have no space. -/
def Plain (token : String) (arguments : List String) : Prop :=
  ' ' ∉ token.toList ∧ ∀ argument ∈ arguments, ' ' ∉ argument.toList

/-- Words with single spaces between them are split into these words. -/
theorem words_intercalate {texts : List String} (hne : texts ≠ [])
    (h : ∀ text ∈ texts, ' ' ∉ text.toList) : words (" ".intercalate texts) = texts := by
  have hsplit : (" ".intercalate texts).toList.splitOn ' ' = texts.map String.toList := by
    rw [String.toList_intercalate]
    refine List.splitOn_intercalate ' ' ?_ (by simpa using hne)
    intro chars hchars
    obtain ⟨text, htext, rfl⟩ := List.mem_map.mp hchars
    exact h text htext
  rw [words, hsplit, List.map_map]
  simp [Function.comp_def]

/-- No word has a space. -/
theorem not_mem_of_mem_splitOn {text word : List Char} (h : word ∈ text.splitOn ' ') :
    ' ' ∉ word := by
  induction text generalizing word with
  | nil =>
    rw [List.splitOn_nil, List.mem_singleton] at h
    simp [h]
  | cons c text ih =>
    rw [List.splitOn_cons_eq_if_modifyHead] at h
    split at h
    · rcases List.mem_cons.mp h with rfl | hword
      · simp
      · exact ih hword
    · rename_i hc
      have hne : ¬ ' ' = c := fun heq => hc (by simp [← heq])
      obtain ⟨first, others, hsplit⟩ :=
        List.exists_cons_of_ne_nil (List.splitOn_ne_nil ' ' text)
      rw [hsplit, List.modifyHead_cons] at h
      rcases List.mem_cons.mp h with rfl | hword
      · have hfirst : ' ' ∉ first := ih (hsplit ▸ List.mem_cons_self)
        simp [hne, hfirst]
      · exact ih (hsplit ▸ List.mem_cons_of_mem _ hword)

/-- A word has no space. -/
theorem plain_of_mem_words {text word : String} (h : word ∈ words text) : ' ' ∉ word.toList := by
  obtain ⟨chars, hchars, rfl⟩ := List.mem_map.mp h
  rw [String.toList_ofList]
  exact not_mem_of_mem_splitOn hchars

/-- The words are the text again. -/
theorem intercalate_words (text : String) : " ".intercalate (words text) = text := by
  rw [← String.toList_inj, String.toList_intercalate, words, List.map_map]
  have htext : [' '].intercalate (text.toList.splitOn ' ') = text.toList :=
    List.intercalate_splitOn ' '
  simp [Function.comp_def, htext]

/-- Even an empty text has a word. -/
theorem words_ne_nil (text : String) : words text ≠ [] := by
  simp [words, List.splitOn_ne_nil]

/-- The words of a command line are the slash with the token and the arguments. -/
theorem words_commandLine (h : Plain token arguments) :
    words (commandLine token arguments) = ("/" ++ token) :: arguments := by
  refine words_intercalate (List.cons_ne_nil _ _) ?_
  intro text htext
  rcases List.mem_cons.mp htext with rfl | htext
  · simpa [String.toList_append] using h.1
  · exact h.2 text htext

/-- A command line begins with a slash. -/
theorem head_commandLine (token : String) (arguments : List String) :
    (commandLine token arguments).toList.head? = some '/' := by
  unfold commandLine
  cases arguments with
  | nil => simp
  | cons argument arguments => simp

/-- Every text that begins with a slash is a command line. -/
theorem exists_commandLine (h : input.toList.head? = some '/') :
    ∃ token arguments, Plain token arguments ∧ input = commandLine token arguments := by
  obtain ⟨first, others, hwords⟩ := List.exists_cons_of_ne_nil (words_ne_nil input)
  have htext := intercalate_words input
  rw [hwords] at htext
  have hfirst : ' ' ∉ first.toList := plain_of_mem_words (hwords ▸ List.mem_cons_self)
  have hhead : first.toList.head? = some '/' := by
    rw [← htext] at h
    cases hchars : first.toList with
    | nil =>
      -- The text would begin with a space, or be empty.
      cases others with
      | nil => simp [hchars] at h
      | cons other others => simp [hchars] at h
    | cons c chars =>
      cases others with
      | nil => simpa [hchars] using h
      | cons other others => simpa [hchars] using h
  obtain ⟨chars, hchars⟩ := List.head?_eq_some_iff.mp hhead
  refine ⟨String.ofList chars, others, ⟨?_, ?_⟩, ?_⟩
  · rw [String.toList_ofList]
    intro hmem
    exact hfirst (hchars ▸ List.mem_cons_of_mem _ hmem)
  · intro argument hargument
    exact plain_of_mem_words (hwords ▸ List.mem_cons_of_mem _ hargument)
  · have hslash : "/" ++ String.ofList chars = first := by
      rw [← String.toList_inj, String.toList_append, hchars]
      simp
    rw [commandLine, hslash, htext]

/-- A command line is executed, or its token is unknown. -/
theorem handleInput_commandLine (h : Plain token arguments) :
    handleInput (commandLine token arguments)
      = some ((ClientCommandsSystem.execute token arguments).getD
        (.error ("unknown command: " ++ token))) := by
  obtain ⟨chars, hchars⟩ := List.head?_eq_some_iff.mp (head_commandLine token arguments)
  unfold handleInput
  rw [hchars]
  simp [words_commandLine h]

/-- The text begins with the line, and what follows are more words. -/
def Continues (line input : String) : Prop := input = line ∨ ∃ more, input = line ++ " " ++ more

/-- A text goes on a command line exactly when it is one with more arguments. -/
theorem continues_iff (h : Plain token arguments) :
    Continues (commandLine token arguments) input ↔
      ∃ rest, Plain token (arguments ++ rest) ∧ input = commandLine token (arguments ++ rest) := by
  constructor
  · rintro (rfl | ⟨more, rfl⟩)
    · exact ⟨[], by simpa using h, by simp⟩
    · refine ⟨words more, ⟨h.1, ?_⟩, ?_⟩
      · intro argument hargument
        rcases List.mem_append.mp hargument with hargument | hword
        · exact h.2 argument hargument
        · exact plain_of_mem_words hword
      · unfold commandLine
        rw [← List.cons_append,
          String.intercalate_append_of_ne_nil (List.cons_ne_nil _ _) (words_ne_nil more),
          intercalate_words]
  · rintro ⟨rest, -, rfl⟩
    by_cases hrest : rest = []
    · exact .inl (by rw [hrest, List.append_nil])
    · refine .inr ⟨" ".intercalate rest, ?_⟩
      unfold commandLine
      rw [← List.cons_append, String.intercalate_append_of_ne_nil (List.cons_ne_nil _ _) hrest]

/-! ### Commands -/

/-- The action is a message to the channel. -/
def Action.IsSend (action : Action) : Prop := ∃ content, action = .session (.send content)

/-- The text is read as the number of the channel. -/
def Names (word : String) (channelId : Nat) : Prop :=
  ∃ n, stoul word = some n ∧ channelId = n % uint32Size

/-- A command with two arguments takes the first two words and ignores the others. -/
theorem twoArguments_eq_ok {names : String} {act : String → String → Action} :
    twoArguments token names act arguments = .ok action ↔
      ∃ first second rest, arguments = first :: second :: rest ∧ action = act first second := by
  unfold twoArguments
  split
  · rename_i first second rest
    constructor
    · intro hok
      exact ⟨first, second, rest, rfl, (Except.ok.inj hok).symm⟩
    · rintro ⟨first, second, rest, heq, rfl⟩
      cases heq
      rfl
  · rename_i hshort
    constructor
    · intro hok
      cases hok
    · rintro ⟨first, second, rest, rfl, -⟩
      exact absurd rfl (hshort first second rest)

/-- A handler that is found is one of the table. -/
theorem mem_handlers_of_lookup {handler : Handler}
    (h : ClientCommandsSystem.handlers.lookup token = some handler) :
    (token, handler) ∈ ClientCommandsSystem.handlers := by
  obtain ⟨before, after, hhandlers, -⟩ := List.lookup_eq_some_iff.mp h
  simp [hhandlers]

/-- What a command has done: its token and its arguments came first. Only `join` takes other words
for its number. -/
theorem of_execute_ok (h : ClientCommandsSystem.execute token arguments = some (.ok action)) :
    (token = action.command.1 ∧ (∃ rest, arguments = action.command.2 ++ rest) ∧
        ((∀ argument ∈ arguments, ' ' ∉ argument.toList) → action.Typeable) ∧
        ¬ action.IsSend ∧ ∀ channelId, action ≠ .session (.joinChannel channelId)) ∨
      ∃ word rest channelId, token = JoinChannelCommand.token ∧ arguments = word :: rest ∧
        Names word channelId ∧ action = .session (.joinChannel channelId) := by
  obtain ⟨handler, hlookup, hok⟩ := Option.map_eq_some_iff.mp h
  have hmem := mem_handlers_of_lookup hlookup
  simp only [ClientCommandsSystem.handlers, List.mem_cons, Prod.mk.injEq, List.not_mem_nil,
    or_false] at hmem
  rcases hmem with ⟨rfl, rfl⟩ | ⟨rfl, rfl⟩ | ⟨rfl, rfl⟩ | ⟨rfl, rfl⟩ | ⟨rfl, rfl⟩ | ⟨rfl, rfl⟩ |
    ⟨rfl, rfl⟩ | ⟨rfl, rfl⟩ | ⟨rfl, rfl⟩
  · obtain ⟨address, port, rest, rfl, rfl⟩ := twoArguments_eq_ok.mp hok
    exact .inl ⟨rfl, ⟨rest, rfl⟩, fun hplain => ⟨hplain _ (by simp), hplain _ (by simp)⟩,
      by simp [Action.IsSend], by simp⟩
  · obtain ⟨name, password, rest, rfl, rfl⟩ := twoArguments_eq_ok.mp hok
    exact .inl ⟨rfl, ⟨rest, rfl⟩, fun hplain => ⟨hplain _ (by simp), hplain _ (by simp)⟩,
      by simp [Action.IsSend], by simp⟩
  · obtain ⟨name, password, rest, rfl, rfl⟩ := twoArguments_eq_ok.mp hok
    exact .inl ⟨rfl, ⟨rest, rfl⟩, fun hplain => ⟨hplain _ (by simp), hplain _ (by simp)⟩,
      by simp [Action.IsSend], by simp⟩
  · cases arguments with
    | nil => cases hok
    | cons word rest =>
      cases hread : stoul word with
      | none => simp [JoinChannelCommand.execute, hread, Except.map] at hok
      | some n =>
        simp only [JoinChannelCommand.execute, hread, Except.map, Except.ok.injEq] at hok
        exact .inr ⟨word, rest, n % uint32Size, rfl, rfl, ⟨n, hread, rfl⟩, hok.symm⟩
  · cases hok
    exact .inl ⟨rfl, ⟨arguments, rfl⟩, fun _ => trivial, by simp [Action.IsSend], by simp⟩
  · cases arguments with
    | nil => cases hok
    | cons name rest =>
      cases hok
      exact .inl ⟨rfl, ⟨rest, rfl⟩, fun hplain => hplain name (by simp),
        by simp [Action.IsSend], by simp⟩
  · cases hok
    exact .inl ⟨rfl, ⟨arguments, rfl⟩, fun _ => trivial, by simp [Action.IsSend], by simp⟩
  · cases hok
    exact .inl ⟨rfl, ⟨arguments, rfl⟩, fun _ => trivial, by simp [Action.IsSend], by simp⟩
  · cases hok
    exact .inl ⟨rfl, ⟨arguments, rfl⟩, fun _ => rfl, by simp [Action.IsSend], by simp⟩

/-- `/join` with a word that names a channel id joins this channel. -/
theorem execute_join {word : String} {channelId : Nat} (h : Names word channelId) :
    ClientCommandsSystem.execute JoinChannelCommand.token (word :: rest)
      = some (.ok (.session (.joinChannel channelId))) := by
  obtain ⟨n, hread, rfl⟩ := h
  show some ((JoinChannelCommand.execute (word :: rest)).map Action.session) = _
  simp [JoinChannelCommand.execute, hread, Except.map]

/-- The decimal text of a channel id names it. -/
theorem names_toString {channelId : Nat} (h : channelId < uint32Size) :
    Names (toString channelId) channelId := by
  refine ⟨channelId, ?_, (Nat.mod_eq_of_lt h).symm⟩
  refine stoul_cases.mpr (.inl ⟨isNumeral_toString channelId, ?_⟩)
  have hsizes : uint32Size ≤ ulongSize := by decide
  omega

/-- The words of the command of a typeable action have no spaces. -/
theorem plain_command (h : action.Typeable) (hsend : ¬ action.IsSend) :
    Plain action.command.1 action.command.2 := by
  cases action with
  | connect address port =>
    exact ⟨(by decide : ' ' ∉ ConnectCommand.token.toList),
      by simpa [Action.command, Action.Typeable] using h⟩
  | quit => exact ⟨(by decide : ' ' ∉ ExitCommand.token.toList), by simp [Action.command]⟩
  | addLines lines => exact ⟨(by decide : ' ' ∉ HelpCommand.token.toList), by simp [Action.command]⟩
  | session op =>
    cases op with
    | send content => exact absurd ⟨content, rfl⟩ hsend
    | joinChannel channelId =>
      refine ⟨(by decide : ' ' ∉ JoinChannelCommand.token.toList), ?_⟩
      intro argument hargument hspace
      obtain rfl := List.mem_singleton.mp hargument
      exact absurd ((isNumeral_toString channelId).2.1 ' ' hspace) (by decide)
    | login name password =>
      exact ⟨(by decide : ' ' ∉ LoginCommand.token.toList),
        by simpa [Action.command, Action.Typeable] using h⟩
    | addUser name password =>
      exact ⟨(by decide : ' ' ∉ AddUserCommand.token.toList),
        by simpa [Action.command, Action.Typeable] using h⟩
    | createChannel name =>
      exact ⟨(by decide : ' ' ∉ AddChannelCommand.token.toList),
        by simpa [Action.command, Action.Typeable] using h⟩
    | logout => exact ⟨(by decide : ' ' ∉ LogoutCommand.token.toList), by simp [Action.command]⟩
    | getChannels => exact ⟨(by decide : ' ' ∉ GetChannelsCommand.token.toList), by simp [Action.command]⟩
    | connect | connected | connectionFailed | disconnected _ | receive _ _ _ | timeout _ =>
      exact h.elim

/-- An action that can be typed is done by its command, whatever follows the arguments. -/
theorem execute_command (h : action.Typeable) (hsend : ¬ action.IsSend) (rest : List String) :
    ClientCommandsSystem.execute action.command.1 (action.command.2 ++ rest)
      = some (.ok action) := by
  cases action with
  | connect address port => rfl
  | quit => rfl
  | addLines lines =>
    obtain rfl : lines = HelpCommand.lines := h
    rfl
  | session op =>
    cases op with
    | send content => exact absurd ⟨content, rfl⟩ hsend
    | joinChannel channelId => exact execute_join (names_toString h)
    | login name password => rfl
    | addUser name password => rfl
    | createChannel name => rfl
    | logout => rfl
    | getChannels => rfl
    | connect | connected | connectionFailed | disconnected _ | receive _ _ _ | timeout _ =>
      exact h.elim

/-! ### Results -/

/-- A text is empty, a message or the line of a command. -/
theorem handleInput_cases (input : String) :
    (input = "" ∧ handleInput input = none) ∨
    (input ≠ "" ∧ input.toList.head? ≠ some '/' ∧
      handleInput input = some (.ok (.session (.send input)))) ∨
    ∃ token arguments, Plain token arguments ∧ input = commandLine token arguments := by
  by_cases hslash : input.toList.head? = some '/'
  · exact .inr (.inr (exists_commandLine hslash))
  · cases hchars : input.toList with
    | nil =>
      have hempty : input = "" := by
        rw [← String.toList_inj, hchars]
        rfl
      exact .inl ⟨hempty, by simp [handleInput, hchars]⟩
    | cons c chars =>
      have hc : c ≠ '/' := by simpa [hchars] using hslash
      have hne : input ≠ "" := by
        intro heq
        simp [heq] at hchars
      exact .inr (.inl ⟨hne, by simpa using hc, by simp [handleInput, hchars, hc]⟩)

/-- The text is one for the action. -/
def Action.TypedBy : Action → String → Prop
  | .session (.send content), input => input = content
  | .session (.joinChannel channelId), input => ∃ word, ' ' ∉ word.toList ∧
      Names word channelId ∧ Continues (commandLine JoinChannelCommand.token [word]) input
  | action, input => Continues action.line input

/-- The line of an action other than `Send` is its command line. -/
theorem line_of_not_isSend (hsend : ¬ action.IsSend) :
    action.line = commandLine action.command.1 action.command.2 := by
  unfold Action.line
  split
  · rename_i content
    exact absurd ⟨content, rfl⟩ hsend
  · rfl

/-- A text that goes on the line of an action other than `Send` is this action. -/
theorem handleInput_line (h : action.Typeable) (hsend : ¬ action.IsSend)
    (htyped : Continues action.line input) : handleInput input = some (.ok action) := by
  rw [line_of_not_isSend hsend, continues_iff (plain_command h hsend)] at htyped
  obtain ⟨rest, hplain, rfl⟩ := htyped
  rw [handleInput_commandLine hplain, execute_command h hsend]
  rfl

/-- The text for an action that is not a message. -/
theorem typedBy_of_continues (h : action.Typeable) (hsend : ¬ action.IsSend)
    (htyped : Continues action.line input) : action.TypedBy input := by
  unfold Action.TypedBy
  split
  · rename_i content
    exact absurd ⟨content, rfl⟩ hsend
  · rename_i channelId
    refine ⟨toString channelId, ?_, names_toString h, htyped⟩
    intro hspace
    exact absurd ((isNumeral_toString channelId).2.1 ' ' hspace) (by decide)
  · exact htyped

/-- What a text does is a typeable action, and the text types it. -/
theorem typed_of_handleInput (hinput : handleInput input = some (.ok action)) :
    action.Typeable ∧ action.TypedBy input := by
  rcases handleInput_cases input with ⟨-, hnone⟩ | ⟨hne, hhead, hsent⟩ |
    ⟨token, arguments, hplain, rfl⟩
  · rw [hnone] at hinput
    cases hinput
  · rw [hsent] at hinput
    cases hinput
    exact ⟨⟨hne, hhead⟩, rfl⟩
  · rw [handleInput_commandLine hplain] at hinput
    cases hexecute : ClientCommandsSystem.execute token arguments with
    | none => simp [hexecute] at hinput
    | some result =>
      rw [hexecute, Option.getD_some] at hinput
      obtain rfl := Option.some.inj hinput
      rcases of_execute_ok hexecute with ⟨rfl, ⟨rest, rfl⟩, htypeable, hsend, -⟩ |
        ⟨word, rest, channelId, rfl, rfl, hnames, rfl⟩
      · refine ⟨htypeable hplain.2, typedBy_of_continues (htypeable hplain.2) hsend ?_⟩
        rw [line_of_not_isSend hsend, continues_iff (plain_command (htypeable hplain.2) hsend)]
        exact ⟨rest, hplain, rfl⟩
      · refine ⟨?_, word, hplain.2 word (by simp), hnames, ?_⟩
        · obtain ⟨n, -, rfl⟩ := hnames
          exact Nat.mod_lt n (by decide)
        · have hword : Plain JoinChannelCommand.token [word] :=
            ⟨hplain.1, fun argument hargument => hplain.2 argument (by simp_all)⟩
          rw [continues_iff hword]
          exact ⟨rest, hplain, rfl⟩

/-- A text that types a typeable action does it. -/
theorem handleInput_of_typed (h : action.Typeable) (htyped : action.TypedBy input) :
    handleInput input = some (.ok action) := by
  unfold Action.TypedBy at htyped
  split at htyped
  · rename_i content
    obtain rfl := htyped
    obtain ⟨hne, hhead⟩ := h
    rcases handleInput_cases input with ⟨hempty, -⟩ | ⟨-, -, hsent⟩ |
      ⟨token, arguments, -, rfl⟩
    · exact absurd hempty hne
    · exact hsent
    · exact absurd (head_commandLine token arguments) hhead
  · rename_i channelId
    obtain ⟨word, hword, hnames, hcontinues⟩ := htyped
    have hplain : Plain JoinChannelCommand.token [word] :=
      ⟨by decide, fun argument hargument => by rwa [List.mem_singleton.mp hargument]⟩
    obtain ⟨rest, hplain', rfl⟩ := (continues_iff hplain).mp hcontinues
    rw [handleInput_commandLine hplain', List.singleton_append, execute_join hnames]
    rfl
  · rename_i hsend _
    refine handleInput_line h ?_ htyped
    rintro ⟨content, rfl⟩
    exact hsend content rfl

/-- The commands that need arguments: how many, and what the error says about them. -/
def usages : List (String × Nat × String) :=
  [(ConnectCommand.token, 2, "2 arguments <address> <port>"),
    (LoginCommand.token, 2, "2 arguments <user_name> <password>"),
    (AddUserCommand.token, 2, "2 arguments <user_name> <password>"),
    (JoinChannelCommand.token, 1, "argument <channel_id>"),
    (AddChannelCommand.token, 1, "argument <channel_name>")]

/-- What the user is told about a line that does nothing. -/
inductive Complains (token : String) (arguments : List String) : String → Prop
  | unknown : token ∉ HelpCommand.commands.map Prod.fst →
      Complains token arguments ("unknown command: " ++ token)
  | missing {count : Nat} {usage : String} : (token, count, usage) ∈ usages →
      arguments.length < count → Complains token arguments (token ++ " requires " ++ usage)
  | number {word : String} {rest : List String} : token = JoinChannelCommand.token →
      arguments = word :: rest → stoul word = none →
      Complains token arguments "invalid <channel_id>"

/-- A command with two arguments logs an error when there are fewer. -/
theorem twoArguments_eq_error {names text : String} {act : String → String → Action} :
    twoArguments token names act arguments = .error text ↔
      arguments.length < 2 ∧ text = token ++ " requires 2 arguments " ++ names := by
  unfold twoArguments
  split
  · simp
  · rename_i hshort
    have hlength : arguments.length < 2 := by
      cases arguments with
      | nil => decide
      | cons first others =>
        cases others with
        | nil => simp
        | cons second rest => exact absurd rfl (hshort first second rest)
    simp [hlength, eq_comm]

/-- The error of a command with two arguments is its usage. -/
theorem complains_of_twoArguments {names usage text : String} {act : String → String → Action}
    (htoken : (token, 2, usage) ∈ usages) (husage : usage = "2 arguments " ++ names)
    (h : twoArguments token names act arguments = .error text) :
    Complains token arguments text := by
  obtain ⟨hlength, rfl⟩ := twoArguments_eq_error.mp h
  have hsplit : " requires 2 arguments " = " requires " ++ "2 arguments " := rfl
  rw [hsplit, ← String.append_assoc, String.append_assoc, ← husage]
  exact .missing htoken hlength

/-- Every error names the command that was typed and its usage, or the number that could not be
read. -/
theorem complains_of_execute {text : String} (h : (ClientCommandsSystem.execute token arguments).getD
    (.error ("unknown command: " ++ token)) = .error text) : Complains token arguments text := by
  cases hlookup : ClientCommandsSystem.handlers.lookup token with
  | none =>
    simp only [ClientCommandsSystem.execute, hlookup, Option.map_none, Option.getD_none,
      Except.error.injEq] at h
    rw [← h]
    refine .unknown fun hmem => ?_
    rw [List.lookup_eq_none_iff] at hlookup
    simp only [HelpCommand.commands, List.map_cons, List.map_nil] at hmem
    simp only [ClientCommandsSystem.handlers, List.mem_cons, List.not_mem_nil, or_false,
      forall_eq_or_imp, forall_eq] at hlookup
    simp_all
  | some handler =>
    simp only [ClientCommandsSystem.execute, hlookup, Option.map_some, Option.getD_some] at h
    have hmem := mem_handlers_of_lookup hlookup
    simp only [ClientCommandsSystem.handlers, List.mem_cons, Prod.mk.injEq, List.not_mem_nil,
      or_false] at hmem
    rcases hmem with ⟨rfl, rfl⟩ | ⟨rfl, rfl⟩ | ⟨rfl, rfl⟩ | ⟨rfl, rfl⟩ | ⟨rfl, rfl⟩ | ⟨rfl, rfl⟩ |
      ⟨rfl, rfl⟩ | ⟨rfl, rfl⟩ | ⟨rfl, rfl⟩
    · exact complains_of_twoArguments (by decide) rfl h
    · exact complains_of_twoArguments (by decide) rfl h
    · exact complains_of_twoArguments (by decide) rfl h
    · cases arguments with
      | nil =>
        rw [← Except.error.inj h]
        have husage : (JoinChannelCommand.token, 1, "argument <channel_id>") ∈ usages := by decide
        exact .missing husage (by decide)
      | cons word rest =>
        cases hread : stoul word with
        | none =>
          simp only [JoinChannelCommand.execute, hread, Except.map, Except.error.injEq] at h
          rw [← h]
          exact .number rfl rfl hread
        | some n => simp [JoinChannelCommand.execute, hread, Except.map] at h
    · cases h
    · cases arguments with
      | nil =>
        rw [← Except.error.inj h]
        have husage : (AddChannelCommand.token, 1, "argument <channel_name>") ∈ usages := by decide
        exact .missing husage (by decide)
      | cons name rest => cases h
    · cases h
    · cases h
    · cases h

/-- Every complaint is the error of its line. -/
theorem execute_of_complains {text : String} (h : Complains token arguments text) :
    (ClientCommandsSystem.execute token arguments).getD
      (.error ("unknown command: " ++ token)) = .error text := by
  cases h with
  | unknown hunknown =>
    have hlookup : ClientCommandsSystem.handlers.lookup token = none := by
      rw [List.lookup_eq_none_iff]
      simp only [HelpCommand.commands, List.map_cons, List.map_nil, List.mem_cons,
        List.not_mem_nil, or_false, not_or] at hunknown
      simp [ClientCommandsSystem.handlers, hunknown]
    simp [ClientCommandsSystem.execute, hlookup]
  | missing husage hlength =>
    simp only [usages, List.mem_cons, Prod.mk.injEq, List.not_mem_nil, or_false] at husage
    rcases husage with ⟨rfl, rfl, rfl⟩ | ⟨rfl, rfl, rfl⟩ | ⟨rfl, rfl, rfl⟩ | ⟨rfl, rfl, rfl⟩ |
      ⟨rfl, rfl, rfl⟩
    · exact twoArguments_eq_error.mpr ⟨hlength, by decide⟩
    · exact twoArguments_eq_error.mpr ⟨hlength, by decide⟩
    · exact twoArguments_eq_error.mpr ⟨hlength, by decide⟩
    · obtain rfl : arguments = [] := List.length_eq_zero_iff.mp (by omega)
      rfl
    · obtain rfl : arguments = [] := List.length_eq_zero_iff.mp (by omega)
      rfl
  | @number word rest htoken hword hread =>
    subst htoken hword
    show Except.map _ (JoinChannelCommand.execute (word :: rest)) = _
    simp [JoinChannelCommand.execute, hread, Except.map]

/-- What a line does. Only the empty line does nothing at all. The actions that can be typed are
those whose words have no space and whose message has no slash in front, and each of them is done by
its own line. A line does an action exactly if it is one for it. Every other line begins with a slash
and logs one error, which is the complaint about the token and the arguments that were typed. -/
theorem operator_line (input : String) :
    (handleInput input = none ↔ input = "") ∧
    (∀ action, handleInput input = some (.ok action) ↔ action.Typeable ∧ action.TypedBy input) ∧
    (∀ text, handleInput input = some (.error text) ↔
      ∃ token arguments, Plain token arguments ∧ input = commandLine token arguments ∧
        Complains token arguments text) ∧
    ∀ action : Action, action.Typeable → action.TypedBy action.line := by
  refine ⟨⟨fun hnone => ?_, fun hempty => by rw [hempty]; rfl⟩, ?_, ?_, ?_⟩
  · rcases handleInput_cases input with ⟨hempty, -⟩ | ⟨-, -, hsent⟩ | ⟨token, arguments, hplain, rfl⟩
    · exact hempty
    · rw [hsent] at hnone
      cases hnone
    · rw [handleInput_commandLine hplain] at hnone
      cases hnone
  · intro action
    constructor
    · exact typed_of_handleInput
    · rintro ⟨htypeable, htyped⟩
      exact handleInput_of_typed htypeable htyped
  · intro text
    constructor
    · intro herror
      rcases handleInput_cases input with ⟨-, hnone⟩ | ⟨-, -, hsent⟩ |
        ⟨token, arguments, hplain, rfl⟩
      · rw [hnone] at herror
        cases herror
      · rw [hsent] at herror
        cases herror
      · refine ⟨token, arguments, hplain, rfl, complains_of_execute ?_⟩
        rw [handleInput_commandLine hplain] at herror
        exact Option.some.inj herror
    · rintro ⟨token, arguments, hplain, rfl, hcomplains⟩
      rw [handleInput_commandLine hplain, execute_of_complains hcomplains]
  · intro action h
    by_cases hsend : action.IsSend
    · obtain ⟨content, rfl⟩ := hsend
      exact rfl
    · exact typedBy_of_continues h hsend (.inl rfl)

end ChatCore.Apps
