import ChatCore.Apps.OperatorInput

/-!
# `ChatCore.Apps.ClientCommands`: what the user of the client types

`UiSystem::HandleInput` (`ui_system.cpp`) sends a text to the channel, unless it begins with a
slash. Then its first word is the token of a command and the other words are the arguments.
`CommandsSystem` (`commands_system.hpp`) looks the token up, and the command checks how many
arguments there are and calls the session.

The words are what is between two spaces, so a word may be empty. What a command does is an
`Action` here, and a text that is logged as an error is an error.
-/

set_option autoImplicit false

namespace ChatCore.Apps

open ChatCore.Client (ClientOp)

/-- What a line does. -/
inductive Action where
  /-- `SessionSystem::Connect`. -/
  | connect (address port : String)
  /-- Another function of the session. -/
  | session (op : ClientOp)
  /-- `ApplicationSystem::Quit`. -/
  | quit
  /-- `ModelSystem::AddLine` for each of the lines. -/
  | addLines (lines : List String)
  deriving DecidableEq

/-- A command on its arguments: what it does, or the error. -/
abbrev Handler := List String → Except String Action

/-- `Execute` of the commands with two arguments. -/
def twoArguments (token names : String) (action : String → String → Action) : Handler
  | first :: second :: _ => .ok (action first second)
  | _ => .error (token ++ " requires 2 arguments " ++ names)

namespace ConnectCommand

def token : String := "connect"

def description : String := "<address> <port> | Connect to the chat server"

def execute : Handler := twoArguments token "<address> <port>" .connect

end ConnectCommand

namespace LoginCommand

def token : String := "login"

def description : String := "<user_name> <password> | Authenticate and log in as a user"

def execute : Handler :=
  twoArguments token "<user_name> <password>" fun name password => .session (.login name password)

end LoginCommand

namespace AddUserCommand

def token : String := "adduser"

def description : String := "<user_name> <password> | Create a new user"

def execute : Handler :=
  twoArguments token "<user_name> <password>" fun name password => .session (.addUser name password)

end AddUserCommand

namespace JoinChannelCommand

def description : String := "<channel_id> | Join a chat channel and receive its latest messages"

end JoinChannelCommand

namespace GetChannelsCommand

def token : String := "channels"

def description : String := "| Print all channels and their ids"

def execute : Handler := fun _ => .ok (.session .getChannels)

end GetChannelsCommand

namespace AddChannelCommand

def token : String := "addchannel"

def description : String := "<channel_name> | Create a new channel"

def execute : Handler
  | name :: _ => .ok (.session (.createChannel name))
  | [] => .error (token ++ " requires argument <channel_name>")

end AddChannelCommand

namespace LogoutCommand

def token : String := "logout"

def description : String := "| Log out as current user"

def execute : Handler := fun _ => .ok (.session .logout)

end LogoutCommand

namespace ExitCommand

def token : String := "exit"

def description : String := "| Quit the client application"

def execute : Handler := fun _ => .ok .quit

end ExitCommand

namespace HelpCommand

def token : String := "help"

def description : String := "| Display usage information for each command"

/-- The tokens and the descriptions of `ClientCommandsSystem::Commands`. -/
def commands : List (String × String) :=
  [(ConnectCommand.token, ConnectCommand.description),
    (LoginCommand.token, LoginCommand.description),
    (AddUserCommand.token, AddUserCommand.description),
    (JoinChannelCommand.token, JoinChannelCommand.description),
    (GetChannelsCommand.token, GetChannelsCommand.description),
    (AddChannelCommand.token, AddChannelCommand.description),
    (LogoutCommand.token, LogoutCommand.description),
    (ExitCommand.token, ExitCommand.description), (token, description)]

/-- The lines that the command adds. -/
def lines : List String := commands.map fun command => "/" ++ command.1 ++ " " ++ command.2

def execute : Handler := fun _ => .ok (.addLines lines)

end HelpCommand

namespace ClientCommandsSystem

/-- `handlers_`, in the order of `Register`. `try_emplace` keeps the first of two equal tokens, and
so does the lookup. -/
def handlers : List (String × Handler) :=
  [(ConnectCommand.token, ConnectCommand.execute), (LoginCommand.token, LoginCommand.execute),
    (AddUserCommand.token, AddUserCommand.execute),
    (JoinChannelCommand.token, fun arguments =>
      (JoinChannelCommand.execute arguments).map .session),
    (GetChannelsCommand.token, GetChannelsCommand.execute),
    (AddChannelCommand.token, AddChannelCommand.execute),
    (LogoutCommand.token, LogoutCommand.execute), (ExitCommand.token, ExitCommand.execute),
    (HelpCommand.token, HelpCommand.execute)]

/-- `Execute`. There is no result for an unknown token. -/
def execute (token : String) (arguments : List String) : Option (Except String Action) :=
  (handlers.lookup token).map fun handler => handler arguments

end ClientCommandsSystem

/-- `input | std::views::split(' ')`. -/
def words (input : String) : List String := (input.toList.splitOn ' ').map String.ofList

/-- `HandleInput`. -/
def handleInput (input : String) : Option (Except String Action) :=
  match input.toList with
  | [] => none
  | c :: _ =>
    if c ≠ '/' then some (.ok (.session (.send input)))
    else
      let split := words input
      let token := String.ofList ((split.headD "").toList.drop 1)
      some ((ClientCommandsSystem.execute token (split.drop 1)).getD
        (.error ("unknown command: " ++ token)))

/-- The text of a command with its arguments. -/
def commandLine (token : String) (arguments : List String) : String :=
  " ".intercalate (("/" ++ token) :: arguments)

namespace Action

/-- There is a text that does it. -/
def Typeable : Action → Prop
  | .connect address port => ' ' ∉ address.toList ∧ ' ' ∉ port.toList
  | .session (.login name password) | .session (.addUser name password) =>
    ' ' ∉ name.toList ∧ ' ' ∉ password.toList
  | .session (.joinChannel channelId) => channelId < ChatCore.Api.uint32Size
  | .session (.createChannel name) => ' ' ∉ name.toList
  | .session (.send content) => content ≠ "" ∧ content.toList.head? ≠ some '/'
  | .session .getChannels | .session .logout | .quit => True
  | .addLines lines => lines = HelpCommand.lines
  | .session _ => False

/-- The token and the arguments of the command that does it. -/
def command : Action → String × List String
  | .connect address port => (ConnectCommand.token, [address, port])
  | .session (.login name password) => (LoginCommand.token, [name, password])
  | .session (.addUser name password) => (AddUserCommand.token, [name, password])
  | .session (.joinChannel channelId) => (JoinChannelCommand.token, [toString channelId])
  | .session (.createChannel name) => (AddChannelCommand.token, [name])
  | .session .getChannels => (GetChannelsCommand.token, [])
  | .session .logout => (LogoutCommand.token, [])
  | .quit => (ExitCommand.token, [])
  | .addLines _ => (HelpCommand.token, [])
  | .session _ => ("", [])

/-- What one types for it. -/
def line : Action → String
  | .session (.send content) => content
  | action => commandLine action.command.1 action.command.2

end Action

end ChatCore.Apps
