import ChatCore.Client.ClientRun
import ChatCore.Lib.Numeral
import Mathlib.Data.List.AList

/-!
# `ChatCore.Apps.OperatorInput`: what the operator types

The command lines of the server and of the load tester and the command `join` of the client.

`Arguments` (`arguments.cpp`) collects the values of each flag. `ChatServerArguments`
(`chat_server_arguments.cpp`) and `LoadTesterArguments` (`load_tester_arguments.cpp`) read the
first value of a flag and fall back to a default. Two of the values are numbers, and both are
read by `std::stoul` with a check of the range after it (`parseNumber`).
`JoinChannelCommand::Execute` (`join_channel_command.cpp`) reads its number with `std::stoul`
too and casts the result to a `PersistenceId`.
-/

set_option autoImplicit false

namespace ChatCore.Apps

open ChatCore.Lib
open ChatCore.Api (uint32Size)
open ChatCore.Client (ClientOp)

/-- `utility::Arguments`. -/
structure Arguments where
  arguments : AList (fun _ : String => List String) := ∅

namespace Arguments

/-- `IsFlag`. -/
def isFlag (argument : String) : Bool := argument.toList.take 2 = ['-', '-']

/-- One round of the loop of the constructor. `current` is the flag that takes the values. -/
def visit (s : Arguments × Option String) (argument : String) : Arguments × Option String :=
  if isFlag argument then
    let flag := String.ofList (argument.toList.drop 2)
    -- `try_emplace` leaves the values of a flag that was given before.
    (⟨s.1.arguments.insert flag ((s.1.arguments.lookup flag).getD [])⟩, some flag)
  else match s.2 with
    -- Values in front of the first flag are ignored.
    | none => s
    | some flag =>
      (⟨s.1.arguments.insert flag ((s.1.arguments.lookup flag).getD [] ++ [argument])⟩, s.2)

/-- The constructor. -/
def ofArgv (argv : List String) : Arguments := (argv.foldl visit ({}, none)).1

/-- `GetValues`. -/
def getValues (a : Arguments) (flag : String) : Option (List String) := a.arguments.lookup flag

/-- The first value of a flag, when there is one. -/
def firstValue (a : Arguments) (flag : String) : Option String :=
  (a.getValues flag).bind List.head?

/-- The first value of a flag as a number up to `max`. An exception of `std::stoul` counts as
no value. -/
def parseNumber (a : Arguments) (flag : String) (max : Nat) : Option Nat :=
  (a.firstValue flag).bind fun value =>
    (stoul value).bind fun result => if result > max then none else some result

end Arguments

/-- `logging::LogLevel`. -/
inductive LogLevel where
  | verbose | debug | info | warning | error | critical
  deriving DecidableEq

/-- `ParseLogLevel`, which the server and the load tester have in the same words. -/
def parseLogLevel (arguments : Arguments) : Option LogLevel :=
  (arguments.firstValue "log").bind fun result =>
    if result = "verbose" then some .verbose
    else if result = "debug" then some .debug
    else if result = "info" then some .info
    else if result = "warning" then some .warning
    else if result = "error" then some .error
    else if result = "critical" then some .critical
    else none

/-- `ChatServerArguments`. -/
structure ChatServerArguments where
  ip : String
  port : Nat
  sqliteFilename : String
  logLevel : LogLevel

namespace ChatServerArguments

/-- `std::numeric_limits<unsigned short>::max()`. -/
def maxPort : Nat := 65535

/-- `ParseIp`. -/
def parseIp (arguments : Arguments) : Option String := arguments.firstValue "ip"

/-- `ParsePort`. -/
def parsePort (arguments : Arguments) : Option Nat := arguments.parseNumber "port" maxPort

/-- `ParseSqliteFilename`. -/
def parseSqliteFilename (arguments : Arguments) : Option String := arguments.firstValue "db"

/-- The constructor, after the arguments are collected. -/
def ofArguments (arguments : Arguments) : ChatServerArguments where
  ip := (parseIp arguments).getD "0.0.0.0"
  port := (parsePort arguments).getD 1338
  sqliteFilename := (parseSqliteFilename arguments).getD "sqlite.db"
  logLevel := (parseLogLevel arguments).getD .info

end ChatServerArguments

/-- `LoadTesterArguments`. The port stays a text. -/
structure LoadTesterArguments where
  ip : String
  port : String
  clientCount : Nat
  logLevel : LogLevel

namespace LoadTesterArguments

/-- `std::numeric_limits<unsigned int>::max()`. -/
def maxClientCount : Nat := 4294967295

/-- `ParseIp`. -/
def parseIp (arguments : Arguments) : Option String := arguments.firstValue "ip"

/-- `ParsePort`. -/
def parsePort (arguments : Arguments) : Option String := arguments.firstValue "port"

/-- `ParseClientCount`. -/
def parseClientCount (arguments : Arguments) : Option Nat :=
  arguments.parseNumber "clients" maxClientCount

/-- The constructor, after the arguments are collected. -/
def ofArguments (arguments : Arguments) : LoadTesterArguments where
  ip := (parseIp arguments).getD "localhost"
  port := (parsePort arguments).getD "1338"
  clientCount := (parseClientCount arguments).getD 30
  logLevel := (parseLogLevel arguments).getD .info

end LoadTesterArguments

namespace JoinChannelCommand

/-- `Token`. -/
def token : String := "join"

/-- `Execute`: the operation on the session, or the text of the error that is logged. There is
no check of the range before the cast. -/
def execute : List String → Except String ClientOp
  | [] => .error (token ++ " requires argument <channel_id>")
  | argument :: _ =>
    match stoul argument with
    | none => .error "invalid <channel_id>"
    | some result => .ok (.joinChannel (result % uint32Size))

end JoinChannelCommand

end ChatCore.Apps
