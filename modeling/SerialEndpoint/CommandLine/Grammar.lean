/-
The grammar of the command line: the commands, and for each of them its
options and the words that it takes.

One table serves the reader of arguments and the printer of help, so what
is advertised is what is understood.
-/
namespace SerialEndpoint.CommandLine

/-- The places of the command line that have options and words of their
own: the program itself and its commands. -/
inductive Topic where
  | program
  | generate
  | send
  | help
deriving DecidableEq

/-- Everything that can be given a value or set. -/
inductive Argument where
  | verbose
  | help
  | version
  | receive
  /-- The settings file whose serial section is used. -/
  | settings
  | port
  | baud
  | timeout
  /-- The settings file to generate from. -/
  | project
  | message
deriving DecidableEq

/-- An option with its names. -/
structure OptionSpec where
  argument : Argument
  short : Option Char
  long : String
  /-- What its value is called, if it takes one. -/
  value : Option String := none
  purpose : String := ""

/-- A word that a command takes. -/
structure WordSpec where
  argument : Argument
  shown : String
  purpose : String := ""

namespace Topic

/-- The name of a command. -/
def name : Topic → String
  | program => "kinetic"
  | generate => "generate"
  | send => "send"
  | help => "help"

/-- What a command does. -/
def purpose : Topic → String
  | program => "Serial endpoint generator and host link for robot agents"
  | generate => "Generate firmware and keymaps for the agent named in a config file"
  | send => "Send one command line to a connected endpoint"
  | help => "Print this message or the help of the given subcommand(s)"

/-- The commands below a topic. -/
def commands : Topic → List Topic
  | program => [generate, send, help]
  | _ => []

/-- The command of a name. -/
def command? (topic : Topic) (name : String) : Option Topic :=
  topic.commands.find? fun command => command.name = name

/-- The options in the order in which help shows them. -/
def options : Topic → List OptionSpec
  | program => [verbose, help, ⟨.version, some 'V', "version", none, "Print version"⟩]
  | generate => [verbose, help]
  | send =>
    [⟨.receive, some 'r', "receive", none, "Wait for one reply line"⟩,
     verbose,
     ⟨.settings, some 'c', "config", some "CONFIG",
      "Serial settings are read from here unless overridden"⟩,
     ⟨.port, some 'p', "port", some "PORT", ""⟩,
     ⟨.baud, some 'b', "baud", some "BAUD", ""⟩,
     ⟨.timeout, none, "timeout-ms", some "TIMEOUT_MS", ""⟩,
     help]
  | .help => []
where
  verbose : OptionSpec :=
    ⟨.verbose, some 'v', "verbose", none, "Log every allocation and serial line"⟩
  help : OptionSpec := ⟨.help, some 'h', "help", none, "Print help"⟩

/-- The settings file that is generated from unless another is named. -/
def usualProject : String := "kinetic.toml"

/-- The words that a command takes, in order. -/
def words : Topic → List WordSpec
  | generate => [⟨.project, "[CONFIG]", "[default: " ++ usualProject ++ "]"⟩]
  | send => [⟨.message, "<MESSAGE>", ""⟩]
  | help => [⟨.help, "[COMMAND]...", "Print help for the subcommand(s)"⟩]
  | program => []

/-- The option of a long name. -/
def long? (topic : Topic) (name : String) : Option OptionSpec :=
  topic.options.find? fun option => option.long = name

/-- The option of a short name. -/
def short? (topic : Topic) (name : Char) : Option OptionSpec :=
  topic.options.find? fun option => option.short = some name

end Topic

end SerialEndpoint.CommandLine
