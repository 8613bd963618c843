/-
The help of a topic, and the version: what the program prints about
itself.
-/
import SerialEndpoint.CommandLine.Grammar

namespace SerialEndpoint.CommandLine

/-- A text filled up with spaces to a width. -/
def padded (width : Nat) (text : String) : String :=
  text ++ String.ofList (List.replicate (width - text.length) ' ')

/-- Rows of two columns, the second two spaces after the widest entry of
the first. -/
def columns (rows : List (String × String)) : List String :=
  let width := rows.foldl (fun width row => max width row.1.length) 0
  rows.map fun row => "  " ++ padded (width + 2) row.1 ++ row.2

/-- An option as help shows it. -/
def OptionSpec.shown (option : OptionSpec) : String :=
  (match option.short with
    | some c => String.ofList ['-', c, ',', ' ']
    | none => "    ") ++
  "--" ++ option.long ++
  (match option.value with
    | some value => " <" ++ value ++ ">"
    | none => "")

/-- Rows under a heading, unless there are none. -/
def titled (heading : String) (rows : List (String × String)) : List String :=
  if rows = [] then [] else ["", heading ++ ":"] ++ columns rows

/-- How a topic is called. -/
def Topic.usage (topic : Topic) : String :=
  "Usage: " ++ " ".intercalate
    ((if topic = .program then [topic.name] else [Topic.program.name, topic.name]) ++
      (if topic.options.isEmpty then [] else ["[OPTIONS]"]) ++
      topic.words.map WordSpec.shown ++
      (if topic.commands = [] then [] else ["<COMMAND>"]))

/-- The help of a topic, line by line. -/
def Topic.helpLines (topic : Topic) : List String :=
  [topic.purpose, "", topic.usage] ++
  titled "Commands" (topic.commands.map fun command => (command.name, command.purpose)) ++
  titled "Arguments" (topic.words.map fun word => (word.shown, word.purpose)) ++
  titled "Options" (topic.options.map fun option => (option.shown, option.purpose))

/-- The program's name and version. -/
def version : String := Topic.program.name ++ " 0.1.0"

end SerialEndpoint.CommandLine
