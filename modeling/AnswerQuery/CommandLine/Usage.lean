import AnswerQuery.CommandLine.Options
import AnswerQuery.Text.Similarity

/-! What a command says about its options: how it is called, what they are for, and what is wrong with arguments. -/

namespace AnswerQuery.CommandLine

/-- The option that prints help, which every command has. -/
def helpOption : Declared :=
  ⟨helpName, some 'h', .nothing, "Print help".toList, none, false⟩

namespace Declared

/-- An option with the name of its value. -/
def spelled (declared : Declared) : Text :=
  let value := if declared.taking == .nothing then [] else " <".toList ++ declared.name.map Char.toUpper ++ ['>']
  "--".toList ++ declared.name ++ value

/-- An option as it stands at the left of a list. -/
def entry (declared : Declared) : Text :=
  (match declared.letter with
    | some letter => ['-', letter, ',', ' ']
    | none => "    ".toList) ++ declared.spelled

/-- What an option is for, with the value it has if it is not given. -/
def explanation (declared : Declared) : Text :=
  declared.purpose ++ (match declared.usual with
    | some value => " [default: ".toList ++ value ++ [']']
    | none => [])

end Declared

namespace Command

/-- The options of a command, with the one for help. -/
def allOptions (command : Command) : List Declared :=
  command.options ++ [helpOption]

/-- How a command is called in general, or how it is called with the options of some names. -/
def usage (command : Command) (names : List Text) : Text :=
  let required := command.options.filter Declared.required
  let used := names.filterMap fun name => command.allOptions.find? fun declared => declared.name == name
  let shown := (required ++ used.filter fun declared => !declared.required).map Declared.spelled
  let general := if names.isEmpty then ["[OPTIONS]".toList] else []
  "Usage: ".toList ++ [' '].intercalate (command.name :: general ++ shown)

/-- The help that a command gives. -/
def help (command : Command) : Text :=
  let width := (command.allOptions.map fun declared => declared.entry.length).foldl max 0
  let line := fun (declared : Declared) =>
    "  ".toList ++ declared.entry ++ List.replicate (width + 2 - declared.entry.length) ' ' ++ declared.explanation ++
      ['\n']
  command.purpose ++ "\n\n".toList ++ command.usage [] ++ "\n\nOptions:\n".toList ++ command.allOptions.flatMap line

/-- What is wrong with arguments, in a line, and more about it. -/
def complaint (command : Command) : Refusal → Text
  | .help => []
  | .unexpected argument => "unexpected argument '".toList ++ argument ++ "' found\n\n".toList ++ command.usage []
  | .unknown name given =>
    let start := "unexpected argument '--".toList ++ name ++ "' found\n\n".toList
    match Text.nearest? name (command.allOptions.map Declared.name) with
    | some other =>
      start ++ "  tip: a similar argument exists: '--".toList ++ other ++ "'\n\n".toList ++
        command.usage (given ++ [other]).eraseDups
    | none => start ++ command.usage given
  | .repeated declared =>
    "the argument '".toList ++ declared.spelled ++ "' cannot be used multiple times\n\n".toList ++ command.usage []
  | .valueless declared => "a value is required for '".toList ++ declared.spelled ++ "' but none was supplied".toList
  | .unsuited declared value reason =>
    "invalid value '".toList ++ value ++ "' for '".toList ++ declared.spelled ++ "': ".toList ++ reason
  | .superfluous declared value given =>
    "unexpected value '".toList ++ value ++ "' for '".toList ++ declared.spelled ++
      "' found; no more were expected\n\n".toList ++ command.usage (given ++ [declared.name]).eraseDups
  | .missing declared given =>
    "the following required arguments were not provided:\n  ".toList ++ declared.spelled ++ "\n\n".toList ++
      command.usage (declared.name :: given)

/-- What a command writes if it does nothing but say why. -/
def refusalText (command : Command) : Refusal → Text
  | .help => command.help
  | refusal =>
    "error: ".toList ++ command.complaint refusal ++ "\n\nFor more information, try '--help'.\n".toList

end Command

end AnswerQuery.CommandLine
