import AnswerQuery.Host.Octets
import AnswerQuery.Host.Script.Children

/-! How the commands are to be used that a shell of the rich dialect carries out itself. -/

namespace AnswerQuery.Host.Script

/-- How commands are to be used. -/
def usages : List (String × String) :=
  [(".", ". filename [arguments]"),
    ("alias", "alias [-p] [name[=value] ... ]"),
    ("builtin", "builtin [shell-builtin [arg ...]]"),
    ("cd", "cd [-L|[-P [-e]] [-@]] [dir]"),
    ("command", "command [-pVv] command [arg ...]"),
    ("declare", "declare [-aAfFgiIlnrtux] [name[=value] ...] or declare -p [-aAfFilnrtux] [name ...]"),
    ("dirs", "dirs [-clpv] [+N] [-N]"),
    ("disown", "disown [-h] [-ar] [jobspec ... | pid ...]"),
    ("enable", "enable [-a] [-dnps] [-f filename] [name ...]"),
    ("eval", "eval [arg ...]"),
    ("exec", "exec [-cl] [-a name] [command [argument ...]] [redirection ...]"),
    ("export", "export [-fn] [name[=value] ...] or export -p"),
    ("getopts", "getopts optstring name [arg ...]"),
    ("hash", "hash [-lr] [-p pathname] [-dt] [name ...]"),
    ("jobs", "jobs [-lnprs] [jobspec ...] or jobs -x command [args]"),
    ("mapfile", "mapfile [-d delim] [-n count] [-O origin] [-s count] [-t] [-u fd] [-C callback] [-c quantum] " ++
      "[array]"),
    ("popd", "popd [-n] [+N | -N]"),
    ("printf", "printf [-v var] format [arguments]"),
    ("pushd", "pushd [-n] [+N | -N | dir]"),
    ("pwd", "pwd [-LP]"),
    ("read", "read [-ers] [-a array] [-d delim] [-i text] [-n nchars] [-N nchars] [-p prompt] [-t timeout] " ++
      "[-u fd] [name ...]"),
    ("readarray", "readarray [-d delim] [-n count] [-O origin] [-s count] [-t] [-u fd] [-C callback] [-c " ++
      "quantum] [array]"),
    ("readonly", "readonly [-aAf] [name[=value] ...] or readonly -p"),
    ("set", "set [-abefhkmnptuvxBCEHPT] [-o option-name] [--] [-] [arg ...]"),
    ("shopt", "shopt [-pqsu] [-o] [optname ...]"),
    ("source", "source filename [arguments]"),
    ("times", "times"),
    ("trap", "trap [-lp] [[arg] signal_spec ...]"),
    ("type", "type [-afptP] name [name ...]"),
    ("typeset", "typeset [-aAfFgiIlnrtux] name[=value] ... or typeset -p [-aAfFilnrtux] [name ...]"),
    ("ulimit", "ulimit [-SHabcdefiklmnpqrstuvxPRT] [limit]"),
    ("umask", "umask [-p] [-S] [mode]"),
    ("unalias", "unalias [-a] name [name ...]"),
    ("unset", "unset [-f] [-v] [-n] [name ...]"),
    ("wait", "wait [-fn] [-p var] [id ...]"),
    ("let", "let arg [arg ...]"),
    ("kill", "kill [-s sigspec | -n signum | -sigspec] pid | jobspec ... or kill -l [sigspec]"),
    ("shift", "shift [n]"),
    ("local", "local [option] name[=value] ..."),
    ("caller", "caller [expr]")]

/-- How a command is to be used. -/
def usageOf (name : Raw) : Raw :=
  ((usages.lookup (String.ofList name)).getD "").toList

end AnswerQuery.Host.Script

/-! What the commands have in common that a shell carries out itself. -/

namespace AnswerQuery.Host.Script

namespace Sh

/-- An option of a command, and the argument that belongs to it. -/
structure Chosen where
  /-- The letter of the option. -/
  letter : Char
  /-- Its argument, if it has one. -/
  argument : Raw := []

/-- Show how the command that the shell is carrying out is to be used, and leave it. -/
def showUsage {α : Type} : Sh α := do
  let name := ((← get).command).getD []
  sayError (name ++ ": usage: ".toList ++ usageOf name ++ ['\n'])
  conclude 2
  throw .error

/-- Complain and show how the command is to be used. -/
def refuseUse {α : Type} (message : Raw) : Sh α := do
  protest message
  showUsage

/-- Read the options of one argument, given the letters that are allowed; a colon follows the letter of an option with an
argument. What follows of the arguments is given back. -/
def readLetters (allowed : Raw) : Raw → List Raw → List Chosen → Sh (List Chosen × List Raw)
  | [], others, chosen => pure (chosen, others)
  | letter :: rest, others, chosen => do
    match (if letter == ':' then [] else allowed.dropWhile (· != letter)) with
    | [] => do
      if (← get).isRich then refuseUse (['-', letter] ++ ": invalid option".toList)
      giveUp ("Illegal option -".toList ++ [letter])
    | _ :: ':' :: _ =>
      match rest, others with
      | [], [] => do
        if (← get).isRich then refuseUse (['-', letter] ++ ": option requires an argument".toList)
        giveUp ("No arg for -".toList ++ [letter] ++ " option".toList)
      | [], argument :: others => pure (⟨letter, argument⟩ :: chosen, others)
      | _, _ => pure (⟨letter, rest⟩ :: chosen, others)
    | _ => readLetters allowed rest others (⟨letter, []⟩ :: chosen)

/-- Read options as long as there are any. -/
def readOptionsWithin (allowed : Raw) : Nat → List Raw → List Chosen → Sh (List Chosen × List Raw)
  | 0, arguments, chosen => pure (chosen.reverse, arguments)
  | steps + 1, arguments, chosen => do
    match arguments with
    | ['-', '-'] :: others => pure (chosen.reverse, others)
    | ('-' :: letter :: rest) :: others => do
      let (chosen, others) ← readLetters allowed (letter :: rest) others chosen
      readOptionsWithin allowed steps others chosen
    | _ => pure (chosen.reverse, arguments)

/-- Read the options at the front of arguments, in order, and what follows them. -/
def readOptions (allowed : String) (arguments : List Raw) : Sh (List Chosen × List Raw) :=
  readOptionsWithin allowed.toList (arguments.length + 1) arguments []

/-- The arguments of a command without options. -/
def withoutOptions (arguments : List Raw) : Sh (List Raw) := do
  let (_, arguments) ← readOptions "" arguments
  pure arguments

/-- Complain about what is no number. -/
def refuseNumber {α : Type} (text : Raw) : Sh α := do
  if (← get).isRich then failWith 2 (text ++ ": numeric argument required".toList)
  giveUp ("Illegal number: ".toList ++ text)

/-- A number that an argument stands for. -/
def integerOf (text : Raw) : Sh Int := do
  let front := Numeral.readFront 10 text
  if !front.found || !Numeral.fits front.value || !front.rest.all Raw.isSpace then refuseNumber text
  else pure front.value

/-- The greatest number that an argument can stand for where it counts something. -/
def greatestCount : Int := 2147483647

/-- A number that an argument stands for, which is not below zero. -/
def numberOf (text : Raw) : Sh Nat := do
  let n ← integerOf text
  if n < 0 || greatestCount < n then refuseNumber text else pure n.toNat

/-- A text in quotes that a shell reads as the text. -/
def quote (text : Raw) : Raw :=
  pieces (text.length + 1) text
where
  /-- The pieces of a text between single quotes, each in quotes; those quotes are in double quotes. -/
  pieces : Nat → Raw → Raw
    | 0, _ => []
    | steps + 1, text =>
      let plain := text.takeWhile (· != '\'')
      let rest := text.drop plain.length
      let quotes := rest.takeWhile (· == '\'')
      let after := rest.drop quotes.length
      ['\''] ++ plain ++ ['\''] ++ (if quotes.isEmpty then [] else ['"'] ++ quotes ++ ['"']) ++
        (if after.isEmpty then [] else pieces steps after)

/-- The paths at which a name is looked for. -/
def searchPaths (search name : Raw) : List Raw :=
  (Raw.split ':' search).map fun directory => if directory.isEmpty then name else directory ++ '/' :: name

/-- A line of output. -/
def sayLine (text : Raw) : Sh Unit :=
  say (text ++ ['\n'])

end Sh

end AnswerQuery.Host.Script
