import AnswerQuery.Host.Script.Builtin.Basic
import AnswerQuery.Host.Script.Builtin.Variables
import AnswerQuery.Host.Script.Reference

/-! Commands of the rich dialect that leave loops, functions, and the shell. -/

namespace AnswerQuery.Host.Script

namespace Sh

/-- The number of a status, of which all but the last octet is dropped. -/
def statusOf (number : Int) : Nat :=
  (number % 256).toNat

/-- The only number among arguments, if there is one; what is no number is refused with a status. -/
def onlyNumber (refused : Nat) (arguments : List Raw) : Sh (Option Int) := do
  match arguments with
  | [] => pure none
  | text :: others =>
    match Numeral.integer? text with
    | none => do
      protest (text ++ ": numeric argument required".toList)
      conclude refused
      throw .exit
    | some number => do
      if !others.isEmpty then giveUp "too many arguments".toList
      pure (some number)

/-- Leave loops, the last of which may go on. -/
def leaveLoopsRichly (again : Bool) (arguments : List Raw) : Sh Nat := do
  let shell ← get
  if shell.loops = 0 then
    protest "only meaningful in a \x60for', \x60while', or \x60until' loop".toList
    pure 0
  else
    let count := ((← onlyNumber 128 arguments).getD 1)
    if count ≤ 0 then
      protest ((arguments.head?.getD []) ++ ": loop count out of range".toList)
      conclude 1
      throw (.loops shell.loops false)
    else
      conclude 0
      throw (.loops (min count.toNat shell.loops) again)

/-- Leave a function, or a script that is read by another one. -/
def leaveFunctionRichly (arguments : List Raw) : Sh Nat := do
  let shell ← get
  if shell.callers.isEmpty && shell.sources.isEmpty then
    protest "can only \x60return' from a function or sourced script".toList
    pure 2
  else
    match arguments with
    | [] => throw (.function false)
    | text :: others =>
      match Numeral.integer? text with
      | none => do
        protest (text ++ ": numeric argument required".toList)
        conclude 2
      | some number => do
        if !others.isEmpty then giveUp "too many arguments".toList
        conclude (statusOf number)
      throw (.function true)

/-- Leave the shell. -/
def leaveShellRichly (arguments : List Raw) : Sh Nat := do
  if let some number ← onlyNumber 2 arguments then
    modify fun shell => { shell with kept := some (statusOf number) }
  throw .exit

/-- Say that this is no shell that somebody has logged in to. -/
def leaveLogin : Sh Nat :=
  giveUp "not login shell: use \x60exit'".toList

end Sh

end AnswerQuery.Host.Script

/-! Switches of the rich dialect, and commands about the shell itself. -/

namespace AnswerQuery.Host.Script

namespace Switch

/-- The switches. -/
def names : List String :=
  ["autocd", "assoc_expand_once", "cdable_vars", "cdspell", "checkhash", "checkjobs", "checkwinsize", "cmdhist",
    "compat31", "compat32", "compat40", "compat41", "compat42", "compat43", "compat44", "complete_fullquote",
    "direxpand", "dirspell", "dotglob", "execfail", "expand_aliases", "extdebug", "extglob", "extquote",
    "failglob", "force_fignore", "globasciiranges", "globskipdots", "globstar", "gnu_errfmt", "histappend",
    "histreedit", "histverify", "hostcomplete", "huponexit", "inherit_errexit", "interactive_comments", "lastpipe",
    "lithist", "localvar_inherit", "localvar_unset", "login_shell", "mailwarn", "no_empty_cmd_completion",
    "nocaseglob", "nocasematch", "noexpand_translation", "nullglob", "patsub_replacement", "progcomp",
    "progcomp_alias", "promptvars", "restricted_shell", "shift_verbose", "sourcepath", "varredir_close",
    "xpg_echo"]

/-- The switches that are on from the start. -/
def usual : List String :=
  ["checkwinsize", "cmdhist", "complete_fullquote", "extquote", "force_fignore", "globasciiranges", "globskipdots",
    "hostcomplete", "interactive_comments", "patsub_replacement", "progcomp", "promptvars", "sourcepath"]

end Switch

namespace Sh

/-- Show a switch or an option: how it is set, or a command that sets it so. -/
def showSwitch (asCommand ofOptions : Bool) (name : Raw) (isOn : Bool) : Sh Unit := do
  if asCommand then
    let command := if ofOptions then (if isOn then "set -o " else "set +o ") else if isOn then "shopt -s " else "shopt -u "
    sayLine (command.toList ++ name)
  else
    sayLine (name ++ List.replicate (15 - name.length) ' ' ++ '\t' :: (if isOn then "on" else "off").toList)

/-- Turn switches on or off, or show them. -/
def switch (arguments : List Raw) : Sh Nat := do
  let (chosen, names) ← readOptions "pqsuo" arguments
  let asks := fun (letter : Char) => chosen.any fun option => option.letter == letter
  if asks 's' && asks 'u' then giveUp "cannot set and unset shell options simultaneously".toList
  let ofOptions := asks 'o'
  let known : List Raw :=
    if ofOptions then (Shell.optionNames .rich).map fun option => option.1.toList else Switch.names.map String.toList
  let isOn := fun (shell : Shell) (name : Raw) =>
    if ofOptions then match (Shell.optionNames .rich).find? fun option => option.1.toList == name with
      | some (_, letter) => shell.has letter
      | none => false
    else shell.switches.contains name
  if names.isEmpty then
    let shell ← get
    for name in known do
      let value := isOn shell name
      if !asks 'q' && !(asks 's' && !value) && !(asks 'u' && value) then showSwitch (asks 'p') ofOptions name value
    pure 0
  else
    let mut status := 0
    for name in names do
      let shell ← get
      if !known.contains name then
        protest (name ++ (if ofOptions then ": invalid option name" else ": invalid shell option name").toList)
        status := 1
      else if asks 's' || asks 'u' then
        if ofOptions then setNamed name (asks 's')
        else
          let others := shell.switches.filter (· != name)
          set { shell with switches := if asks 's' then name :: others else others }
      else
        let value := isOn shell name
        if !asks 'q' then showSwitch (asks 'p') ofOptions name value
        if !value then status := 1
    pure status

/-- Set options and arguments, or show the variables. -/
def setRichly (arguments : List Raw) : Sh Nat := do
  if arguments.isEmpty then
    let shell ← get
    for (name, variable_) in shell.variables_.mergeSort fun first second => Raw.inOrder first.1 second.1 do
      match variable_.items, variable_.value with
      | some items, _ => sayLine (name ++ '=' :: items.shown)
      | none, some value => sayLine (name ++ '=' :: quotedIfNeeded value)
      | none, none => pure ()
    pure 0
  else setShell arguments

/-- Drop arguments. -/
def shiftRichly (arguments : List Raw) : Sh Nat := do
  let shell ← get
  match arguments with
  | _ :: _ :: _ => giveUp "too many arguments".toList
  | [] => drop shell 1
  | [text] =>
    match Numeral.integer? text with
    | none => failWith 1 (text ++ ": numeric argument required".toList)
    | some count =>
      if count < 0 then giveUp (text ++ ": shift count out of range".toList)
      else drop shell count.toNat
where
  /-- Drop so many arguments, if there are as many. -/
  drop (shell : Shell) (count : Nat) : Sh Nat := do
    if shell.arguments.values.length < count then pure 1
    else
      set { shell with arguments := { values := shell.arguments.values.drop count } }
      pure 0

/-- Tell where the function that is being run was called. -/
def tellCaller (arguments : List Raw) : Sh Nat := do
  let shell ← get
  match shell.callers with
  | [] => pure 1
  | _ :: others =>
    let source := if shell.isArgument then "NULL".toList else shell.name
    if arguments.isEmpty then sayLine (decimal shell.line ++ ' ' :: source)
    else sayLine (decimal shell.line ++ ' ' :: (others.head?.getD "main".toList) ++ ' ' :: source)
    pure 0

end Sh

end AnswerQuery.Host.Script
