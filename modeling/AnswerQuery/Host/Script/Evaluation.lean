import AnswerQuery.Host.Script.Evaluation.Plain
import AnswerQuery.Host.Script.Evaluation.Rich

/-! Running commands of scripts, each by what becomes of the shell. -/

namespace AnswerQuery.Host.Script

namespace Sh

/-- Remember where the program of a command is. -/
def lookAhead (command : Command) : Sh Unit := do
  match command with
  | .simple _ _ (word :: _) _ =>
    match Word.plainText? word with
    | some name => if Raw.isName name then let _ ← lookUp name false none
    | none => pure ()
  | _ => pure ()

/-- Start the processes of commands of which each one reads what the one before it writes: the processes, the last one
first. -/
def startPipeline (run : Run) (purpose : Purpose) (awaited : Bool) :
    Option Nat → List Nat → List Command → Sh (List Nat)
  | _, started, [] => pure started
  | source, started, command :: others => do
    lookAhead command
    let pipe : Option (Nat × Nat) ← if others.isEmpty then pure none else some <$> ask .makePipe
    let child ← branchOff run do
      if !awaited then enterBackground started.isEmpty
      if let some (reading, _) := pipe then ask (.close reading)
      if let some reading := source then moveDescriptor reading 0
      if let some (_, writing) := pipe then moveDescriptor writing 1
      run { purpose with isLast := true } command
    if let some reading := source then ask (.close reading)
    if let some (_, writing) := pipe then ask (.close writing)
    startPipeline run purpose awaited (pipe.map Prod.fst) (child :: started) others

/-- Note processes that are not waited for. -/
def leaveRunning (processes : List Nat) : Sh Unit := do
  let _ ← remember processes
  modify fun shell => { shell with latest := processes.getLast? }
  conclude 0

/-- What becomes of a loop when its test or its body was left: whether the loop goes on, or how it is left. -/
def afterRound : Leaving → Except Leaving Bool
  | .loops count again => if count ≤ 1 then .ok again else .error (.loops (count - 1) again)
  | leaving => .error leaving

/-- Repeat a body while a test succeeds, or until it does. -/
def runRepeated (run : Run) (purpose : Purpose) (untilSuccess : Bool) (test body : Command) : Sh Unit :=
  loop 0 fun status => do
    match ← attempt (run { isTested := true } test) with
    | .error leaving =>
      match afterRound leaving with
      | .ok true => pure (.inl status)
      | .ok false => do
        conclude status
        pure (.inr ())
      | .error leaving => do
        if !(leaving matches .function true) && staysInside leaving then conclude status
        throw leaving
    | .ok () => do
      let holds := (← get).status == 0
      if holds == untilSuccess then
        conclude status
        pure (.inr ())
      else
        let result ← attempt (run { isTested := purpose.isTested } body)
        let status := (← get).status
        match result with
        | .ok () => pure (.inl status)
        | .error leaving =>
          match afterRound leaving with
          | .ok true => pure (.inl status)
          | .ok false => pure (.inr ())
          | .error leaving => throw leaving

/-- Repeat a body for each of some fields, each of which is announced. -/
def runEach (run : Run) (purpose : Purpose) (announce : Sh Unit) (name : Raw) (body : Command) : List Raw → Sh Unit
  | [] => pure ()
  | field :: fields => do
    announce
    assign name field
    match ← attempt (run { isTested := purpose.isTested } body) with
    | .ok () => runEach run purpose announce name body fields
    | .error leaving =>
      match afterRound leaving with
      | .ok true => runEach run purpose announce name body fields
      | .ok false => pure ()
      | .error leaving => throw leaving

/-- Repeat a body while the value of a formula is not zero; another formula is calculated after each round. -/
def runCounted (run : Run) (purpose : Purpose) (start test step : Word) (body : Command) : Sh Unit := do
  let value := fun (formula : Word) => if formula.all (· matches .plain ' ') then pure (some 1) else formulaValue run formula
  match ← value start with
  | none => conclude 1
  | some _ =>
    loop 0 fun status => do
      match ← value test with
      | none => do
        conclude 1
        pure (.inr ())
      | some 0 => do
        conclude status
        pure (.inr ())
      | some _ => do
        let result ← attempt (run { isTested := purpose.isTested } body)
        let status := (← get).status
        let goesOn ← match result with
          | .ok () => pure true
          | .error leaving => resume (afterRound leaving)
        if !goesOn then pure (.inr ())
        else match ← value step with
          | some _ => pure (.inl status)
          | none => do
            conclude 1
            pure (.inr ())

/-- Do something inside of a loop. -/
def insideLoop (body : Sh Unit) : Sh Unit := do
  let before := (← get).loops
  modify fun shell => { shell with loops := before + 1 }
  let result ← attempt body
  modify fun shell => { shell with loops := before }
  resume result

/-- Whether a text fits one of some patterns. -/
def fitsAny (capture : Capture) (text : Raw) : List Word → Sh Bool
  | [] => pure false
  | pattern :: others => do
    let parts ← wordPattern capture pattern
    if Wildcard.fits parts text then pure true else fitsAny capture text others

/-- Run the first arm with a pattern that a text fits and what follows it, given what followed the arm before. -/
def runArms (run : Run) (purpose : Purpose) (text : Raw) : Option Sequel → List Arm → Sh Unit
  | before, [] => if before.isNone then conclude 0 else pure ()
  | before, .mk patterns body sequel :: arms => do
    let fits ← if before == some .falls then pure true else fitsAny (capture run) text patterns
    if fits then
      match body with
      | .nothing => conclude 0
      | _ => run (if sequel == .leaves then purpose else { isTested := purpose.isTested }) body
      if sequel != .leaves then runArms run purpose text (some sequel) arms
    else runArms run purpose text before arms

/-- Run a command in a process of its own. -/
def runSubshell (run : Run) (purpose : Purpose) (awaited : Bool) (line : Nat) (body : Command)
    (redirections : List Redirection) : Sh Unit := do
  reach line
  let capture := capture run
  let targets ← redirections.mapM (targetOf capture)
  let inside := fun (tested : Bool) => do
    let (_, result) ← redirectEach capture false targets []
    resume result
    run { isLast := true, isTested := tested } body
  let staysHere := !(← hasTraps) && !(← get).isRich
  if awaited && purpose.isLast && staysHere then inside purpose.isTested
  else
    let child ← branchOff run do
      if !awaited then enterBackground true
      inside (awaited && purpose.isTested)
    if awaited then concludeWith [child] else leaveRunning [child]

/-- Run a command for which redirections hold. -/
def runRedirected (run : Run) (purpose : Purpose) (line : Nat) (body : Command) (redirections : List Redirection) :
    Sh Unit := do
  reach line
  let capture := capture run
  let targets ← redirections.mapM (targetOf capture)
  let (kept, result) ← redirectEach capture true targets []
  let result ← match result with
    | .ok () => attempt (run { isTested := purpose.isTested } body)
    | .error .error => pure (.ok ())
    | other => pure other
  restoreDescriptors false kept
  resume result

/-- Turn the status of a command round, even if it was left. -/
def runNegated (run : Run) (body : Command) : Sh Unit := do
  let result ← attempt (run { isTested := true } body)
  let turn := do conclude (if (← get).status == 0 then 1 else 0)
  match result with
  | .ok () => turn
  | .error leaving => do
    if staysInside leaving then turn
    throw leaving

/-- Whether the failure of a command can be that of the shell. -/
def countsFailure : Command → Bool
  | .simple .. => true
  | .subshell .. => true
  | .background .. => true
  | .pipeline .. => true
  | .decision .. => true
  | .calculation .. => true
  | _ => false

/-- Whether a command is one whose status is told on its own. -/
def isAlone : Command → Bool
  | .simple .. => true
  | .subshell .. => true
  | .decision .. => true
  | .calculation .. => true
  | _ => false

/-- Wait for the processes of a pipeline, and take the status of the last one, or of the last one that failed if that is
wanted. -/
def concludePipeline (processes : List Nat) : Sh Unit := do
  let statuses ← awaitAll processes
  modify fun shell => { shell with statuses }
  let last := statuses.getLast?.getD 0
  let failed := (statuses.reverse.find? (· != 0)).getD 0
  conclude (if (← get).has '6' then failed else last)

/-- Run one kind of command, given how the commands inside of it are run. -/
def runOne (run : Run) (purpose : Purpose) : Command → Sh Unit
  | .nothing => pure ()
  | .simple line settings words redirections => do
    if (← get).isRich then runSimpleRichly run purpose line settings words redirections
    else runSimple run purpose line settings words redirections
  | .pipeline awaited commands => do
    let processes ← startPipeline run { isTested := purpose.isTested } awaited none [] commands
    if awaited then concludePipeline processes.reverse else leaveRunning processes.reverse
  | .redirected line body redirections => runRedirected run purpose line body redirections
  | .subshell line body redirections => runSubshell run purpose true line body redirections
  | .background line body redirections => runSubshell run purpose false line body redirections
  | .both first second => do
    run { isTested := true } first
    if (← get).status == 0 then run purpose second
  | .either first second => do
    run { isTested := true } first
    if (← get).status != 0 then run purpose second
  | .sequence first second => do
    run { isTested := purpose.isTested } first
    run purpose second
  | .conditional test body otherwise => do
    run { isTested := true } test
    if (← get).status == 0 then run purpose body
    else match otherwise with
      | some command => run purpose command
      | none => conclude 0
  | .repeated untilSuccess test body => insideLoop (runRepeated run purpose untilSuccess test body)
  | .each line name words body => do
    reach line
    let fields ← words.mapM (wordFields (capture run))
    if fields.flatten.isEmpty then conclude 0
    else
      let announce := do
        let shell ← get
        if shell.isRich then
          showRichly run ([' '].intercalate ("for".toList :: name :: "in".toList :: words.map Word.written))
      insideLoop (runEach run purpose announce name body fields.flatten)
  | .choice line word arms => do
    reach line
    if (← get).isRich then showRichly run ("case ".toList ++ Word.written word ++ " in".toList)
    let text ← wordText (capture run) word
    runArms run purpose text none arms
  | .definition line name body => do
    modify fun shell => { shell with
      functions := (name, line, body) :: shell.functions.filter fun known => known.1 != name
      origins := (shell.sources.head?.toList.map fun source => (name, source)) ++
        shell.origins.filter fun known => known.1 != name
      found := shell.found.filter fun known => known.name != name }
    conclude 0
  | .negated body => runNegated run body
  | .decision line condition => runDecision run line condition
  | .calculation line formula => runCalculation run line formula
  | .counted line start test step body => do
    reach line
    insideLoop (runCounted run purpose start test step body)

/-- Do what is to be done about the failure of a command. -/
def reactToFailure (run : Run) : Sh Unit := do
  let shell ← get
  match shell.traps.lookup Happening.failure with
  | none => pure ()
  | some action =>
    if shell.callers.isEmpty || shell.has 'E' then
      set { shell with traps := shell.traps.filter fun trap => trap.1 != Happening.failure }
      let result ← attempt (runText run action)
      modify fun now => { now with traps := shell.traps, line := shell.line }
      match result with
      | .ok _ => conclude shell.status
      | .error leaving => throw leaving

/-- Run a command, to a depth of commands in each other. -/
def runTo : Nat → Run
  | 0, _, _ => giveUp "Maximum depth reached".toList
  | depth + 1, purpose, command => do
    let run := runTo depth
    if !(← get).has 'n' && !(command matches .nothing) then
      reactToAll run
      let channels := (← get).channels
      let result ← attempt (runOne run purpose command)
      if (← get).channels.length != channels.length then closeChannels channels
      if isAlone command then modify fun shell => { shell with statuses := [shell.status] }
      let failed := do
        let shell ← get
        pure (!purpose.isTested && countsFailure command && shell.status != 0)
      let leaves := do
        let failed ← failed
        pure (failed && (← get).has 'e')
      match result with
      | .ok () => if ← failed then reactToFailure run
      | .error leaving => do
        if staysInside leaving && (← leaves) then throw .done
        throw leaving
      reactToAll run
      if ← leaves then throw .done
    if purpose.isLast then throw .done

/-- How deep commands can be in each other. -/
def deepestRun : Nat := 1000000

/-- Run a command. -/
def run : Run := runTo deepestRun

end Sh

end AnswerQuery.Host.Script
