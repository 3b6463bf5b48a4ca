import AnswerQuery.CommandLine.Extract
import AnswerQuery.CommandLine.Prep
import AnswerQuery.CommandLine.Query
import AnswerQuery.Proofs.Run.Errands

/-! What the commands do: options are read as they are written, the filters of a workbench turn what a solver prints into
its datastore, and a query ends with the code of its errand. -/

namespace AnswerQuery.CommandLine

section Reading

/-- An option with its value, as one argument. -/
def writtenOption (given : Declared × Text) : Text :=
  '-' :: '-' :: given.1.name ++ '=' :: given.2

/-- Whether an option can be given with a value as one argument of a command with some options. -/
structure Declared.Accepts (options : List Declared) (declared : Declared) (value : Text) : Prop where
  /-- It is what its name stands for. -/
  named : options.find? (fun other => other.name == declared.name) = some declared
  /-- There is no mark in its name that would end it. -/
  unmarked : '=' ∉ declared.name
  /-- It takes a value. -/
  takes : declared.taking ≠ .nothing
  /-- The value can be taken. -/
  suits : declared.objection? value = none

variable {options : List Declared}

/-- A name is read up to the mark behind it, whatever the value is. -/
theorem readName_written {declared : Declared} {value : Text} (accepts : declared.Accepts options value)
    (reading : Reading) :
    readName options reading (declared.name ++ '=' :: value) = reading.add declared value := by
  -- The first mark is the one behind the name, whatever marks there are in the value.
  have name : (declared.name ++ '=' :: value).takeWhile (· != '=') = declared.name := by
    rw [List.takeWhile_append_of_pos fun c member => bne_iff_ne.mpr (ne_of_mem_of_not_mem member accepts.unmarked)]
    simp
  have takes : (declared.taking == .nothing) = false := beq_eq_false_iff_ne.mpr accepts.takes
  simp [readName, name, accepts.named, takes]

/-- What stands behind two dashes is read before the other arguments. -/
theorem readArguments_name (reading : Reading) {written : Text} (nonempty : written ≠ []) (rest : List Text) :
    readArguments options reading (('-' :: '-' :: written) :: rest) =
      readName options reading written >>= fun reading => readArguments options reading rest := by
  -- Two dashes alone would end the options.
  rw [readArguments]
  exact nonempty

/-- An option is given behind those before it, unless it was given before and may be given only once. -/
theorem give_of_fresh {declared : Declared} {value : Text} {earlier : Given}
    (suits : declared.objection? value = none)
    (fresh : declared.taking = .level ∨ earlier.lookup declared.name = none) :
    give earlier declared value = .ok (earlier ++ [(declared.name, value)]) := by
  -- It is not refused as a second one.
  have given : (declared.taking != .level && (earlier.lookup declared.name).isSome) = false := by
    rcases fresh with level | missing
    · simp [level]
    · simp [missing]
  simp [give, given, suits]

/-- Options are read as they are written, if none is given twice that may be given once. -/
theorem readArguments_written (given : List (Declared × Text)) (earlier : Given)
    (accepts : ∀ pair ∈ given, pair.1.Accepts options pair.2)
    (once : given.Pairwise fun first second => second.1.taking = .level ∨ first.1.name ≠ second.1.name)
    (fresh : ∀ pair ∈ given, pair.1.taking = .level ∨ earlier.lookup pair.1.name = none) :
    readArguments options { given := earlier } (given.map writtenOption) =
      .ok (earlier ++ given.map fun pair => (pair.1.name, pair.2)) := by
  -- Each option is given behind those before it.
  induction given generalizing earlier with
  | nil => simp [readArguments, Reading.settle]
  | cons pair given ih =>
    obtain ⟨declared, value⟩ := pair
    rw [List.forall_mem_cons] at accepts fresh
    rw [List.pairwise_cons] at once
    -- The first option is read and given.
    have first : readName options { given := earlier } (declared.name ++ '=' :: value) =
        .ok { given := earlier ++ [(declared.name, value)] } := by
      rw [readName_written accepts.1]
      simp [Reading.add, Reading.settle, give_of_fresh accepts.1.suits fresh.1, bind, Except.bind, pure, Except.pure]
    -- What is fresh behind the first is fresh before it and has another name.
    have others : ∀ pair ∈ given, pair.1.taking = .level ∨
        (earlier ++ [(declared.name, value)]).lookup pair.1.name = none := by
      intro pair member
      rcases once.1 pair member with level | other
      · exact .inl level
      refine (fresh.2 pair member).imp_right fun missing => ?_
      have different : (pair.1.name == declared.name) = false := beq_eq_false_iff_ne.mpr (Ne.symm other)
      simp [List.lookup_append, missing, List.lookup_cons, different]
    rw [List.map_cons, writtenOption, List.cons_append, List.cons_append, readArguments_name _ (by simp), first]
    simpa [bind, Except.bind] using ih _ accepts.2 once.2 others

/-- A command reads its options as they are written, if what has to be given is among them. -/
theorem read_written (command : Command) (given : List (Declared × Text))
    (accepts : ∀ pair ∈ given, pair.1.Accepts command.options pair.2)
    (once : given.Pairwise fun first second => second.1.taking = .level ∨ first.1.name ≠ second.1.name)
    (complete : ∀ declared ∈ command.options, declared.required = true → ∃ pair ∈ given, pair.1.name = declared.name) :
    read command (given.map writtenOption) = .ok (given.map fun pair => (pair.1.name, pair.2)) := by
  have arguments := readArguments_written given [] accepts once fun _ _ => .inr rfl
  -- Nothing that has to be given is missing.
  have found : command.options.find? (fun declared => declared.required &&
      ((given.map fun pair => (pair.1.name, pair.2)).lookup declared.name).isNone) = none := by
    rw [List.find?_eq_none]
    intro declared member missing
    simp only [Bool.and_eq_true, Option.isNone_iff_eq_none, List.lookup_eq_none_iff] at missing
    obtain ⟨pair, inside, same⟩ := complete declared member missing.1
    simpa [same] using missing.2 _ (List.mem_map_of_mem inside)
  simp only [read, arguments, List.nil_append, bind, Except.bind, found, pure, Except.pure]

end Reading

section Filters

variable {m : Type → Type} [Monad m] (console : Console m)

/-- Read an input and write what is made of it, or say which of the two is not possible. -/
def Console.convert (input : m (Except OsError Bytes)) (reading writing : Text) (convert : Bytes → Bytes) : m Nat := do
  match ← input with
  | .error reason => console.fail reading reason
  | .ok octets => console.deliver writing (convert octets)

/-- Where nothing is traced, nothing is reported. -/
theorem Console.trace_none (topic : Topic) (message : Text) : console.trace .none topic message = pure (.ok ()) := rfl

variable [LawfulMonad m] {arguments : List Text} {given : Given}

/-- An extractor that is not traced lists the models in what its solver has printed. -/
theorem Extract.run_untraced {solver : Solver} (asked : read command arguments = .ok given)
    (known : Solver.ofName? given.solver = some solver) (untraced : given.trace = .none) :
    run console arguments =
      console.convert console.readInput "Reading from stdin".toList "Writing models".toList fun octets =>
        (format given).listing (solver.blocks (Utf8.decode octets)) := by
  simp only [run, asked, known, untraced, Console.trace_none, pure_bind]
  rfl

/-- A normalizer that is not traced writes the datastore of the listing that it reads. -/
theorem Prep.run_untraced (asked : read command arguments = .ok given) (untraced : given.trace = .none) :
    run console arguments =
      console.convert (readListing console (given.value? "file")) (readingContext (given.value? "file"))
        "Writing datastore".toList fun octets => Utf8.encode (Datastore.ofText (Utf8.decode octets)).render := by
  simp only [run, asked, untraced, Console.trace_none, pure_bind]
  rfl

variable (workbench : Workbench)

/-- The extractor can do without any of its options. -/
theorem Extract.required_eq_false : ∀ declared ∈ command.options, declared.required = false := by decide

/-- The normalizer can do without any of its options. -/
theorem Prep.required_eq_false : ∀ declared ∈ command.options, declared.required = false := by decide

/-- As a workbench starts it, the extractor lists the models in what its solver has printed. -/
theorem Extract.run_extractStage (solver : Solver) :
    run console (workbench.extractStage solver).arguments =
      console.convert console.readInput "Reading from stdin".toList "Writing models".toList fun octets =>
        Format.text.listing (solver.blocks (Utf8.decode octets)) := by
  have asked : read command (workbench.extractStage solver).arguments = .ok [("solver".toList, solver.name)] := by
    refine read_written command
      [(solverOption "The solver that produced the input (dlv, smodels, or clasp)".toList, solver.name)] ?_
      (List.pairwise_singleton _ _) fun declared member required => ?_
    · -- The option for the solver takes any value.
      simp only [List.forall_mem_singleton]
      exact ⟨rfl, by decide, by decide, rfl⟩
    · rw [required_eq_false declared member] at required
      cases required
  -- It is asked neither for code nor for traces.
  have text : format [("solver".toList, solver.name)] = .text := rfl
  rw [run_untraced console asked (Solver.ofName?_eq_some_iff.mpr rfl) rfl, text]

/-- As a workbench starts it, the normalizer writes the datastore of the listing on its standard input. -/
theorem Prep.run_prepStage :
    run console workbench.prepStage.arguments =
      console.convert console.readInput "Reading from stdin".toList "Writing datastore".toList fun octets =>
        Utf8.encode (Datastore.ofText (Utf8.decode octets)).render := by
  have asked : read command workbench.prepStage.arguments = .ok [] := by
    refine read_written command [] (by simp) .nil fun declared member required => ?_
    rw [required_eq_false declared member] at required
    cases required
  -- No file is named, so that the standard input is read.
  have standard : readingContext none = "Reading from stdin".toList := by decide
  rw [run_untraced console asked rfl, ← standard]
  rfl

/-- Standard streams: what there is to be read, and what has been written. -/
structure Streams where
  /-- What the standard input still holds. -/
  input : Bytes
  /-- What was written to the standard output. -/
  output : Bytes := []
  /-- What was written to the standard error. -/
  errors : Text := []

/-- The surroundings of a filter that can do nothing but use its standard streams. -/
def Console.onStreams : Console (StateM Streams) where
  readInput := fun streams => (.ok streams.input, { streams with input := [] })
  readFile _ := pure (.error .noEntry)
  write octets := fun streams => (.ok (), { streams with output := streams.output ++ octets })
  report text := fun streams => (.ok (), { streams with errors := streams.errors ++ text })

/-- On streams, all that is read is converted and written. -/
theorem Console.run_convert_onStreams (reading writing : Text) (convert : Bytes → Bytes) (streams : Streams) :
    (Console.onStreams.convert Console.onStreams.readInput reading writing convert).run streams =
      (0, { streams with input := [], output := streams.output ++ convert streams.input }) := rfl

/-- Whatever a solver prints, the filters of a workbench, one behind the other, turn it into the datastore of its models,
and report nothing. -/
theorem filters_write_datastore (solver : Solver) (printed : Bytes) :
    let extracted := (Extract.run .onStreams (workbench.extractStage solver).arguments).run { input := printed }
    let normalized := (Prep.run .onStreams workbench.prepStage.arguments).run { input := extracted.2.output }
    extracted.1 = 0 ∧ extracted.2.errors = [] ∧ normalized.1 = 0 ∧ normalized.2.errors = [] ∧
      normalized.2.output = Utf8.encode
        (Datastore.ofText (Utf8.decode (Format.text.listing (solver.blocks (Utf8.decode printed))))).render := by
  simp only [Extract.run_extractStage, Prep.run_prepStage, Console.run_convert_onStreams, List.nil_append, and_self]

end Filters

namespace Query

/-- What a query asks of a workbench. -/
def errand (query : Query) : Errand :=
  ⟨query.solver, query.program, some query.interpreter⟩

variable {σ : Type} {query : Query} {baseVariable : Option Text} {installation : Installation} {arguments : List Text}

/-- A query is carried out as its errand on a workbench that has its traces. -/
theorem perform_eq (system : System σ) (chosen : query.installation baseVariable = .ok installation) :
    query.perform system baseVariable = (Workbench.mk installation query.trace).perform system query.errand := by
  simp only [perform, chosen, Workbench.perform, errand]

/-- If a query is asked for, the command ends with the code of what comes of it, and reports a failure. -/
theorem run_of_asked (asked : ofArguments arguments = .ok query) (system : System σ) (before : σ) :
    (run system baseVariable arguments).run before =
      let ended := (query.perform system baseVariable).run before
      (endCode ended.1, match ended.1 with
        | .ok () => ended.2
        | .error failure => ((system.report (failureReport failure)).run ended.2).2) := by
  simp only [run, asked]
  rw [run_andThen]
  -- What comes of the query decides what is left to do.
  cases ((query.perform system baseVariable).run before).1 <;> rfl

/-- No failure is taken for a success. -/
theorem endCode_eq_zero_iff {result : Except Failure Unit} : endCode result = 0 ↔ result = .ok () := by
  cases result with
  | ok => simp [endCode]
  -- None of the codes of failures is zero.
  | error failure => cases failure <;> simp [endCode, Failure.exitCode]

/-- The command ends with zero if and only if help was asked for or the query that was asked for has succeeded. -/
theorem run_eq_zero_iff (system : System σ) (before : σ) :
    ((run system baseVariable arguments).run before).1 = 0 ↔
      ofArguments arguments = .error .help ∨
      ∃ query, ofArguments arguments = .ok query ∧ ((query.perform system baseVariable).run before).1 = .ok () := by
  cases asked : ofArguments arguments with
  | error refusal =>
    have code : ((run system baseVariable arguments).run before).1 = refusal.exitCode := by
      rw [run, asked]
      rfl
    rw [code]
    -- Any other refusal than help is an error of usage.
    cases refusal <;> simp [Refusal.exitCode, usageCode]
  | ok query =>
    -- There is no other query that the arguments could ask for.
    rw [run_of_asked asked, endCode_eq_zero_iff]
    simp

/-- The command ends as the errand of its query does, with the code of that end. Behind the calls of the errand there is
at most the report of a failure, which leaves the datastore as it is. -/
theorem run_ends (asked : ofArguments arguments = .ok query)
    (chosen : query.installation baseVariable = .ok installation) (system : System σ)
    (reading : FileReading system (installation.path .datastore)) (before : σ) :
    let ended := (run system baseVariable arguments).run before
    ∃ result calls reached reports,
      query.errand.Ends ⟨installation, query.trace⟩ reading before result ended.1 calls reached ∧
      OnlyReports reports ∧ (result = .ok () → reports = []) ∧ system.Leads before (calls ++ reports) ended.2 ∧
      (reading.writer reached = none → reading.contents ended.2 = reading.contents reached) := by
  intro ended
  obtain ⟨result, calls, reached, runs, -, ends⟩ :=
    @Workbench.runs_perform σ ⟨installation, query.trace⟩ system reading query.errand before
  -- Behind the errand a failure is reported, and a success is not.
  obtain ⟨reports, only, silent, code, leads⟩ : ∃ reports, OnlyReports reports ∧ (result = .ok () → reports = []) ∧
      ended.1 = endCode result ∧ system.Leads reached reports ended.2 := by
    have whole : ended = _ := run_of_asked asked system before
    rw [perform_eq system chosen, runs.plain] at whole
    cases result with
    | ok =>
      rw [whole]
      exact ⟨[], by simp [OnlyReports], fun _ => rfl, rfl, .none reached⟩
    | error failure =>
      rw [whole]
      refine ⟨[.report (failureReport failure)], by simp [OnlyReports], fun succeeds => ?_, rfl, .call rfl (.none _)⟩
      cases succeeds
  refine ⟨result, calls, reached, reports, by rwa [code], only, silent, ?_, fun idle => ?_⟩
  · exact System.leads_append_iff.mpr ⟨reached, runs.leads, leads⟩
  · -- Messages use no file.
    exact (reading.kept_of_leads leads idle only.usesFile).1

end Query

end AnswerQuery.CommandLine
