import AnswerQuery.Proofs.Text.Words
import AnswerQuery.Workbench
import Mathlib.Data.List.Forall2

/-! A goal that consults files is read back as their names, whatever quotes are in them. The files that an interpreter
consults are the ones that the pipeline writes and the queries lie in as long as a backslash names no more than a slash
does. -/

namespace AnswerQuery

/-- Where a reader of a list of quoted atoms is. -/
inductive AtomPlace where
  /-- In front of the quote that opens an atom. -/
  | opening
  /-- Between the quotes of an atom. -/
  | inside
  /-- Behind a quote, which ends the atom unless another one follows. -/
  | closing
  deriving DecidableEq, Repr

/-- Read quoted atoms with commas between them, up to the bracket and the period that end a goal. -/
def atomsFrom : AtomPlace → Text → Text → Option (List Text)
  | _, _, [] => none
  | .opening, _, c :: rest => if c = '\'' then atomsFrom .inside [] rest else none
  | .inside, atom, c :: rest =>
    if c = '\'' then atomsFrom .closing atom rest else atomsFrom .inside (atom ++ [c]) rest
  | .closing, atom, c :: rest =>
    -- Two quotes next to each other stand for one in the atom.
    if c = '\'' then atomsFrom .inside (atom ++ ['\'']) rest
    else if c = ',' then (atomsFrom .opening [] rest).map (atom :: ·)
    else if c = ']' ∧ rest = ['.'] then some [atom]
    else none

/-- Read a goal that is a list of quoted atoms. -/
def atomsOfGoal? : Text → Option (List Text)
  | '[' :: rest => if rest = "].".toList then some [] else atomsFrom .opening [] rest
  | _ => none

example : atomsOfGoal? "['o''brien.pl','','].'].".toList = some ["o'brien.pl".toList, [], "].".toList] := by decide

example : atomsOfGoal? "['o'brien.pl'].".toList = none := by decide

/-- The characters of an atom as they stand between its quotes: a quote among them is written twice. -/
def quotesDoubled (atom : Text) : Text :=
  atom.flatMap fun c => if c = '\'' then ['\'', '\''] else [c]

/-- An atom between quotes. -/
def quotedAtom (atom : Text) : Text :=
  '\'' :: quotesDoubled atom ++ ['\'']

/-- A list of atoms as it is written as a goal. -/
def goalOfAtoms (atoms : List Text) : Text :=
  '[' :: [','].intercalate (atoms.map quotedAtom) ++ "].".toList

/-- What follows the first atom of a goal: the others, with a comma in front of each, and the end. -/
def furtherAtoms (others : List Text) : Text :=
  others.flatMap (fun atom => ',' :: quotedAtom atom) ++ "].".toList

/-- The first atom of a goal has no comma in front of it. -/
theorem goalOfAtoms_cons (first : Text) (others : List Text) :
    goalOfAtoms (first :: others) = '[' :: quotedAtom first ++ furtherAtoms others := by
  -- A comma between two atoms is a comma in front of the second.
  induction others generalizing first with
  | nil => simp [goalOfAtoms, furtherAtoms]
  | cons second others ih =>
    have later := ih second
    simp only [goalOfAtoms, List.cons_append, List.cons.injEq, true_and, List.map_cons] at later
    rw [goalOfAtoms, List.map_cons, List.map_cons, List.intercalate_cons_cons, List.cons_append, List.append_assoc,
      List.append_assoc, later]
    simp [furtherAtoms]

/-- What stands between the quotes of an atom is read as the atom, up to the quote that ends it. -/
theorem atomsFrom_quotesDoubled (atom begun rest : Text) :
    atomsFrom .inside begun (quotesDoubled atom ++ '\'' :: rest) = atomsFrom .closing (begun ++ atom) rest := by
  -- The atom that has begun grows by a character at a time.
  induction atom generalizing begun with
  | nil => simp [quotesDoubled, atomsFrom]
  | cons c atom ih =>
    rw [quotesDoubled, List.flatMap_cons, ← quotesDoubled]
    by_cases quote : c = '\''
    · -- The first of the two quotes seems to end the atom, and the second one goes on with it.
      simp [quote, atomsFrom, ih]
    · simp [quote, atomsFrom, ih]

/-- Quoted atoms with commas between them are read to the end of the goal. -/
theorem atomsFrom_quotedAtom (first : Text) (others : List Text) :
    atomsFrom .opening [] (quotedAtom first ++ furtherAtoms others) = some (first :: others) := by
  -- Behind the quote that ends an atom there is a comma if another one follows, and the end of the goal if not.
  have opened (atom rest : Text) :
      atomsFrom .opening [] (quotedAtom atom ++ rest) = atomsFrom .closing atom rest := by
    rw [quotedAtom, List.append_assoc, List.cons_append, List.singleton_append, atomsFrom, if_pos rfl,
      atomsFrom_quotesDoubled, List.nil_append]
  induction others generalizing first with
  | nil =>
    rw [opened]
    rfl
  | cons second others ih =>
    have later : furtherAtoms (second :: others) = ',' :: (quotedAtom second ++ furtherAtoms others) := by
      simp [furtherAtoms]
    rw [opened, later, atomsFrom, if_neg (by decide), if_pos rfl, ih second]
    rfl

/-- What is left of a goal inside an atom that has begun: the rest of the atom, and the atoms behind it. -/
def LeftInside (begun text : Text) (atoms : List Text) : Prop :=
  ∃ more others, atoms = (begun ++ more) :: others ∧ text = quotesDoubled more ++ '\'' :: furtherAtoms others

/-- What is left of a goal where its reader is. -/
def AtomPlace.Left : AtomPlace → Text → Text → List Text → Prop
  | .opening, _, text, atoms =>
    ∃ first others, atoms = first :: others ∧ text = quotedAtom first ++ furtherAtoms others
  | .inside, begun, text, atoms => LeftInside begun text atoms
  | .closing, begun, text, atoms =>
    -- The quote in front may be the one that ends the atom, or the first of two that stand for one.
    LeftInside begun ('\'' :: text) atoms

/-- Only atoms as they are written are read to the end of a goal. -/
theorem left_of_atomsFrom {place : AtomPlace} {begun text : Text} {atoms : List Text}
    (read : atomsFrom place begun text = some atoms) : place.Left begun text atoms := by
  -- A character that was read is put back in front of what is left after it.
  fun_induction atomsFrom place begun text generalizing atoms with
  | case1 => contradiction
  | case2 begun rest opened =>
    obtain ⟨more, others, rfl, rfl⟩ := opened read
    exact ⟨more, others, rfl, by simp [quotedAtom]⟩
  | case3 => contradiction
  -- What is left behind a quote is said with that quote in front.
  | case4 begun rest closed => exact closed read
  | case5 begun c rest other inside =>
    obtain ⟨more, others, rfl, rfl⟩ := inside read
    exact ⟨c :: more, others, by simp, by simp [quotesDoubled, other]⟩
  | case6 begun rest inside =>
    -- Of two quotes both are put back, and one is in the atom.
    obtain ⟨more, others, rfl, rfl⟩ := inside read
    exact ⟨'\'' :: more, others, by simp, by simp [quotesDoubled]⟩
  | case7 begun rest _ opening =>
    -- Behind the comma other atoms follow.
    obtain ⟨later, found, rfl⟩ := Option.map_eq_some_iff.mp read
    obtain ⟨first, others, rfl, rfl⟩ := opening found
    exact ⟨[], first :: others, by simp, by simp [quotesDoubled, furtherAtoms]⟩
  | case8 begun c rest _ _ ends =>
    obtain ⟨rfl, rfl⟩ := ends
    cases read
    exact ⟨[], [], by simp, rfl⟩
  | case9 => contradiction

/-- A goal is read as atoms exactly if it is written as them. -/
theorem atomsOfGoal?_eq_some_iff {goal : Text} {atoms : List Text} :
    atomsOfGoal? goal = some atoms ↔ goal = goalOfAtoms atoms := by
  constructor
  · intro read
    unfold atomsOfGoal? at read
    -- Only what begins with a bracket is read; without atoms it ends right behind that.
    split at read
    · split at read
      · next ends =>
        cases read
        rw [ends]
        rfl
      · obtain ⟨first, others, rfl, rfl⟩ := left_of_atomsFrom read
        rw [goalOfAtoms_cons]
        rfl
    · contradiction
  · rintro rfl
    cases atoms with
    | nil => rfl
    | cons first others =>
      -- The end of a goal alone is no list of atoms, so that it is not what follows the bracket.
      have read := atomsFrom_quotedAtom first others
      rw [goalOfAtoms_cons, List.cons_append, atomsOfGoal?, if_neg, read]
      intro ends
      rw [ends] at read
      contradiction

/-- Different lists of atoms are written as different goals. -/
theorem goalOfAtoms_inj {atoms others : List Text} : goalOfAtoms atoms = goalOfAtoms others ↔ atoms = others := by
  -- Both are read from the same goal.
  rw [← atomsOfGoal?_eq_some_iff, atomsOfGoal?_eq_some_iff.mpr rfl, Option.some_inj]

/-- A path with slashes in place of its backslashes. -/
def slashed (path : Text) : Text :=
  path.map fun c => if c = '\\' then '/' else c

/-- No backslash is left. -/
theorem backslash_not_mem_slashed (path : Text) : '\\' ∉ slashed path := by
  intro member
  -- It would stand for itself or for a slash.
  obtain ⟨c, -, same⟩ := List.mem_map.mp member
  split at same
  · contradiction
  · contradiction

/-- A path without backslashes keeps its spelling, and no other path does. -/
theorem slashed_eq_self_iff {path : Text} : slashed path = path ↔ '\\' ∉ path := by
  constructor
  · intro kept
    exact kept ▸ backslash_not_mem_slashed path
  · intro absent
    -- Every character stands for itself.
    have kept : ∀ c ∈ path, (if c = '\\' then '/' else c) = id c := by
      intro c member
      have other : c ≠ '\\' := fun same => absent (same ▸ member)
      exact if_neg other
    rw [slashed, List.map_congr_left kept, List.map_id]

/-- Slashes are put in place of backslashes only once. -/
@[simp] theorem slashed_slashed (path : Text) : slashed (slashed path) = slashed path :=
  slashed_eq_self_iff.mpr (backslash_not_mem_slashed path)

/-- The body of an atom is the name it is written for, with slashes and with its quotes doubled. -/
theorem atomBody_eq (name : Text) : atomBody name = quotesDoubled (slashed name) := by
  -- No character is both a backslash and a quote, so that it does not matter which is looked for first.
  induction name with
  | nil => rfl
  | cons c name ih =>
    by_cases backslash : c = '\\'
    · simp [atomBody, quotesDoubled, slashed, backslash, ih]
    by_cases quote : c = '\''
    · simp [atomBody, quotesDoubled, slashed, quote, ih]
    · simp [atomBody, quotesDoubled, slashed, backslash, quote, ih]

/-- A goal that consults files is written as the list of their names, with slashes. -/
theorem consultationGoal_eq (files : List Text) : consultationGoal files = goalOfAtoms (files.map slashed) := by
  -- It is enough to compare the atoms one by one.
  have atoms : fileAtom = quotedAtom ∘ slashed := by
    funext name
    rw [fileAtom, atomBody_eq]
    rfl
  rw [consultationGoal, goalOfAtoms, List.map_map, atoms]

/-- A goal is read as the files that it was written for, with slashes. -/
theorem atomsOfGoal?_consultationGoal (files : List Text) :
    atomsOfGoal? (consultationGoal files) = some (files.map slashed) :=
  atomsOfGoal?_eq_some_iff.mpr (consultationGoal_eq files)

/-- A quoted file name holds no backslash. -/
theorem backslash_not_mem_fileAtom (name : Text) : '\\' ∉ fileAtom name := by
  -- It holds the characters of the name with slashes, and quotes.
  have body : '\\' ∉ quotesDoubled (slashed name) := by
    intro member
    obtain ⟨c, inside, same⟩ := List.mem_flatMap.mp member
    split at same
    · simp at same
    · rw [← List.mem_singleton.mp same] at inside
      exact backslash_not_mem_slashed name inside
  simp [fileAtom, atomBody_eq, body]

/-- A goal holds no backslash, so that none of its characters is an escape. -/
theorem backslash_not_mem_consultationGoal (files : List Text) : '\\' ∉ consultationGoal files := by
  have between : '\\' ∉ [','].intercalate (files.map fileAtom) := by
    intro member
    -- It would be in a comma or in one of the names.
    rcases mem_intercalate member with separator | ⟨atom, among, inside⟩
    · simp at separator
    · obtain ⟨name, -, rfl⟩ := List.mem_map.mp among
      exact backslash_not_mem_fileAtom name inside
  simp [consultationGoal, between]

/-- A goal that consults files holds no backslash, and it is read to its end as their names, with slashes in place of
backslashes. It is written as no other list of atoms, whatever quotes the names hold, so that the goals of two lists of
files are the same exactly if the names are, one by one and up to that. -/
theorem consultationGoal_lists_files (files : List Text) :
    '\\' ∉ consultationGoal files ∧
    atomsOfGoal? (consultationGoal files) = some (files.map slashed) ∧
    (∀ atoms, consultationGoal files = goalOfAtoms atoms ↔ atoms = files.map slashed) ∧
    ∀ others, consultationGoal files = consultationGoal others ↔
      List.Forall₂ (fun file other => slashed file = slashed other) files others := by
  refine ⟨backslash_not_mem_consultationGoal files, atomsOfGoal?_consultationGoal files, ?_, ?_⟩
  · intro atoms
    rw [consultationGoal_eq, goalOfAtoms_inj, eq_comm]
  · intro others
    -- The goals are the same exactly if the lists of slashed names are, and these are compared one by one.
    rw [consultationGoal_eq, consultationGoal_eq, goalOfAtoms_inj, ← List.forall₂_eq_eq_eq]
    rw [List.forall₂_map_left_iff, List.forall₂_map_right_iff]

example : consultationGoal ["'].halt.".toList, []] = "['''].halt.',''].".toList := by decide

/-- Whether two paths name one file: on Windows a slash and a backslash are the same separator. -/
def Platform.SamePath : Platform → Text → Text → Prop
  | .unix, first, second => first = second
  | .windows, first, second => slashed first = slashed second

/-- Slashes in place of backslashes name the same file on Windows, and on Unix only where there is no backslash. -/
theorem Platform.samePath_slashed_iff (platform : Platform) (path : Text) :
    platform.SamePath (slashed path) path ↔ (platform = .unix → '\\' ∉ path) := by
  cases platform with
  | unix => simp [SamePath, slashed_eq_self_iff]
  | windows => simp [SamePath]

/-- What a file in a directory is called brings no backslash that the directory has not. -/
theorem backslash_mem_joinPath_iff {file : Text} (plain : '\\' ∉ file) (directory : Text) :
    '\\' ∈ joinPath directory file ↔ '\\' ∈ directory := by
  rw [joinPath]
  -- A slash is put between the two unless the directory ends in one or has no name.
  split
  case h_1 empty => simp [List.getLast?_eq_none_iff.mp empty, plain]
  case h_2 => split <;> simp [plain]

/-- The name of no component holds a backslash. -/
theorem Component.backslash_not_mem_fileName (component : Component) (platform : Platform) :
    '\\' ∉ component.fileName platform := by
  cases component <;> cases platform <;> decide

/-- The path of a component holds a backslash just if the directory does. -/
theorem Installation.backslash_mem_path_iff (installation : Installation) (component : Component) :
    '\\' ∈ installation.path component ↔ '\\' ∈ installation.base :=
  backslash_mem_joinPath_iff (component.backslash_not_mem_fileName installation.platform) installation.base

namespace Workbench

/-- Every pipeline that computes a datastore writes to the path of the datastore. -/
theorem output_of_datastorePipeline {workbench : Workbench} {hasEntry : Text → Bool} {solver program : Text}
    {pipeline : Pipeline} (built : workbench.datastorePipeline hasEntry solver program = .ok pipeline) :
    pipeline.output = some (workbench.installation.path .datastore) := by
  rw [datastorePipeline] at built
  -- The output does not depend on what the stages of the solver are.
  cases stages : solverStages hasEntry solver program with
  | error failure => rw [stages] at built; cases built
  | ok known => rw [stages] at built; cases built; rfl

/-- An interpreter is given the path that the pipeline writes, and that of the queries, with slashes in place of
backslashes. That is the same file on Windows, and on Unix just if no backslash is in the name of the directory. -/
theorem interpreter_consults_written_file_iff (workbench : Workbench) (known : Interpreter) :
    ∃ goal datastore queries,
      workbench.interpreterStage known.name =
        .ok ⟨known.program workbench.installation.platform, [known.goalOption, goal]⟩ ∧
      '\\' ∉ goal ∧ atomsOfGoal? goal = some [datastore, queries] ∧
      (∀ hasEntry solver program pipeline, workbench.datastorePipeline hasEntry solver program = .ok pipeline →
        ∃ output, pipeline.output = some output ∧ datastore = slashed output ∧
          (workbench.installation.platform.SamePath datastore output ↔
            (workbench.installation.platform = .unix → '\\' ∉ workbench.installation.base))) ∧
      queries = slashed (workbench.installation.path .queries) ∧
      (workbench.installation.platform.SamePath queries (workbench.installation.path .queries) ↔
        (workbench.installation.platform = .unix → '\\' ∉ workbench.installation.base)) := by
  refine ⟨_, slashed (workbench.installation.path .datastore), slashed (workbench.installation.path .queries), ?_,
    backslash_not_mem_consultationGoal _, atomsOfGoal?_consultationGoal [_, _], ?_, rfl, ?_⟩
  · -- The name is that of the interpreter, which is found by it.
    simp only [interpreterStage, Interpreter.ofName?_eq_some_iff.mpr rfl]
    rfl
  · -- Whatever the solver is, the pipeline writes to the path of the datastore.
    intro hasEntry solver program pipeline built
    refine ⟨_, output_of_datastorePipeline built, rfl, ?_⟩
    rw [Platform.samePath_slashed_iff, Installation.backslash_mem_path_iff]
  · rw [Platform.samePath_slashed_iff, Installation.backslash_mem_path_iff]

/-- A workbench on Unix in a directory whose name holds a backslash. -/
def backslashed : Workbench := ⟨⟨"a\\b".toList, .unix⟩, .none⟩

/-- Where the name of the directory holds a backslash, another file is consulted on Unix than the one that is written. -/
theorem backslash_in_base_misleads_interpreter :
    ∃ goal pipeline,
      backslashed.interpreterStage "swi".toList = .ok ⟨"swipl".toList, ["-g".toList, goal]⟩ ∧
      backslashed.datastorePipeline (fun _ => true) "dlv".toList "p".toList = .ok pipeline ∧
      ¬ ∃ output queries, pipeline.output = some output ∧ atomsOfGoal? goal = some [output, queries] := by
  refine ⟨"['a/b/qsystem_data.pl','a/b/general_queries.pl'].".toList, _, rfl, rfl, ?_⟩
  rintro ⟨output, queries, written, read⟩
  -- The goal begins with the path of a file in a directory below another one.
  have consulted : atomsOfGoal? "['a/b/qsystem_data.pl','a/b/general_queries.pl'].".toList =
      some ["a/b/qsystem_data.pl".toList, "a/b/general_queries.pl".toList] := by decide
  rw [consulted] at read
  cases written
  cases read

end Workbench

end AnswerQuery
