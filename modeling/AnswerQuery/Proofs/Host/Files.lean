import AnswerQuery.Host.Files
import AnswerQuery.Proofs.Text.Words

/-! Where paths lead: a file that is opened to be written anew is found empty at its path. -/

namespace AnswerQuery.Host.Files

/-- A change of a node is seen at its number, and nowhere else. -/
theorem node?_modify (files : Files) (number other : Nat) (change : Node → Node) :
    (files.modify number change).node? other =
      if number = other then (files.node? other).map change else files.node? other := by
  simp only [modify, node?, Array.getElem?_modify]

/-- A node that is added has the next number; the others stay as they are. -/
theorem node?_allocate (files : Files) (node : Node) (other : Nat) :
    (files.allocate node).2.node? other =
      if other = files.nodes.size then
        some { node with changed := files.now, accessed := files.now, altered := files.now }
      else files.node? other := by
  simp only [allocate, node?, Array.getElem?_push]

/-- There is no node behind the last one. -/
theorem node?_size (files : Files) : files.node? files.nodes.size = none := by
  simp [node?]

section Walking

/-- The path that a node stands for, if it is a link. -/
def link? (files : Files) (number : Nat) : Option Raw :=
  match (files.node? number).map Node.content with
  | some (.link target) => some target
  | _ => none

/-- Where a name leads in a directory: the node, if there is one of that name, and the path that it stands for if it is a
link. -/
def onward (files : Files) (here : Nat) (name : Raw) : Except OsError (Option (Nat × Option Raw)) :=
  match files.node? here with
  | none => .error .noEntry
  | some node =>
    match node.content with
    | .directory children parent =>
      if !node.allows .execute then .error .noAccess
      else if longestName < name.length then .error .nameTooLong
      else
        let found := if name == ['.'] then some here
          else if name == ['.', '.'] then some parent
          else children.lookup name
        .ok (found.map fun number => (number, files.link? number))
    | _ => .error .notDirectory

/-- In a directory that may be searched, a name of its kind leads to what has it. -/
theorem onward_of_directory {files : Files} {here : Nat} {node : Node} {children : List (Raw × Nat)} {parent : Nat}
    (found : files.node? here = some node) (content : node.content = .directory children parent) (name : Raw) :
    files.onward here name =
      if !node.allows .execute then .error .noAccess
      else if longestName < name.length then .error .nameTooLong
      else
        .ok ((if name == ['.'] then some here
          else if name == ['.', '.'] then some parent
          else children.lookup name).map fun number => (number, files.link? number)) := by
  simp only [onward, found, content]

/-- A path is walked name by name. -/
theorem walk_cons (files : Files) (follow : Bool) (steps links here : Nat) (name : Raw) (rest : List Raw) :
    files.walk follow (steps + 1) links here (name :: rest) =
      match files.onward here name with
      | .error reason => .error reason
      | .ok none => if rest.isEmpty then .ok ⟨here, name, none⟩ else .error .noEntry
      | .ok (some (number, some target)) =>
        if rest.isEmpty && !follow then .ok ⟨here, name, some number⟩
        else if links = 0 then .error .tooManyLinks
        else
          files.walk follow steps (links - 1) (if target.head? == some '/' then 0 else here) (names target ++ rest)
      | .ok (some (number, none)) =>
        if rest.isEmpty then .ok ⟨here, name, some number⟩ else files.walk follow steps links number rest := by
  rw [walk, onward]
  -- What comes before the name is looked up is the same in both.
  cases files.node? here with
  | none => rfl
  | some node =>
    cases content : node.content with
    | directory children parent =>
      simp only [content]
      split
      · rfl
      split
      · rfl
      generalize (if name == ['.'] then some here
        else if name == ['.', '.'] then some parent
        else children.lookup name) = found
      cases found with
      | none => rfl
      | some number =>
        -- It counts whether the node is a link.
        simp only [link?, Option.map_some]
        rcases (files.node? number).map Node.content with _ | _ | _ | _ | _ | _ | _ <;> rfl
    | _ => simp only [content]

/-- If every name leads on to the same in other files, every path does. -/
theorem walk_congr {files other : Files} (same : ∀ here name, other.onward here name = files.onward here name)
    (follow : Bool) (steps links here : Nat) (names : List Raw) :
    other.walk follow steps links here names = files.walk follow steps links here names := by
  -- A walk asks for nothing but where names lead.
  induction steps generalizing links here names with
  | zero => rfl
  | succ steps ih =>
    cases names with
    | nil => rfl
    | cons name rest => simp only [walk_cons, same, ih]

/-- A name that is missing at the end of a path leads nowhere in the directory that was reached. -/
theorem onward_of_walk {files : Files} {follow : Bool} {steps links here directory : Nat} {names : List Raw}
    {name : Raw} (missing : files.walk follow steps links here names = .ok ⟨directory, name, none⟩) :
    files.onward directory name = .ok none := by
  induction steps generalizing links here names with
  | zero => cases missing
  | succ steps ih =>
    cases names with
    | nil => cases missing
    | cons first rest =>
      rw [walk_cons] at missing
      split at missing
      · cases missing
      case h_2 ends =>
        -- Here the path ends, or it would be in vain.
        split at missing <;> cases missing
        exact ends
      · split at missing
        · cases missing
        split at missing
        · cases missing
        exact ih missing
      · split at missing
        · cases missing
        exact ih missing

/-- If a name that was missing has come to lead to a node that is no link, and nothing else has changed, a path that was
missing its last name leads to that node. -/
theorem walk_of_entered {files other : Files} {directory number : Nat} {name : Raw}
    (entered : other.onward directory name = .ok (some (number, none)))
    (kept : ∀ here found leads, (here, found) ≠ (directory, name) → files.onward here found = .ok leads →
      other.onward here found = .ok leads)
    {follow : Bool} {steps links here : Nat} {names : List Raw}
    (missing : files.walk follow steps links here names = .ok ⟨directory, name, none⟩) :
    other.walk follow steps links here names = .ok ⟨directory, name, some number⟩ := by
  have nowhere := onward_of_walk missing
  -- Up to its last name the path leads on as it did before.
  induction steps generalizing links here names with
  | zero => cases missing
  | succ steps ih =>
    cases names with
    | nil => cases missing
    | cons first rest =>
      rw [walk_cons] at missing ⊢
      cases leads : files.onward here first with
      | error reason =>
        rw [leads] at missing
        cases missing
      | ok found =>
        rw [leads] at missing
        cases found with
        | none =>
          -- Here the path ends, and it ends with the name that was entered.
          simp only at missing
          split at missing
          case isTrue last =>
            cases missing
            simp [entered, last]
          case isFalse => cases missing
        | some pair =>
          obtain ⟨met, target⟩ := pair
          -- The name that was entered was missing, so that this one is another.
          have different : (here, first) ≠ (directory, name) := by
            intro same
            cases same
            simp [nowhere] at leads
          rw [kept here first _ different leads]
          cases target with
          | none =>
            -- The path goes on from the node itself.
            simp only at missing ⊢
            split at missing
            · cases missing
            case isFalse further =>
              rw [if_neg further]
              exact ih missing
          | some target =>
            -- The path goes on with what the link stands for.
            simp only at missing ⊢
            split at missing
            · cases missing
            case isFalse followed =>
              split at missing
              · cases missing
              case isFalse enough =>
                rw [if_neg followed, if_neg enough]
                exact ih missing

end Walking

section Changing

variable {files : Files}

/-- Whether a node is a file. -/
def IsFile (files : Files) (number : Nat) : Prop :=
  ∃ octets, (files.node? number).map Node.content = some (.file octets)

/-- What has its octets replaced is a file, and the other nodes stay as they are. -/
theorem node?_setOctets (number other : Nat) (octets : ByteArray) :
    (files.setOctets number octets).node? other =
      if number = other then
        (files.node? other).map fun node =>
          { node with content := .file octets, changed := files.now, altered := files.now }
      else files.node? other := by
  rw [setOctets, node?_modify]

/-- If the octets of a file are replaced, it stays a file: every name leads on to the same. -/
theorem onward_setOctets {number : Nat} (file : files.IsFile number) (octets : ByteArray) (here : Nat) (name : Raw) :
    (files.setOctets number octets).onward here name = files.onward here name := by
  obtain ⟨old, content⟩ := file
  obtain ⟨node, found, kind⟩ := Option.map_eq_some_iff.mp content
  -- A file is no link, before and after.
  have link (other : Nat) : (files.setOctets number octets).link? other = files.link? other := by
    by_cases same : number = other
    · simp [link?, node?_setOctets, ← same, found, kind]
    · simp [link?, node?_setOctets, same]
  -- Nor does a name lead on from it.
  by_cases same : number = here
  · simp [onward, node?_setOctets, ← same, found, kind]
  · simp [onward, node?_setOctets, same, link]

/-- A name leads nowhere only in a directory in which it could be found. -/
theorem directory_of_onward {directory : Nat} {name : Raw} (missing : files.onward directory name = .ok none) :
    ∃ node children parent, files.node? directory = some node ∧ node.content = .directory children parent ∧
      node.allows .execute = true ∧ ¬ longestName < name.length ∧ name ≠ ['.'] ∧ name ≠ ['.', '.'] ∧
      children.lookup name = none := by
  rw [onward] at missing
  -- Any other answer than a missing name is an error.
  split at missing
  · cases missing
  case h_2 node found =>
    split at missing
    case h_1 children parent content =>
      split at missing
      · cases missing
      split at missing
      · cases missing
      case isFalse allowed short =>
        simp only [Except.ok.injEq, Option.map_eq_none_iff] at missing
        split at missing
        · cases missing
        split at missing
        · cases missing
        exact ⟨node, children, parent, found, content, by simpa using allowed, short, by simp_all, by simp_all, missing⟩
    · cases missing

/-- A name that is entered in a directory changes the names in it; the other nodes stay as they are. -/
theorem node?_enter {directory : Nat} {node : Node} {children : List (Raw × Nat)} {parent : Nat}
    (found : files.node? directory = some node) (content : node.content = .directory children parent) (name : Raw)
    (number : Nat) :
    ∃ changed : Node,
      changed.content = .directory ((children.filter fun child => child.1 != name) ++ [(name, number)]) parent ∧
      (∀ use, changed.allows use = node.allows use) ∧
      ∀ other, (files.enter directory name number).node? other =
        if directory = other then some changed else files.node? other := by
  refine ⟨{ node with content := _, changed := files.now, altered := files.now }, rfl, fun _ => rfl, fun other => ?_⟩
  rw [enter, node?_modify]
  by_cases same : directory = other
  · simp [← same, found, content]
  · simp [same]

/-- Of the names in a directory, one that is entered leads to its node, and the others lead to what they led to. -/
theorem lookup_entered (children : List (Raw × Nat)) (name other : Raw) (number : Nat) :
    ((children.filter fun child => child.1 != name) ++ [(name, number)]).lookup other =
      if other = name then some number else children.lookup other := by
  by_cases same : other = name
  · -- No child of that name is left in front of it.
    subst same
    rw [if_pos rfl]
    induction children with
    | nil => simp
    | cons child children ih =>
      obtain ⟨key, child⟩ := child
      by_cases dropped : key = other
      · simpa [dropped] using ih
      · have missed : (other == key) = false := beq_eq_false_iff_ne.mpr (Ne.symm dropped)
        simpa [dropped, List.lookup_cons, missed] using ih
  · have missed : (other == name) = false := beq_eq_false_iff_ne.mpr same
    rw [if_neg same]
    induction children with
    | nil => simp [List.lookup_cons, missed]
    | cons child children ih =>
      obtain ⟨key, child⟩ := child
      by_cases dropped : key = name
      · simpa [dropped, List.lookup_cons, missed] using ih
      · simp [dropped, List.lookup_cons, ih]

/-- A file that is made under a name that was missing is found under it, and nothing else leads elsewhere. -/
theorem onward_made {directory : Nat} {name : Raw} {node : Node} {octets : ByteArray}
    (missing : files.onward directory name = .ok none) (file : node.content = .file octets) :
    ((files.allocate node).2.enter directory name files.nodes.size).onward directory name =
        .ok (some (files.nodes.size, none)) ∧
      ∀ here found leads, (here, found) ≠ (directory, name) → files.onward here found = .ok leads →
        ((files.allocate node).2.enter directory name files.nodes.size).onward here found = .ok leads := by
  obtain ⟨place, children, parent, found, content, allowed, short, notHere, notAbove, -⟩ := directory_of_onward missing
  have older {other : Nat} {old : Node} (there : files.node? other = some old) : other ≠ files.nodes.size := by
    rintro rfl
    rw [node?_size] at there
    cases there
  have placed : (files.allocate node).2.node? directory = some place := by
    rw [node?_allocate, if_neg (older found), found]
  obtain ⟨changed, names, allows, seen⟩ := node?_enter placed content name files.nodes.size
  -- Neither the new file nor the directory is a link, and the other nodes are the same.
  have link (other : Nat) :
      ((files.allocate node).2.enter directory name files.nodes.size).link? other = files.link? other := by
    rw [link?, seen other, node?_allocate]
    by_cases same : directory = other
    · simp [link?, ← same, found, content, names]
    · by_cases new : other = files.nodes.size
      · subst new
        simp [link?, same, node?_size, file]
      · simp [link?, same, new]
  have last : files.link? files.nodes.size = none := by simp [link?, node?_size]
  constructor
  · rw [onward_of_directory (by rw [seen, if_pos rfl]) names, lookup_entered]
    simp [allows, allowed, short, notHere, notAbove, link, last]
  · intro here other leads different before
    by_cases same : directory = here
    · -- In the directory, only another name is looked for.
      subst same
      have another : other ≠ name := fun same => different (by rw [same])
      rw [onward_of_directory found content] at before
      rw [onward_of_directory (by rw [seen, if_pos rfl]) names, lookup_entered, if_neg another]
      simpa only [allows, link] using before
    · -- Any other node that a name leads on from was there before.
      cases there : files.node? here with
      | none => simp [onward, there] at before
      | some old =>
        simpa only [onward, seen, if_neg same, node?_allocate, if_neg (older there), link] using before

end Changing

section Opening

variable {files : Files}

/-- Where a path can be located, it is located by a walk, in any files by the same. -/
theorem exists_locate_eq_walk {working : Nat} {path : Raw} {follow : Bool} {spot : Spot}
    (located : files.locate working path follow = .ok spot) :
    ∃ here names, ∀ other : Files,
      other.locate working path follow = other.walk follow mostSteps mostLinks here names := by
  simp only [locate] at located ⊢
  -- What is asked of the path itself does not depend on the files.
  split at located
  · cases located
  split at located
  · cases located
  split at located
  · cases located
  case isFalse named given short =>
    simp only [if_neg named, if_neg given, if_neg short]
    exact ⟨_, _, fun _ => rfl⟩

/-- Where a path leads at which something may be made is where it leads anyway. -/
theorem locate_of_locateNew {working : Nat} {path : Raw} {follow : Bool} {spot : Spot}
    (located : files.locateNew working path follow = .ok spot) : files.locate working path follow = .ok spot := by
  simp only [locateNew] at located
  -- Nothing but slashes is no name for a file.
  split at located
  · cases located
  cases found : files.locate working (dropTrailing (· == '/') path) follow with
  | error reason =>
    rw [found] at located
    cases located
  | ok reached =>
    simp only [found, bind, Except.bind] at located
    split at located
    · cases located
    case isFalse bare =>
      -- Without a slash at its end, the path is taken as it is.
      have whole : dropTrailing (· == '/') path = path := by
        refine dropTrailing_of_getLast? fun last ends => ?_
        simpa [endsWithSlash, Option.mem_def.mp ends] using bare
      cases located
      rw [← whole, found]

/-- What is found at a path is the node that the path leads to. -/
theorem inspect_of_locate {working number : Nat} {path : Raw} {directory : Nat} {name : Raw} {node : Node}
    (located : files.locate working path true = .ok ⟨directory, name, some number⟩)
    (found : files.node? number = some node) : files.inspect working path true = .ok (number, node) := by
  simp [inspect, located, found, bind, Except.bind, pure, Except.pure]

/-- What is found at a path is a node that there is. -/
theorem node?_of_inspect {working number : Nat} {path : Raw} {follow : Bool} {node : Node}
    (inspected : files.inspect working path follow = .ok (number, node)) : files.node? number = some node := by
  simp only [inspect, bind, Except.bind] at inspected
  -- The path must lead somewhere, and there must be a node there.
  split at inspected
  · cases inspected
  split at inspected
  case h_1 spot _ _ found leads =>
    cases inspected
    obtain ⟨reached, -, leads⟩ := Option.bind_eq_some_iff.mp leads
    obtain ⟨there, found, same⟩ := Option.map_eq_some_iff.mp leads
    cases same
    exact found
  · cases inspected

/-- A file that is made where a path leads nowhere is found at the path. -/
theorem inspect_of_made {working number : Nat} {path : Raw} {directory : Nat} {name : Raw} {node : Node}
    {octets : ByteArray} {after : Files} (located : files.locate working path true = .ok ⟨directory, name, none⟩)
    (file : node.content = .file octets) (made : files.create directory name node = .ok (number, after)) :
    ∃ found, after.inspect working path true = .ok (number, found) ∧ found.content = .file octets := by
  simp only [create, bind, Except.bind] at made
  split at made
  · cases made
  cases made
  -- The path was missing its last name, under which the file is found now.
  obtain ⟨here, names, walked⟩ := exists_locate_eq_walk located
  rw [walked] at located
  have missing : files.onward directory name = .ok none := onward_of_walk located
  obtain ⟨entered, kept⟩ := onward_made missing file
  obtain ⟨place, children, parent, found, content, -⟩ := directory_of_onward missing
  have old : directory ≠ files.nodes.size := by
    rintro rfl
    simp [node?_size] at found
  have placed : (files.allocate node).2.node? directory = some place := by
    rw [node?_allocate, if_neg old, found]
  obtain ⟨_, -, -, seen⟩ := node?_enter placed content name files.nodes.size
  have there : ((files.allocate node).2.enter directory name files.nodes.size).node? files.nodes.size =
      some { node with changed := files.now, accessed := files.now, altered := files.now } := by
    rw [seen, if_neg old, node?_allocate, if_pos rfl]
  have leads : ((files.allocate node).2.enter directory name files.nodes.size).locate working path true =
      .ok ⟨directory, name, some files.nodes.size⟩ := by
    rw [walked]
    exact walk_of_entered entered kept located
  exact ⟨_, inspect_of_locate leads there, file⟩

/-- A file whose octets are replaced is found where it was found before. -/
theorem inspect_of_replaced {working number : Nat} {path : Raw} {directory : Nat} {name : Raw} {node : Node}
    {old : ByteArray} (located : files.locate working path true = .ok ⟨directory, name, some number⟩)
    (found : files.node? number = some node) (file : node.content = .file old) (octets : ByteArray) :
    ∃ replaced, (files.setOctets number octets).inspect working path true = .ok (number, replaced) ∧
      replaced.content = .file octets := by
  have isFile : files.IsFile number := ⟨old, by rw [found, Option.map_some, file]⟩
  have there : (files.setOctets number octets).node? number =
      some { node with content := .file octets, changed := files.now, altered := files.now } := by
    rw [node?_setOctets, if_pos rfl, found, Option.map_some]
  -- The path leads where it led before.
  obtain ⟨here, names, walked⟩ := exists_locate_eq_walk located
  have leads : (files.setOctets number octets).locate working path true = .ok ⟨directory, name, some number⟩ := by
    rw [walked, walk_congr (onward_setOctets isFile octets), ← walked, located]
  exact ⟨_, inspect_of_locate leads there, rfl⟩

/-- What is opened to be written anew is found at its path: it is an empty file then, or it is no file and stays what it
was. -/
theorem inspect_openNode {working number : Nat} {path : Raw} {opening : Opening} {after : Files}
    (creates : opening.creates = true) (inclusive : opening.exclusive = false) (empties : opening.empties = true)
    (opens : files.openNode working path opening = .ok (number, after)) :
    ∃ node, after.inspect working path true = .ok (number, node) ∧
      (node.content = .file .empty ∨ (after = files ∧ ∀ octets, node.content ≠ .file octets)) := by
  simp only [openNode, creates, inclusive, empties, if_true, Bool.not_false, bind, Except.bind] at opens
  cases located : files.locateNew working path true with
  | error reason =>
    rw [located] at opens
    cases opens
  | ok spot =>
    obtain ⟨directory, name, node⟩ := spot
    rw [located] at opens
    have located := locate_of_locateNew located
    cases node with
    | none =>
      -- There was nothing, and a file without octets is made.
      obtain ⟨node, inspected, file⟩ := inspect_of_made located rfl opens
      exact ⟨node, inspected, .inl file⟩
    | some there =>
      cases found : files.node? there with
      | none => simp [found] at opens
      | some node =>
        simp only [found, Bool.false_eq_true, if_false] at opens
        split at opens
        · cases opens
        split at opens
        · cases opens
        cases content : node.content with
        | file octets =>
          -- A file that was there is emptied.
          simp only [content, Bool.true_and, if_true] at opens
          cases opens
          obtain ⟨emptied, inspected, file⟩ := inspect_of_replaced located found content .empty
          exact ⟨emptied, inspected, .inl file⟩
        | _ =>
          -- Anything else that was there stays what it was.
          simp only [content, Bool.and_false, Bool.false_eq_true, if_false] at opens
          cases opens
          exact ⟨node, inspect_of_locate located found, .inr ⟨rfl, by simp [content]⟩⟩

end Opening

end AnswerQuery.Host.Files
