import AnswerQuery.Host.Calendar.Civil
import AnswerQuery.System.OsError

/-! Files: nodes that are numbered, some of which are directories that name others. -/

namespace AnswerQuery.Host

/-- A device. -/
inductive Device where
  /-- It swallows what it is given and has nothing to give. -/
  | null
  /-- It has no room for anything. -/
  | full
  /-- It gives zeros for ever. -/
  | zero
  /-- A terminal where there is none. -/
  | terminal
  /-- What a descriptor of the process stands for. -/
  | descriptor (number : Nat)
  deriving DecidableEq, Repr

/-- The two numbers that devices are told apart by. -/
def Device.numbers : Device → Nat × Nat
  | null => (1, 3)
  | zero => (1, 5)
  | full => (1, 7)
  | terminal => (5, 0)
  | descriptor _ => (0, 0)

/-- What a node is. -/
inductive Content where
  | file (octets : ByteArray)
  /-- A directory: the names in it and their nodes, and the directory it is in. -/
  | directory (children : List (Raw × Nat)) (parent : Nat)
  /-- A path in place of which another one is taken. -/
  | link (target : Raw)
  /-- A program that is installed under a name of its own. -/
  | program (name : Raw)
  | device (device : Device)
  /-- A pipe with a name. -/
  | channel (pipe : Nat)

/-- A node. -/
structure Node where
  /-- What it is. -/
  content : Content
  /-- Who may read, write and execute it: three times three bits. -/
  mode : Nat
  /-- Whether it belongs to somebody else. -/
  foreign : Bool := false
  /-- When its contents were changed. -/
  changed : Calendar.Moment := 0
  /-- When it was used. -/
  accessed : Calendar.Moment := 0
  /-- When anything about it was changed. -/
  altered : Calendar.Moment := 0

/-- All nodes; the first one is the root. -/
structure Files where
  /-- The nodes. -/
  nodes : Array Node
  /-- What time it is. -/
  now : Calendar.Moment := 0

/-- Where a path leads: the last directory on the way, the name in it, and the node of that name if there is one. -/
structure Spot where
  /-- The directory. -/
  directory : Nat
  /-- The name in it. -/
  name : Raw
  /-- The node. -/
  node : Option Nat

/-- What is done with a node. -/
inductive Use where
  | read
  | write
  | execute
  deriving DecidableEq, Repr

namespace Use

/-- The bit that allows a use to anybody. -/
def bit : Use → Nat
  | read => 4
  | write => 2
  | execute => 1

end Use

namespace Node

/-- Whether a node may be used. -/
def allows (node : Node) (use : Use) : Bool :=
  node.mode / ((if node.foreign then 1 else 64) * use.bit) % 2 == 1

/-- Whether a node is a directory. -/
def isDirectory (node : Node) : Bool :=
  node.content matches .directory ..

/-- The names in a directory and their nodes. -/
def children (node : Node) : List (Raw × Nat) :=
  match node.content with
  | .directory children _ => children
  | _ => []

end Node

namespace Files

/-- The most octets that the name of a node may have. -/
def longestName : Nat := 255

/-- The most octets that a path may have. -/
def longestPath : Nat := 4095

/-- How many links are followed on the way of a path. -/
def mostLinks : Nat := 40

/-- How many steps the way of a path has at most, with all links on it. -/
def mostSteps : Nat := 500000

/-- Where programs are looked for if nothing is said about that. -/
def usualSearch : Raw := "/bin:/usr/bin".toList

/-- The node of a number. -/
def node? (files : Files) (number : Nat) : Option Node :=
  files.nodes[number]?

/-- Change a node. -/
def modify (files : Files) (number : Nat) (change : Node → Node) : Files :=
  { files with nodes := files.nodes.modify number change }

/-- Add a node. -/
def allocate (files : Files) (node : Node) : Nat × Files :=
  let node := { node with changed := files.now, accessed := files.now, altered := files.now }
  (files.nodes.size, { files with nodes := files.nodes.push node })

/-- The octets of a file. -/
def octets (files : Files) (number : Nat) : ByteArray :=
  match (files.node? number).map Node.content with
  | some (.file octets) => octets
  | _ => .empty

/-- Replace the octets of a file. -/
def setOctets (files : Files) (number : Nat) (octets : ByteArray) : Files :=
  files.modify number fun node =>
    { node with content := .file octets, changed := files.now, altered := files.now }

/-- The names of a path; one that ends with a slash names the node itself as a directory. -/
def names (path : Raw) : List Raw :=
  let given := (Raw.split '/' path).filter (fun name => !name.isEmpty)
  if path.getLast? == some '/' then given ++ [['.']] else given

/-- Go on from a directory by names. Links on the way are followed, and one at the end if wanted. -/
def walk (files : Files) (follow : Bool) : Nat → Nat → Nat → List Raw → Except OsError Spot
  | 0, _, _, _ => .error .tooManyLinks
  | _ + 1, _, here, [] => .ok ⟨here, ['.'], some here⟩
  | steps + 1, links, here, name :: rest =>
    match files.node? here with
    | none => .error .noEntry
    | some node =>
      match node.content with
      | .directory children parent =>
        if !node.allows .execute then .error .noAccess
        else if longestName < name.length then .error .nameTooLong
        else
          let found := if name == ['.'] then some here
            else if name == ['.', '.'] then some parent
            else children.lookup name
          match found with
          | none => if rest.isEmpty then .ok ⟨here, name, none⟩ else .error .noEntry
          | some number =>
            match (files.node? number).map Node.content with
            | some (.link target) =>
              if rest.isEmpty && !follow then .ok ⟨here, name, some number⟩
              else if links = 0 then .error .tooManyLinks
              else
                walk files follow steps (links - 1) (if target.head? == some '/' then 0 else here)
                  (names target ++ rest)
            | _ => if rest.isEmpty then .ok ⟨here, name, some number⟩ else walk files follow steps links number rest
      | _ => .error .notDirectory

/-- Where a path leads from a working directory. -/
def locate (files : Files) (working : Nat) (path : Raw) (follow : Bool) : Except OsError Spot :=
  if path.contains '\x00' then .error .nulInName
  else if path.isEmpty then .error .noEntry
  else if longestPath < path.length then .error .nameTooLong
  else files.walk follow mostSteps mostLinks (if path.head? == some '/' then 0 else working) (names path)

/-- The node that a path leads to. -/
def inspect (files : Files) (working : Nat) (path : Raw) (follow : Bool) : Except OsError (Nat × Node) := do
  let spot ← files.locate working path follow
  match spot.node.bind fun number => (files.node? number).map fun node => (number, node) with
  | some found => pure found
  | none => .error .noEntry

/-- Check that the names in a directory may be changed. -/
def checkChange (files : Files) (directory : Nat) : Except OsError Unit :=
  match files.node? directory with
  | some node => if node.allows .write && node.allows .execute then .ok () else .error .noAccess
  | none => .error .noEntry

/-- Let a name in a directory stand for a node. -/
def enter (files : Files) (directory : Nat) (name : Raw) (number : Nat) : Files :=
  files.modify directory fun node =>
    match node.content with
    | .directory children parent =>
      { node with
        content := .directory ((children.filter fun child => child.1 != name) ++ [(name, number)]) parent
        changed := files.now, altered := files.now }
    | _ => node

/-- Let a name in a directory stand for nothing. -/
def leave (files : Files) (directory : Nat) (name : Raw) : Files :=
  files.modify directory fun node =>
    match node.content with
    | .directory children parent =>
      { node with
        content := .directory (children.filter fun child => child.1 != name) parent
        changed := files.now, altered := files.now }
    | _ => node

/-- Whether a path ends with a slash. -/
def endsWithSlash (path : Raw) : Bool :=
  path.getLast? == some '/'

/-- Make a node under a new name. -/
def create (files : Files) (directory : Nat) (name : Raw) (node : Node) : Except OsError (Nat × Files) := do
  files.checkChange directory
  let (number, files) := files.allocate node
  pure (number, files.enter directory name number)

/-- How a file is opened. -/
structure Opening where
  /-- Whether it is read. -/
  reads : Bool := false
  /-- Whether it is written. -/
  writes : Bool := false
  /-- Whether it is made if it is missing. -/
  creates : Bool := false
  /-- Whether it has to be missing. -/
  exclusive : Bool := false
  /-- Whether it is emptied. -/
  empties : Bool := false
  /-- Whether it is written at its end. -/
  appends : Bool := false
  /-- Who may use it if it is made. -/
  mode : Nat := 0o666
  deriving DecidableEq, Repr

namespace Opening

/-- For reading. -/
def reading : Opening := { reads := true }

/-- For writing, emptied first. -/
def writing : Opening := { writes := true, creates := true, empties := true }

/-- For writing at its end. -/
def appending : Opening := { writes := true, creates := true, appends := true }

/-- For reading and writing. -/
def updating : Opening := { reads := true, writes := true, creates := true }

end Opening

/-- Where a path that may be made leads; a path that ends with a slash cannot be a file. -/
def locateNew (files : Files) (working : Nat) (path : Raw) (follow : Bool) : Except OsError Spot :=
  let bare := dropTrailing (· == '/') path
  if bare.isEmpty && !path.isEmpty then .error .isDirectory
  else do
    let spot ← files.locate working bare follow
    if endsWithSlash path then .error .isDirectory else pure spot

/-- The node that is opened, made or emptied if that is wanted. -/
def openNode (files : Files) (working : Nat) (path : Raw) (opening : Opening) :
    Except OsError (Nat × Files) := do
  let spot ← if opening.creates then files.locateNew working path (!opening.exclusive)
    else files.locate working path true
  match spot.node with
  | none =>
    if opening.creates then files.create spot.directory spot.name { content := .file .empty, mode := opening.mode }
    else .error .noEntry
  | some number =>
    match files.node? number with
    | none => .error .noEntry
    | some node =>
      if opening.exclusive then .error .alreadyThere
      else if opening.writes && node.isDirectory then .error .isDirectory
      else if (opening.reads && !node.allows .read) || (opening.writes && !node.allows .write) then .error .noAccess
      else if opening.empties && node.content matches .file _ then
        pure (number, files.setOctets number .empty)
      else pure (number, files)

/-- Put octets at a path; a file that is there already stays what it is otherwise. -/
def store (files : Files) (working : Nat) (path : Raw) (octets : Bytes) : Except OsError Files := do
  let (number, files) ← files.openNode working path { Opening.writing with mode := 0o644 }
  pure (match (files.node? number).map Node.content with
    | some (.file _) => files.setOctets number ⟨octets.toArray⟩
    | _ => files)

/-- Remove a name; the node of a directory has to stay. -/
def remove (files : Files) (working : Nat) (path : Raw) : Except OsError Files := do
  let spot ← files.locate working path false
  match spot.node.bind files.node? with
  | none => .error .noEntry
  | some node =>
    if node.isDirectory then .error .isDirectory
    else
      files.checkChange spot.directory
      pure (files.leave spot.directory spot.name)

/-- Remove an empty directory. -/
def removeDirectory (files : Files) (working : Nat) (path : Raw) : Except OsError Files := do
  let bare := dropTrailing (· == '/') path
  let spot ← files.locate working (if bare.isEmpty then path else bare) false
  match spot.node.bind files.node? with
  | none => .error .noEntry
  | some node =>
    if !node.isDirectory then .error .notDirectory
    else if spot.name == ['.'] then .error .invalid
    else if spot.name == ['.', '.'] || !node.children.isEmpty then .error .notEmpty
    else
      files.checkChange spot.directory
      pure (files.leave spot.directory spot.name)

/-- Put a new node at a path at which there is nothing. -/
def createAt (files : Files) (working : Nat) (path : Raw) (node : Nat → Node) : Except OsError Files := do
  let bare := dropTrailing (· == '/') path
  let spot ← files.locate working (if bare.isEmpty then path else bare) false
  match spot.node with
  | some _ => .error .alreadyThere
  | none =>
    let (_, files) ← files.create spot.directory spot.name (node spot.directory)
    pure files

/-- Make a directory. -/
def makeDirectory (files : Files) (working : Nat) (path : Raw) (mode : Nat) : Except OsError Files :=
  files.createAt working path fun parent => { content := .directory [] parent, mode }

/-- Make a link to a path. -/
def makeLink (files : Files) (working : Nat) (target path : Raw) : Except OsError Files :=
  if target.isEmpty then .error .noEntry
  else files.createAt working path fun _ => { content := .link target, mode := 0o777 }

/-- Give a node a second name. -/
def makeName (files : Files) (working : Nat) (source path : Raw) : Except OsError Files := do
  let (number, node) ← files.inspect working source false
  let spot ← files.locate working path false
  if spot.node.isSome then .error .alreadyThere
  else if node.isDirectory then .error .notPermitted
  else
    files.checkChange spot.directory
    pure (files.enter spot.directory spot.name number)

/-- Whether a node is a directory or lies in it, seen from a node on. -/
def liesIn (files : Files) (directory : Nat) : Nat → Nat → Bool
  | 0, _ => false
  | depth + 1, number =>
    number == directory ||
      match (files.node? number).map Node.content with
      | some (.directory _ parent) => parent != number && files.liesIn directory depth parent
      | _ => false

/-- How many names there are for a node; a directory has one in each directory within it, and names itself. -/
def linkCount (files : Files) (number : Nat) : Nat :=
  match files.node? number with
  | none => 0
  | some node =>
    if node.isDirectory then
      2 + (node.children.filter fun child => ((files.node? child.2).map Node.isDirectory).getD false).length
    else
      files.nodes.foldl (fun count other => count + (other.children.filter fun child => child.2 == number).length) 0

/-- Move a node to another name, in place of what has that name. -/
def rename (files : Files) (working : Nat) (source target : Raw) : Except OsError Files := do
  let from_ ← files.locate working (if Files.endsWithSlash source then dropTrailing (· == '/') source else source) false
  let to_ ← files.locate working (if Files.endsWithSlash target then dropTrailing (· == '/') target else target) false
  match from_.node, from_.node.bind files.node? with
  | some number, some node =>
    if [['.'], ['.', '.']].contains from_.name || [['.'], ['.', '.']].contains to_.name then .error .busy
    if Files.endsWithSlash source && !node.isDirectory then .error .notDirectory
    if Files.endsWithSlash target && !node.isDirectory then .error .notDirectory
    if node.isDirectory && files.liesIn number mostSteps to_.directory then .error .invalid
    if to_.node == some number then return files
    if (to_.node.map fun other => files.liesIn other mostSteps from_.directory).getD false then .error .notEmpty
    files.checkChange from_.directory
    files.checkChange to_.directory
    if node.isDirectory && from_.directory != to_.directory && !node.allows .write then .error .noAccess
    match to_.node.bind files.node? with
    | some other =>
      if other.isDirectory && !node.isDirectory then .error .isDirectory
      if !other.isDirectory && node.isDirectory then .error .notDirectory
      if !other.children.isEmpty then .error .notEmpty
    | none => pure ()
    let moved := (files.leave from_.directory from_.name).enter to_.directory to_.name number
    pure (moved.modify number fun node => match node.content with
      | .directory children _ => { node with content := .directory children to_.directory }
      | _ => node)
  | _, _ => .error .noEntry

/-- Change who may use what a path leads to. -/
def setMode (files : Files) (working : Nat) (path : Raw) (mode : Nat) : Except OsError Files := do
  let (number, node) ← files.inspect working path true
  if node.foreign then .error .notPermitted
  else pure (files.modify number fun node => { node with mode, altered := files.now })

/-- The names on the way from the root to a directory. -/
def placeOf (files : Files) : Nat → Nat → List Raw
  | 0, _ => []
  | depth + 1, number =>
    match (files.node? number).map Node.content with
    | some (.directory _ parent) =>
      if parent == number then []
      else
        match ((files.node? parent).map Node.children).bind fun children => children.find? fun child => child.2 == number with
        | some (name, _) => files.placeOf depth parent ++ [name]
        | none => []
    | _ => []

/-- The path of a directory. -/
def pathOf (files : Files) (number : Nat) : Raw :=
  match files.placeOf longestPath number with
  | [] => ['/']
  | place => place.flatMap (fun name => '/' :: name)

/-- Make a directory, and those above it, that belong to somebody else. -/
def provideDirectory (files : Files) : Nat → List Raw → Nat × Files
  | here, [] => (here, files)
  | here, name :: rest =>
    match ((files.node? here).map Node.children).bind (List.lookup name) with
    | some number => files.provideDirectory number rest
    | none =>
      let (number, files) := files.allocate { content := .directory [] here, mode := 0o755, foreign := true }
      (files.enter here name number).provideDirectory number rest

/-- Put a node that belongs to somebody else into a directory. -/
def provide (files : Files) (place : List Raw) (name : Raw) (content : Content) (mode : Nat) : Files :=
  let (directory, files) := files.provideDirectory 0 place
  let (number, files) := files.allocate { content, mode, foreign := true }
  files.enter directory name number

/-- No files but a root. -/
def bare : Files :=
  { nodes := #[{ content := .directory [] 0, mode := 0o755, foreign := true }] }

end Files

end AnswerQuery.Host
