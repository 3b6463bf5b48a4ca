import AnswerQuery.Host.Tool.Source

/-! Words put into an order in which pairs of them are told to stand. -/

namespace AnswerQuery.Host.Tool

namespace Precedence

/-- A word. -/
structure Node where
  /-- The word. -/
  name : Raw
  /-- How many pairs still hold it back. -/
  count : Nat := 0
  /-- The words that come later, the one told last being the first. -/
  later : List Raw := []
  /-- Whether it has been written. -/
  written : Bool := false
  /-- The word from which it was come upon in the search for a circle. -/
  trace : Option Raw := none

/-- The words, in the order of their octets. -/
abbrev Nodes := List Node

/-- Change a word. -/
def change (nodes : Nodes) (name : Raw) (by_ : Node → Node) : Nodes :=
  nodes.map fun node => if node.name == name then by_ node else node

/-- A word. -/
def node? (nodes : Nodes) (name : Raw) : Option Node := nodes.find? fun node => node.name == name

/-- Add a word unless it is there. -/
def insert (nodes : Nodes) (name : Raw) : Nodes :=
  if nodes.any fun node => node.name == name then nodes
  else
    let isBefore := fun (node : Node) => Raw.inOrder node.name name
    nodes.takeWhile isBefore ++ { name } :: nodes.dropWhile isBefore

/-- Take up pairs of words, the first of which comes before the second. -/
def record (nodes : Nodes) : List Raw → Nodes
  | first :: second :: rest =>
    let nodes := insert (insert nodes first) second
    let nodes := if first == second then nodes else
      change (change nodes second fun node => { node with count := node.count + 1 }) first
        fun node => { node with later := second :: node.later }
    record nodes rest
  | _ => nodes

/-- Write the words of a queue, and those that nothing holds back any more. -/
def drain (nodes : Nodes) : Nat → List Raw → Act Nodes
  | 0, _ => pure nodes
  | _, [] => pure nodes
  | steps + 1, name :: queue => do
    Act.sayLine name
    let later := ((node? nodes name).map Node.later).getD []
    let nodes := change nodes name fun node => { node with written := true }
    let (nodes, freed) := later.foldl (fun ((nodes : Nodes), (freed : List Raw)) follower =>
      let nodes := change nodes follower fun node => { node with count := node.count - 1 }
      let isFree := ((node? nodes follower).map fun node => node.count == 0).getD false
      (nodes, if isFree then follower :: freed else freed)) (nodes, [])
    drain nodes steps (queue ++ freed.reverse)

/-- The words that are come upon from one back to another one. -/
def trail (nodes : Nodes) : Nat → Raw → Raw → List Raw
  | 0, _, _ => []
  | steps + 1, from_, to_ =>
    if from_ == to_ then [from_]
    else match (node? nodes from_).bind Node.trace with
      | some next => from_ :: trail nodes steps next to_
      | none => [from_]

/-- A list without the first of its elements that is the same as another one. -/
def without (name : Raw) : List Raw → List Raw
  | [] => []
  | first :: rest => if first == name then rest else first :: without name rest

/-- Look through all words once for a circle. The word that was come upon last is known; the result tells the new one and
the words of the circle, if it was closed. -/
def lookThrough : List Raw → Nodes → Option Raw → Nodes × Option Raw × List Raw
  | [], nodes, last => (nodes, last, [])
  | name :: names, nodes, last =>
    match node? nodes name, last with
    | some node, some last' =>
      if node.count = 0 || !node.later.contains last' then lookThrough names nodes last
      else if node.trace.isSome then
        let circle := trail nodes (nodes.length + 1) last' name
        -- The pair that closed the circle is taken away, and all traces with it.
        let nodes := change nodes last' fun node => { node with count := node.count - 1 }
        let nodes := change nodes name fun node => { node with later := without last' node.later }
        (nodes.map fun node => { node with trace := none }, none, circle)
      else lookThrough names (change nodes name fun node => { node with trace := some last' }) (some name)
    | some node, none => lookThrough names nodes (if node.count = 0 then none else some name)
    | none, _ => lookThrough names nodes last

/-- Find a circle and break it: the words of it are complained of. -/
def breakCircle (nodes : Nodes) : Act Nodes :=
  Act.loop (nodes, (none : Option Raw)) fun (nodes, last) => do
    let (nodes, last, circle) := lookThrough (nodes.map Node.name) nodes last
    for name in circle do
      Act.complain name
    pure (if last.isNone then .inr nodes else .inl (nodes, last))

/-- Write all words. -/
def writeAll (path : Raw) (nodes : Nodes) : Act Unit :=
  Act.loop nodes fun nodes => do
    let free := nodes.filter fun node => node.count == 0 && !node.written
    let nodes ← drain nodes (nodes.length + 1) (free.map Node.name)
    if nodes.all Node.written then pure (.inr ())
    else do
      Act.complain (nameFor path ++ ": input contains a loop:".toList)
      Act.fail 1
      let nodes ← breakCircle nodes
      pure (.inl nodes)

end Precedence

/-- Write words in an order in which pairs of them are told to stand. -/
def tsort : Utility := ofAct fun arguments => do
  let invocation ← Act.readOptions 1 [] false arguments
  if let _ :: extra :: _ := invocation.operands then Act.refuseExtra 1 extra
  let path := invocation.operands.head?.getD ['-']
  match ← Act.readFile path with
  | .error reason =>
    Act.die 1 (nameFor path ++ (if reason == OsError.isDirectory then ": read error: " else ": ").toList ++ reason.description)
  | .ok octets => do
    let words := ((Raw.ofOctets octets).splitOnP fun c => c == ' ' || c == '\t' || c == '\n').filter (!List.isEmpty ·)
    if words.length % 2 = 1 then
      Act.die 1 (nameFor path ++ ": input contains an odd number of tokens".toList)
    Precedence.writeAll path (Precedence.record [] words)

/-- The programs of this kind. -/
def precedenceTools : List (String × Utility) :=
  [("tsort", tsort)]

end AnswerQuery.Host.Tool
