import ExtensionProbe.Yaml.Node
import ExtensionProbe.Yaml.Value

/-!
# Values of YAML documents

The nodes of a document are made into values. A collection is made empty and filled later, so a node may
be a part of itself. What is to be filled is filled in turns: the parts of one turn are the collections of
the next. Before a mapping is filled it takes in the entries of those that it merges.
-/

namespace ExtensionProbe.Yaml

/-! ## Merging -/

/-- The entries of a node, if it is a mapping. -/
def Graph.entries? (g : Graph) (i : Nat) : Option (List (Nat × Nat)) :=
  match (g.node i).content with
  | .mapping es => some es
  | _ => none

/-- Puts other entries into a mapping. -/
def Graph.setEntries (g : Graph) (i : Nat) (es : List (Nat × Nat)) : Graph :=
  g.set i ⟨(g.node i).tag, .mapping es⟩

/-- A mapping on its way to have its merges taken in: the entries of others, and its own. -/
structure Merging where
  graph : Graph
  taken : List (Nat × Nat) := []
  own : List (Nat × Nat) := []

/-- The entries that a node gives to the mapping that merges it: its own, or those of the mappings in it,
of which the last one comes first. Each of them takes in its own merges before. -/
def given (flatten : Graph → Nat → Except Fault Graph) (g : Graph) (i : Nat) :
    Except Fault (List (Nat × Nat) × Graph) :=
  match (g.node i).content with
  | .scalar _ => .error .malformed
  | .mapping _ => do
    let g ← flatten g i
    pure ((g.entries? i).getD [], g)
  | .sequence items =>
    items.foldlM (fun r item =>
      match r.2.entries? item with
      | none => .error .malformed
      | some _ => do
        let g ← flatten r.2 item
        pure ((g.entries? item).getD [] ++ r.1, g)) ([], g)

/-- Takes one entry of a mapping. A key for a plain value is a text from here on. -/
def Merging.take (flatten : Graph → Nat → Except Fault Graph) (i : Nat) (m : Merging)
    (e : Nat × Nat) (rest : List (Nat × Nat)) : Except Fault Merging :=
  let key := m.graph.node e.1
  match key.tag with
  | .merge => do
    let (entries, graph) ← given flatten (m.graph.setEntries i (m.own.reverse ++ rest)) e.2
    pure { m with graph, taken := m.taken ++ entries }
  | .value => .ok { m with graph := m.graph.set e.1 ⟨.text, key.content⟩, own := e :: m.own }
  | _ => .ok { m with own := e :: m.own }

/-- Takes the entries of a mapping in order. -/
def Merging.takeAll (flatten : Graph → Nat → Except Fault Graph) (i : Nat) (m : Merging) :
    List (Nat × Nat) → Except Fault Merging
  | [] => .ok m
  | e :: rest => do
    let m ← m.take flatten i e rest
    m.takeAll flatten i rest

/-- Takes the merges of a mapping in, so that it has none left. A mapping that is merged is left with
one merge less before, so `fuel` need not be more than the number of entries. -/
def flatten : Nat → Graph → Nat → Except Fault Graph
  | 0, _, _ => .error .depth
  | fuel + 1, g, i =>
    match g.entries? i with
    | none => .ok g
    | some es => do
      let m ← Merging.takeAll (flatten fuel) i { graph := g } es
      pure (if m.taken.isEmpty then m.graph
        else m.graph.setEntries i (m.taken ++ (m.graph.entries? i).getD []))

/-! ## Making and filling -/

/-- An entry of a mapping: its key, the node of the key, and the node of the value. -/
structure MadeEntry where
  key : Data
  keyNode : Nat
  value : Nat

/-- What is made of a node; the parts of collections are numbers of nodes. -/
inductive Made where
  | plain (d : Data)
  | list (items : List Nat)
  | pairs (items : List (Nat × Nat))
  | map (entries : List MadeEntry)
  | set (members : List MadeEntry)

/-- A document on its way: its nodes, what is made of them, and the collections to be filled next, the
last one first. -/
structure Work where
  graph : Graph
  made : Array (Option Made)
  waiting : List Nat := []

namespace Work

/-- What is made of a node, if it is made. -/
def made? (w : Work) (i : Nat) : Option Made := w.made.getD i none

/-- Notes what is made of a node. -/
def put (w : Work) (i : Nat) (m : Made) : Work :=
  { w with made := w.made.setIfInBounds i (some m) }

/-- Notes a collection that is to be filled. -/
def start (w : Work) (i : Nat) (m : Made) : Work :=
  { w.put i m with waiting := i :: w.waiting }

/-- The text of a scalar, or of the plain value of a mapping, and whether it is the node's own. -/
def textOf (g : Graph) : Nat → Nat → Except Fault (Text × Bool)
  | 0, _ => .error .depth
  | fuel + 1, i =>
    match (g.node i).content with
    | .scalar text => .ok (text, true)
    | .sequence _ => .error .malformed
    | .mapping es =>
      match es.find? fun e => (g.node e.1).tag = .value with
      | none => .error .malformed
      | some e => (fun r => (r.1, false)) <$> textOf g fuel e.2

/-- Makes a node, if it is not made. -/
def make (w : Work) (i : Nat) : Except Fault Work :=
  match w.made? i with
  | some _ => .ok w
  | none =>
    match (w.graph.node i).tag with
    | .sequence => .ok (w.start i (.list []))
    | .orderedMapping | .pairs => .ok (w.start i (.pairs []))
    | .mapping => .ok (w.start i (.map []))
    | .set => .ok (w.start i (.set []))
    | tag => do
      let (text, own) ← textOf w.graph (w.graph.nodes.size + 1) i
      let d ← scalarValue tag own text
      pure (w.put i (.plain d))

/-- Makes nodes in order. -/
def makeAll (w : Work) (items : List Nat) : Except Fault Work := items.foldlM make w

/-- Puts an entry among those of a mapping. A key that is there keeps its place and its first form; it is
there if its node is, or if it is the same key. -/
def putEntry (entries : List MadeEntry) (e : MadeEntry) : List MadeEntry :=
  match entries with
  | [] => [e]
  | old :: rest =>
    if old.keyNode = e.keyNode || old.key.sameKey e.key then { old with value := e.value } :: rest
    else old :: putEntry rest e

/-- Makes the parts of a mapping's entries in order. A collection is no key. -/
def makeEntries (w : Work) (es : List (Nat × Nat)) : Except Fault (List MadeEntry × Work) :=
  es.foldlM (fun r e => do
    let w ← r.2.make e.1
    match w.made? e.1 with
    | some (.plain key) => do
      let w ← w.make e.2
      pure (putEntry r.1 ⟨key, e.1, e.2⟩, w)
    | _ => .error .malformed) ([], w)

/-- Makes the parts of mappings with one entry each. -/
def makePairs (w : Work) (items : List Nat) : Except Fault (List (Nat × Nat) × Work) :=
  items.foldlM (fun r item =>
    match r.2.graph.entries? item with
    | some [e] => do
      let w ← r.2.make e.1
      let w ← w.make e.2
      pure (r.1 ++ [e], w)
    | _ => .error .malformed) ([], w)

/-- Takes the merges of a mapping in. -/
def flattened (w : Work) (i : Nat) : Except Fault (List (Nat × Nat) × Work) := do
  let size := w.graph.nodes.foldl (fun n node =>
    match node.content with
    | .mapping es => n + es.length
    | _ => n) 0
  let graph ← flatten (size + 1) w.graph i
  pure ((graph.entries? i).getD [], { w with graph })

/-- Fills a collection. -/
def fill (w : Work) (i : Nat) : Except Fault Work :=
  let n := w.graph.node i
  match n.tag, n.content with
  | .sequence, .sequence items => do
    let w ← w.makeAll items
    pure (w.put i (.list items))
  | .orderedMapping, .sequence items | .pairs, .sequence items => do
    let (pairs, w) ← w.makePairs items
    pure (w.put i (.pairs pairs))
  | .mapping, .mapping _ => do
    let (es, w) ← w.flattened i
    let (entries, w) ← w.makeEntries es
    pure (w.put i (.map entries))
  | .set, .mapping _ => do
    let (es, w) ← w.flattened i
    let (entries, w) ← w.makeEntries es
    pure (w.put i (.set entries))
  | _, _ => .error .malformed

/-- Fills what waits to be filled, turn by turn. Each turn has nodes that no turn before had, so there
are no more turns than nodes. -/
def fillAll : Nat → Work → Except Fault Work
  | 0, w => .ok w
  | fuel + 1, w =>
    match w.waiting with
    | [] => .ok w
    | waiting => do
      let w ← waiting.reverse.foldlM fill { w with waiting := [] }
      fillAll fuel w

end Work

/-! ## The value of a document -/

/-- Values of nodes by their numbers, as far as they are known. -/
abbrev Values := Array (Option Data)

/-- The value that is known of a node. -/
def Values.get (vs : Values) (i : Nat) : Option Data := vs.getD i none

/-- The value of what is made of a node, if the values of its parts are known. -/
def Made.value? (vs : Values) : Made → Option Data
  | .plain d => some d
  | .list items => Data.list <$> items.mapM vs.get
  | .pairs items =>
    Data.list <$> items.mapM fun e => do
      let k ← vs.get e.1
      let v ← vs.get e.2
      pure (.tuple [k, v])
  | .map entries => Data.map <$> entries.mapM fun e => (e.key, ·) <$> vs.get e.value
  | .set members => some (.set (members.map (·.key)))

/-- Finds the values of the nodes whose parts are known, from the last one to the first. -/
def Values.settle (made : Array (Option Made)) (vs : Values) : Values :=
  (List.range vs.size).foldr (fun i vs =>
    match vs.get i, made.getD i none with
    | none, some m => vs.setIfInBounds i (m.value? vs)
    | _, _ => vs) vs

/-- Finds values as long as there are new ones. -/
def Values.settleAll (made : Array (Option Made)) : Nat → Values → Values
  | 0, vs => vs
  | fuel + 1, vs =>
    let next := vs.settle made
    if next.toList.countP Option.isSome = vs.toList.countP Option.isSome then vs
    else settleAll made fuel next

/-- How often a node that is a part of itself is written out. -/
def loopDepth : Nat := 16

/-- Writes the nodes that are parts of themselves out once more; `vs` has the other values. -/
def Values.unroll (made : Array (Option Made)) (vs inner : Values) : Values :=
  (Array.range vs.size).map fun i =>
    match vs.get i, made.getD i none with
    | none, some m => m.value? inner
    | known, _ => known

/-- The value of a node of which everything is made. -/
def Work.value (w : Work) (i : Nat) : Data :=
  let known := Values.settleAll w.made (w.made.size + 1) (w.made.map fun _ => none)
  match known.get i with
  | some d => d
  | none =>
    let start := known.map fun v => some (v.getD .null)
    let unrolled := (List.range loopDepth).foldl (fun vs _ => Values.unroll w.made known vs) start
    (unrolled.get i).getD .null

/-- The value of a document. -/
def Node.Document.value (d : Node.Document) : Except Fault Data := do
  let size := d.graph.nodes.size
  let w : Work := { graph := d.graph, made := Array.replicate size none }
  let w ← w.make d.root
  let w ← w.fillAll (size + 1)
  pure (w.value d.root)

/-- The value of a text with at most so many levels of nesting; one without a document stands for nothing. -/
def read (depth : Nat) (s : Source) : Except Fault Data :=
  match Node.ofTokens depth (Token.ofSource s) with
  | .error e => .error e
  | .ok none => .ok .null
  | .ok (some d) => d.value

end ExtensionProbe.Yaml
