import ExtensionProbe.Yaml.Tag
import ExtensionProbe.Yaml.Token

/-!
# Nodes of a YAML document

Tokens are put together into a graph. A node can be given a name, and an alias is the node of its name
once more, within the node itself too.
-/

namespace ExtensionProbe.Yaml

/-- What a node holds. The parts of a collection are the numbers of their nodes. -/
inductive Content where
  | scalar (text : Text)
  | sequence (items : List Nat)
  | mapping (entries : List (Nat × Nat))
deriving Repr

/-- A part of a document. -/
structure Node where
  tag : Tag
  content : Content
deriving Repr

/-- The node that stands where nothing is written. -/
def Node.nothing : Node := ⟨.null, .scalar []⟩

/-- The nodes of a document by their numbers. -/
structure Graph where
  nodes : Array Node := #[]

namespace Graph

/-- The node with a number. -/
def node (g : Graph) (i : Nat) : Node := g.nodes.getD i .nothing

/-- Adds a node; its number is the number of nodes before it. -/
def add (g : Graph) (n : Node) : Graph := ⟨g.nodes.push n⟩

/-- Puts another node under a number. -/
def set (g : Graph) (i : Nat) (n : Node) : Graph := ⟨g.nodes.setIfInBounds i n⟩

end Graph

namespace Node

/-- What handles of tags stand for. -/
abbrev Handles := List (String × String)

/-- The handles that need not be declared. -/
def standardHandles : Handles := [("!", "!"), ("!!", Tag.base)]

/-- The tokens that are left, the nodes so far, and those that have names. -/
structure State where
  tokens : List Token
  graph : Graph := {}
  named : List (String × Nat) := []

/-- The name and the tag of a node. -/
structure Properties where
  name : Option String := none
  tag : Option (Option String × String) := none

/-- The fault of a token that must not stand where it stands. -/
def unexpected : List Token → Fault
  | .fault e :: _ => e
  | _ => .malformed

/-- The properties at the start of tokens, in either order, and the tokens after them. -/
def properties : List Token → Properties × List Token
  | .anchor name :: .tag h s :: rest => (⟨some name, some (h, s)⟩, rest)
  | .anchor name :: rest => (⟨some name, none⟩, rest)
  | .tag h s :: .anchor name :: rest => (⟨some name, some (h, s)⟩, rest)
  | .tag h s :: rest => (⟨none, some (h, s)⟩, rest)
  | rest => ({}, rest)

/-- The full name of a tag; none if its handle is not declared. -/
def fullName (handles : Handles) : Option String × String → Option String
  | (none, suffix) => some suffix
  | (some handle, suffix) => ((handles.find? (·.1 == handle)).map Prod.snd).map (· ++ suffix)

/-- A tag given for a node: none, the mark that asks for the usual one, or one with a name. -/
inductive Given where
  | none
  | usual
  | named (tag : Tag)

/-- The tag given by properties, which stand at the start of tokens. After a tag alone the next token is
looked at first, because a name may follow. -/
def given (handles : Handles) (p : Properties) (tokens : List Token) : Except Fault Given :=
  match p.tag, tokens with
  | _, .tag _ _ :: .fault e :: _ => .error e
  | .none, _ => .ok .none
  | some t, _ =>
    match fullName handles t with
    | .none => .error .malformed
    | some name => .ok (if name == "!" then .usual else .named (.ofName name))

/-- The tag of a collection. -/
def Given.collection (g : Given) (usual : Tag) : Tag :=
  match g with
  | .named t => t
  | _ => usual

/-- The tag of a scalar. What has halves is a text in any case. -/
def Given.scalar (g : Given) (text : Text) (isPlain : Bool) : Tag :=
  let byText : Tag :=
    match text.chars? with
    | some cs => .ofPlain cs
    | Option.none => .text
  match g with
  | .named t => t
  | .usual => byText
  | .none => if isPlain then byText else .text

/-- The tokens that end a place for a node in each kind of collection, if the place is left empty. -/
def endsEntry : List Token → Bool
  | .blockEntry :: _ => true
  | .blockEnd :: _ => true
  | _ => false

/-- Whether an entry of a sequence that is not further in than its mapping is left empty. -/
def endsIndentless : List Token → Bool
  | .blockEntry :: _ => true
  | .key :: _ => true
  | .value :: _ => true
  | .blockEnd :: _ => true
  | _ => false

/-- Whether a key or a value of a block mapping is left empty. -/
def endsBlockPart : List Token → Bool
  | .key :: _ => true
  | .value :: _ => true
  | .blockEnd :: _ => true
  | _ => false

/-- Whether a key of a flow mapping is left empty. -/
def endsFlowKey : List Token → Bool
  | .value :: _ => true
  | .flowEntry :: _ => true
  | .flowMappingEnd :: _ => true
  | _ => false

/-- Whether a value of a flow mapping is left empty. -/
def endsFlowValue : List Token → Bool
  | .flowEntry :: _ => true
  | .flowMappingEnd :: _ => true
  | _ => false

/-- Whether a key of a single entry in a flow sequence is left empty. -/
def endsPairKey : List Token → Bool
  | .value :: _ => true
  | .flowEntry :: _ => true
  | .flowSequenceEnd :: _ => true
  | _ => false

/-- Whether a value of a single entry in a flow sequence is left empty. -/
def endsPairValue : List Token → Bool
  | .flowEntry :: _ => true
  | .flowSequenceEnd :: _ => true
  | _ => false

/-- Adds a node, perhaps with a name. -/
def State.add (s : State) (name : Option String) (n : Node) : Nat × State :=
  let i := s.graph.nodes.size
  let named := match name with
    | none => s.named
    | some a => (a, i) :: s.named
  (i, { s with graph := s.graph.add n, named })

/-- Puts another node under a number. -/
def State.set (s : State) (i : Nat) (n : Node) : State := { s with graph := s.graph.set i n }

/-- The same names with other tokens left. -/
def State.at (s : State) (tokens : List Token) : State := { s with tokens }

/-- The tokens after the comma between two entries of a flow collection; before the first entry there
is none. -/
def afterComma (first : Bool) (tokens : List Token) : Except Fault (List Token) :=
  if first then .ok tokens
  else
    match tokens with
    | .flowEntry :: rest => .ok rest
    | other => .error (unexpected other)

/-- Where a node stands: whether block collections may start, and whether a sequence may start without
being further in. -/
structure Place where
  block : Bool
  indentless : Bool := false

/-- A place within a flow collection. -/
def Place.inFlow : Place := ⟨false, false⟩

/-- A place within a block. -/
def Place.inBlock : Place := ⟨true, false⟩

/-- A place within a block mapping. -/
def Place.inMapping : Place := ⟨true, true⟩

mutual

/-- A node, at most so deep; `fuel` bounds the turns. A collection has its number before its parts have
theirs. -/
def node (fuel : Nat) (handles : Handles) (depth : Nat) (place : Place) (s : State) :
    Except Fault (Nat × State) :=
  match fuel with
  | 0 => .error .malformed
  | fuel + 1 =>
    match s.tokens with
    | .alias name :: rest =>
      match s.named.lookup name with
      | some i => .ok (i, s.at rest)
      | none => .error .malformed
    | tokens => do
      let (p, rest) := properties tokens
      let g ← given handles p tokens
      if let .fault e :: _ := rest then .error e
      if p.name.any fun a => s.named.any (·.1 == a) then .error .malformed
      if depth = 0 then .error .depth
      let sequence (start : List Token)
          (read : State → Except Fault (List Nat × State)) : Except Fault (Nat × State) := do
        let tag := g.collection .sequence
        let (i, s) := (s.at start).add p.name ⟨tag, .sequence []⟩
        let (items, after) ← read s
        pure (i, after.set i ⟨tag, .sequence items⟩)
      let mapping (start : List Token)
          (read : State → Except Fault (List (Nat × Nat) × State)) :
          Except Fault (Nat × State) := do
        let tag := g.collection .mapping
        let (i, s) := (s.at start).add p.name ⟨tag, .mapping []⟩
        let (entries, after) ← read s
        pure (i, after.set i ⟨tag, .mapping entries⟩)
      let scalar (text : Text) (isPlain : Bool) (after : List Token) : Nat × State :=
        (s.at after).add p.name ⟨g.scalar text isPlain, .scalar text⟩
      let empty : Except Fault (Nat × State) :=
        if p.name.isSome || p.tag.isSome then .ok (scalar [] true rest)
        else .error (unexpected rest)
      match rest with
      | .scalar text isPlain :: after => pure (scalar text isPlain after)
      | .flowSequenceStart :: after =>
        sequence after (flowSequence fuel handles (depth - 1) true)
      | .flowMappingStart :: after => mapping after (flowMapping fuel handles (depth - 1) true)
      | .blockEntry :: _ =>
        if place.indentless then sequence rest (indentlessSequence fuel handles (depth - 1))
        else empty
      | .blockSequenceStart :: after =>
        if place.block then sequence after (blockSequence fuel handles (depth - 1)) else empty
      | .blockMappingStart :: after =>
        if place.block then mapping after (blockMapping fuel handles (depth - 1)) else empty
      | _ => empty

/-- A node, or nothing where the place is left empty. -/
def nodeUnless (fuel : Nat) (isEmpty : List Token → Bool) (handles : Handles) (depth : Nat)
    (place : Place) (s : State) : Except Fault (Nat × State) :=
  match fuel with
  | 0 => .error .malformed
  | fuel + 1 =>
    if isEmpty s.tokens then .ok (s.add none nothing) else node fuel handles depth place s

/-- The entries of a block sequence up to its end. -/
def blockSequence (fuel : Nat) (handles : Handles) (depth : Nat) (s : State) :
    Except Fault (List Nat × State) :=
  match fuel with
  | 0 => .error .malformed
  | fuel + 1 =>
    match s.tokens with
    | .blockEntry :: rest => do
      let (n, s) ← nodeUnless fuel endsEntry handles depth .inBlock (s.at rest)
      let (more, s) ← blockSequence fuel handles depth s
      pure (n :: more, s)
    | .blockEnd :: rest => .ok ([], s.at rest)
    | other => .error (unexpected other)

/-- The entries of a sequence that is not further in than its mapping. -/
def indentlessSequence (fuel : Nat) (handles : Handles) (depth : Nat) (s : State) :
    Except Fault (List Nat × State) :=
  match fuel with
  | 0 => .error .malformed
  | fuel + 1 =>
    match s.tokens with
    | .blockEntry :: rest => do
      let (n, s) ← nodeUnless fuel endsIndentless handles depth .inBlock (s.at rest)
      let (more, s) ← indentlessSequence fuel handles depth s
      pure (n :: more, s)
    | _ => .ok ([], s)

/-- The entries of a block mapping up to its end. -/
def blockMapping (fuel : Nat) (handles : Handles) (depth : Nat) (s : State) :
    Except Fault (List (Nat × Nat) × State) :=
  match fuel with
  | 0 => .error .malformed
  | fuel + 1 =>
    match s.tokens with
    | .key :: rest => do
      let (k, s) ← nodeUnless fuel endsBlockPart handles depth .inMapping (s.at rest)
      let (v, s) ← valueAfter fuel endsBlockPart handles depth .inMapping s
      let (more, s) ← blockMapping fuel handles depth s
      pure ((k, v) :: more, s)
    | .blockEnd :: rest => .ok ([], s.at rest)
    | other => .error (unexpected other)

/-- The value after a key, or nothing. -/
def valueAfter (fuel : Nat) (isEmpty : List Token → Bool) (handles : Handles) (depth : Nat)
    (place : Place) (s : State) : Except Fault (Nat × State) :=
  match fuel with
  | 0 => .error .malformed
  | fuel + 1 =>
    match s.tokens with
    | .value :: rest => nodeUnless fuel isEmpty handles depth place (s.at rest)
    | _ => .ok (s.add none nothing)

/-- The entries of a flow sequence up to its end. -/
def flowSequence (fuel : Nat) (handles : Handles) (depth : Nat) (first : Bool) (s : State) :
    Except Fault (List Nat × State) :=
  match fuel with
  | 0 => .error .malformed
  | fuel + 1 =>
    match s.tokens with
    | .flowSequenceEnd :: rest => .ok ([], s.at rest)
    | tokens => do
      match ← afterComma first tokens with
      | .key :: rest => do
        if depth = 0 then .error .depth
        let (i, s) := (s.at rest).add none ⟨.mapping, .mapping []⟩
        let (k, s) ← nodeUnless fuel endsPairKey handles (depth - 1) .inFlow s
        let (v, s) ← valueAfter fuel endsPairValue handles (depth - 1) .inFlow s
        let (more, s) ← flowSequence fuel handles depth false (s.set i ⟨.mapping, .mapping [(k, v)]⟩)
        pure (i :: more, s)
      | .flowSequenceEnd :: rest => pure ([], s.at rest)
      | rest => do
        let (n, s) ← node fuel handles depth .inFlow (s.at rest)
        let (more, s) ← flowSequence fuel handles depth false s
        pure (n :: more, s)

/-- The entries of a flow mapping up to its end. -/
def flowMapping (fuel : Nat) (handles : Handles) (depth : Nat) (first : Bool) (s : State) :
    Except Fault (List (Nat × Nat) × State) :=
  match fuel with
  | 0 => .error .malformed
  | fuel + 1 =>
    match s.tokens with
    | .flowMappingEnd :: rest => .ok ([], s.at rest)
    | tokens => do
      match ← afterComma first tokens with
      | .key :: rest => do
        let (k, s) ← nodeUnless fuel endsFlowKey handles depth .inFlow (s.at rest)
        let (v, s) ← valueAfter fuel endsFlowValue handles depth .inFlow s
        let (more, s) ← flowMapping fuel handles depth false s
        pure ((k, v) :: more, s)
      | .flowMappingEnd :: rest => pure ([], s.at rest)
      | rest => do
        let (k, s) ← node fuel handles depth .inFlow (s.at rest)
        let (v, s) := s.add none nothing
        let (more, s) ← flowMapping fuel handles depth false s
        pure ((k, v) :: more, s)

end

/-! ## Documents -/

/-- What directives declare, added to what those before declared, and the tokens after them. -/
def directives (version : Bool) (handles : Handles) :
    List Token → Except Fault (Handles × List Token)
  | .directive (.version major) :: rest =>
    if version || major != 1 then .error .malformed else directives true handles rest
  | .directive (.tag handle meaning) :: rest =>
    if handles.any (·.1 == handle) then .error .malformed
    else directives version ((handle, meaning) :: handles) rest
  | .directive .other :: rest => directives version handles rest
  | rest => .ok (handles, rest)

/-- Whether a document with a start of its own has nothing in it. -/
def endsDocument : List Token → Bool
  | [] => true
  | .directive _ :: _ => true
  | .documentStart :: _ => true
  | .documentEnd :: _ => true
  | _ => false

/-- Checks that nothing follows a document but marks of its end. The directives of another document are
looked at before it is refused. -/
def checkEnd : List Token → Except Fault Unit
  | [] => .ok ()
  | .documentEnd :: rest => checkEnd rest
  | other =>
    match directives false [] other with
    | .error e => .error e
    | .ok (_, rest) => .error (unexpected rest)

/-- A document: its nodes, and the number of the one that holds all others. -/
structure Document where
  graph : Graph
  root : Nat

/-- The document of tokens with at most so many levels of nesting. -/
def document (depth : Nat) (handles : Handles) (tokens : List Token) : Except Fault Document := do
  let fuel := 4 * tokens.length + 4
  let (root, s) ← node fuel handles depth .inBlock { tokens }
  checkEnd s.tokens
  pure ⟨s.graph, root⟩

/-- The document in which nothing is written. -/
def emptyDocument : Document := ⟨Graph.add {} nothing, 0⟩

/-- The only document of tokens, if there is one. -/
def ofTokens (depth : Nat) (tokens : List Token) : Except Fault (Option Document) :=
  match tokens with
  | [] => .ok none
  | .directive _ :: _ | .documentStart :: _ => do
    match ← directives false [] tokens with
    | (declared, .documentStart :: rest) =>
      if endsDocument rest then do
        checkEnd rest
        pure (some emptyDocument)
      else some <$> document depth (declared ++ standardHandles) rest
    | (_, other) => .error (unexpected other)
  | _ => some <$> document depth standardHandles tokens

end Node

end ExtensionProbe.Yaml
