/-
# Composing the first document

The events of the first document are composed into nodes: scalars,
sequences, mappings (their children alternate key, value) and aliases. The
nodes are kept in an array and refer to their children, and an alias to the
node it names, by index, so a collection that holds an alias of itself is a
finite value.

A node's tag is its explicit tag written short; without one, a quoted or
block scalar is a string, a plain `<<` is the merge key, another plain scalar
gets the tag its text resolves to, and collections are `!!seq` and `!!map`.
An anchor names its node from the node's start, so an alias inside a
collection may name the collection itself; a later anchor of the same name
takes over. An alias of a name not yet anchored stops reading.

A text with a character YAML does not allow stops reading when the scanner
first asks for a character of the round of reading that holds it, or, when
the scanner met it looking ahead past blanks, once the event being read is
complete; a text with no document composes to nothing.

Key definitions: `Yaml.Node`, `Yaml.Document`, `Yaml.firstDocument`.
-/
import KernelSynth.Yaml.Event
import KernelSynth.Yaml.Resolve

namespace KernelSynth
namespace Yaml

/-- What a node is. -/
inductive NodeKind where
  | scalar
  | sequence
  | mapping
  | alias
  deriving DecidableEq, Repr, Inhabited

/-- A node: its kind, tag (short, empty for an alias), text (an alias's name), scalar style,
line and column (from one), children (keys and values alternating for a mapping) and, for an
alias, the node it names. -/
structure Node where
  kind : NodeKind
  tag : String
  value : String
  style : Style
  line : Nat
  column : Nat
  children : List Nat
  target : Nat
  deriving Repr, Inhabited

/-- A composed document: its nodes and the index of its root. -/
structure Document where
  nodes : Array Node
  root : Nat
  deriving Repr

/-- The state of composing: the parser, the next event if it has been read, the nodes so far,
and the anchors, the latest first. -/
structure Composer where
  parser : Parser
  pending : Option Event
  nodes : Array Node
  anchors : List (String × Nat)

/-- Composing steps. -/
abbrev ComposeM := StateT Composer (Except Halt)

/-- The next event, read once. -/
def peekEvent : ComposeM Event := do
  let c ← get
  match c.pending with
  | some e => return e
  | none =>
    match nextEvent.run c.parser with
    | .ok (e, p) =>
      if p.scanner.readFault then throw (.problem badCharacter)
      set { c with parser := p, pending := some e }
      return e
    | .error prob => throw (.problem prob)

/-- Takes the next event. -/
def takeEvent : ComposeM Unit := do
  let _ ← peekEvent
  modify fun c => { c with pending := none }

/-- The tag a node gets: its explicit tag, else the default of its kind. -/
def nodeTag (kind : NodeKind) (defaultTag tag value : String) : String :=
  if tag ≠ "" ∧ tag ≠ "!" then shortTag tag
  else if defaultTag ≠ "" then defaultTag
  else if kind = .scalar then plainTag value
  else ""

/-- Adds a node and gives its index. -/
def addNode (n : Node) : ComposeM Nat := do
  let c ← get
  set { c with nodes := c.nodes.push n }
  return c.nodes.size

/-- Names a node by an anchor, if there is one. -/
def anchorNode (name : String) (i : Nat) : ComposeM Unit :=
  if name.isEmpty then pure ()
  else modify fun c => { c with anchors := (name, i) :: c.anchors }

/-- Composes one node from the events, at most `fuel` levels deep, and gives its index. -/
def composeNode : Nat → ComposeM Nat
  | 0 => throw (.problem ⟨.parser, Mark.origin, Mark.origin, "exceeded max depth"⟩)
  | fuel + 1 => do
    let e ← peekEvent
    let line := e.start.line + 1
    let column := e.start.column + 1
    match e.kind with
    | .alias name =>
      match (← get).anchors.lookup name with
      | none => throw (.unknownAnchor name)
      | some target =>
        let i ← addNode ⟨.alias, "", name, .plain, line, column, [], target⟩
        takeEvent
        return i
    | .scalar anchor tag value style =>
      let defaultTag :=
        if style = .plain then (if value = "<<" then mergeTag else "") else strTag
      let i ← addNode ⟨.scalar, nodeTag .scalar defaultTag tag value, value, style, line, column,
        [], 0⟩
      anchorNode anchor i
      takeEvent
      return i
    | .sequenceStart anchor tag _ | .mappingStart anchor tag _ =>
      let kind : NodeKind := if e.kind matches .sequenceStart .. then .sequence else .mapping
      let defaultTag := if kind = .sequence then seqTag else mapTag
      let i ← addNode ⟨kind, nodeTag kind defaultTag tag "", "", .plain, line, column, [], 0⟩
      anchorNode anchor i
      takeEvent
      let mut children : Array Nat := #[]
      for _ in [0:4 * (← get).parser.scanner.budget] do
        let next ← peekEvent
        if next.kind matches .sequenceEnd | .mappingEnd then break
        children := children.push (← composeNode fuel)
      takeEvent
      modify fun c => { c with nodes := c.nodes.modify i fun n => { n with children := children.toList } }
      return i
    | _ => throw (.problem ⟨.parser, Mark.origin, e.start, "did not find expected node content"⟩)

/-- The first document of a text, if it has one. -/
def firstDocument (text : String) : Except Halt (Option Document) :=
  let run : ComposeM (Option Document) := do
    takeEvent
    let e ← peekEvent
    match e.kind with
    | .documentStart _ =>
      takeEvent
      let root ← composeNode (4 * text.length + 16)
      takeEvent
      return some ⟨(← get).nodes, root⟩
    | _ => return none
  (run.run' ⟨Parser.ofText text, none, #[], []⟩)

end Yaml
end KernelSynth
