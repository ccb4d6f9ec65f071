/-
# Parsing YAML tokens into events

The parser turns the token stream into events: the starts and ends of the
stream, of documents, of sequences and of mappings, scalars and aliases. It
is a state machine: `Parser.state` says what may come next, and a stack of
states says where to return when a node is done. Each call of `nextEvent`
looks at the next token or two and produces one event.

A node may carry an anchor and a tag, in either order. A tag's handle is
replaced by its prefix: `!` stands for itself, `!!` for
`tag:yaml.org,2002:`, and `%TAG` directives name others. Where a node is
missing — a key without a value, an entry with nothing after the dash, a
document with no content — the event is an empty plain scalar.

In block context a mapping's value may be a sequence whose dashes stand at
the key's own indentation (an indentless sequence); it ends at the first
token that is not a dash.

Key definitions: `Yaml.Event`, `Yaml.Parser`, `Yaml.Parser.ofText`,
`Yaml.nextEvent`.
-/
import KernelSynth.Yaml.Token.Scan

namespace KernelSynth
namespace Yaml

/-- What an event is. A missing tag is the empty string. -/
inductive EventKind where
  | streamStart
  | streamEnd
  | documentStart (implicit : Bool)
  | documentEnd (implicit : Bool)
  | alias (name : String)
  | scalar (anchor tag value : String) (style : Style)
  | sequenceStart (anchor tag : String) (flow : Bool)
  | sequenceEnd
  | mappingStart (anchor tag : String) (flow : Bool)
  | mappingEnd
  deriving Repr, Inhabited

/-- An event and the marks where it starts and stops. -/
structure Event where
  kind : EventKind
  start : Mark
  stop : Mark
  deriving Repr, Inhabited

/-- What the parser expects next. -/
inductive ParseState where
  | streamStart
  | implicitDocumentStart
  | documentStart
  | documentContent
  | documentEnd
  | blockNode
  | blockNodeOrIndentlessSequence
  | flowNode
  | blockSequenceFirstEntry
  | blockSequenceEntry
  | indentlessSequenceEntry
  | blockMappingFirstKey
  | blockMappingKey
  | blockMappingValue
  | flowSequenceFirstEntry
  | flowSequenceEntry
  | flowSequenceEntryMappingKey
  | flowSequenceEntryMappingValue
  | flowSequenceEntryMappingEnd
  | flowMappingFirstKey
  | flowMappingKey
  | flowMappingValue
  | flowMappingEmptyValue
  | finished
  deriving Repr, DecidableEq, Inhabited

/-- The state of parsing: the scanner, the expected state and the stack of states to return
to, the marks of the open collections, and the tag handles of the current document. -/
structure Parser where
  scanner : Scanner
  state : ParseState
  states : List ParseState
  marks : List Mark
  handles : List (String × String)

/-- Parsing steps. -/
abbrev ParseM := StateT Parser (Except Problem)

/-- The tag prefixes every document knows. -/
def defaultHandles : List (String × String) := [("!", "!"), ("!!", "tag:yaml.org,2002:")]

namespace Parser

/-- A parser at the start of a text. -/
def ofText (text : String) : Parser :=
  ⟨Scanner.ofText text, .streamStart, [], [], []⟩

end Parser

/-- Runs a scanning step inside parsing. -/
def scan (act : ScanM α) : ParseM α := fun p => do
  let (a, s) ← act.run p.scanner
  pure (a, { p with scanner := s })

/-- The next token. -/
def token : ParseM Token := scan peekToken

/-- Takes the next token. -/
def advance : ParseM Unit := scan skipToken

/-- Stops with a problem the parser found. -/
def parseFail (context : Mark) (text : String) (m : Mark) : ParseM α :=
  throw ⟨.parser, context, m, text⟩

/-- Returns to the state on top of the stack. -/
def popState : ParseM Unit := modify fun p =>
  match p.states with
  | s :: rest => { p with state := s, states := rest }
  | [] => { p with state := .finished }

/-- Saves a state to return to. -/
def pushState (s : ParseState) : ParseM Unit := modify fun p => { p with states := s :: p.states }

/-- Enters a state. -/
def goTo (s : ParseState) : ParseM Unit := modify fun p => { p with state := s }

/-- Drops the mark of the innermost open collection and gives it. -/
def popMark : ParseM Mark := do
  let p ← get
  match p.marks with
  | m :: rest =>
    set { p with marks := rest }
    return m
  | [] => return Mark.origin

/-- Notes the mark of a collection's first token and takes it. -/
def openCollection : ParseM Unit := do
  let t ← token
  modify fun p => { p with marks := t.start :: p.marks }
  advance

/-- An empty plain scalar at a mark. -/
def emptyScalar (m : Mark) : Event := ⟨.scalar "" "" "" .plain, m, m⟩

/-- Whether a token is of the given kind, up to its payload. -/
def TokenKind.sameAs : TokenKind → TokenKind → Bool
  | .streamStart, .streamStart | .streamEnd, .streamEnd
  | .versionDirective _ _, .versionDirective _ _ | .tagDirective _ _, .tagDirective _ _
  | .documentStart, .documentStart | .documentEnd, .documentEnd
  | .blockSequenceStart, .blockSequenceStart | .blockMappingStart, .blockMappingStart
  | .blockEnd, .blockEnd
  | .flowSequenceStart, .flowSequenceStart | .flowSequenceEnd, .flowSequenceEnd
  | .flowMappingStart, .flowMappingStart | .flowMappingEnd, .flowMappingEnd
  | .blockEntry, .blockEntry | .flowEntry, .flowEntry | .key, .key | .value, .value
  | .alias _, .alias _ | .anchor _, .anchor _ | .tag _ _, .tag _ _
  | .scalar _ _, .scalar _ _ => true
  | _, _ => false

/-- Whether a token is one of the given kinds. -/
def Token.isAny (t : Token) (kinds : List TokenKind) : Bool := kinds.any t.kind.sameAs

/-- Reads the directives before a document and fixes its tag handles: those it names, then
the defaults. A version directive may stand once and must name version 1.1. -/
def processDirectives : ParseM Unit := do
  let mut version := false
  let mut named : List (String × String) := []
  for _ in [0:(← get).scanner.budget] do
    let t ← token
    match t.kind with
    | .versionDirective major minor =>
      if version then parseFail Mark.origin "found duplicate %YAML directive" t.start
      if major != 1 || minor != 1 then
        parseFail Mark.origin "found incompatible YAML document" t.start
      version := true
    | .tagDirective handle pre =>
      if named.any (·.1 == handle) then parseFail Mark.origin "found duplicate %TAG directive" t.start
      named := named ++ [(handle, pre)]
    | _ => break
    advance
  let extra := defaultHandles.filter fun d => !named.any (·.1 == d.1)
  modify fun p => { p with handles := named ++ extra }

/-- The start of a document, or the end of the stream. A document without `---` may start
only where no directive stands. -/
def parseDocumentStart (implicit : Bool) : ParseM Event := do
  let mut t ← token
  if !implicit then
    for _ in [0:(← get).scanner.budget] do
      if t.isAny [.documentEnd] then
        advance
        t ← token
      else break
  if implicit && !t.isAny [.versionDirective 0 0, .tagDirective "" "", .documentStart, .streamEnd] then
    processDirectives
    pushState .documentEnd
    goTo .blockNode
    return ⟨.documentStart true, t.start, t.stop⟩
  else if !t.isAny [.streamEnd] then
    let start := t.start
    processDirectives
    let d ← token
    if !d.isAny [.documentStart] then
      parseFail Mark.origin "did not find expected <document start>" d.start
    pushState .documentEnd
    goTo .documentContent
    advance
    return ⟨.documentStart false, start, d.stop⟩
  else
    goTo .finished
    advance
    return ⟨.streamEnd, t.start, t.stop⟩

/-- The content of an explicit document, which may be empty. -/
def parseDocumentContent (node : ParseM Event) : ParseM Event := do
  let t ← token
  if t.isAny [.versionDirective 0 0, .tagDirective "" "", .documentStart, .documentEnd, .streamEnd] then
    popState
    return emptyScalar t.start
  node

/-- The end of a document, written with `...` or not. -/
def parseDocumentEnd : ParseM Event := do
  let t ← token
  let explicit := t.isAny [.documentEnd]
  if explicit then advance
  modify fun p => { p with handles := [] }
  goTo .documentStart
  return ⟨.documentEnd (!explicit), t.start, if explicit then t.stop else t.start⟩

/-- A node: an alias, or a scalar or collection with its optional anchor and tag. -/
def parseNode (block indentless : Bool) : ParseM Event := do
  let first ← token
  if let .alias name := first.kind then
    popState
    advance
    return ⟨.alias name, first.start, first.stop⟩
  let start := first.start
  let mut stop := first.start
  let mut anchor := ""
  let mut tagged : Option (String × String) := none
  let mut tagMark := first.start
  let mut t := first
  match t.kind with
  | .anchor name =>
    anchor := name
    stop := t.stop
    advance
    t ← token
    if let .tag handle suffix := t.kind then
      tagged := some (handle, suffix)
      tagMark := t.start
      stop := t.stop
      advance
      t ← token
  | .tag handle suffix =>
    tagged := some (handle, suffix)
    tagMark := t.start
    stop := t.stop
    advance
    t ← token
    if let .anchor name := t.kind then
      anchor := name
      stop := t.stop
      advance
      t ← token
  | _ => pure ()
  let mut tag := ""
  if let some (handle, suffix) := tagged then
    if handle.isEmpty then tag := suffix
    else
      match ((← get).handles.find? (·.1 == handle)) with
      | some (_, pre) => tag := pre ++ suffix
      | none => parseFail start "found undefined tag handle" tagMark
  if indentless && t.isAny [.blockEntry] then
    goTo .indentlessSequenceEntry
    return ⟨.sequenceStart anchor tag false, start, t.stop⟩
  match t.kind with
  | .scalar value style =>
    popState
    advance
    return ⟨.scalar anchor tag value style, start, t.stop⟩
  | .flowSequenceStart =>
    goTo .flowSequenceFirstEntry
    return ⟨.sequenceStart anchor tag true, start, t.stop⟩
  | .flowMappingStart =>
    goTo .flowMappingFirstKey
    return ⟨.mappingStart anchor tag true, start, t.stop⟩
  | .blockSequenceStart =>
    if block then
      goTo .blockSequenceFirstEntry
      return ⟨.sequenceStart anchor tag false, start, t.stop⟩
  | .blockMappingStart =>
    if block then
      goTo .blockMappingFirstKey
      return ⟨.mappingStart anchor tag false, start, t.stop⟩
  | _ => pure ()
  if !anchor.isEmpty || !tag.isEmpty then
    popState
    return ⟨.scalar anchor tag "" .plain, start, stop⟩
  parseFail start "did not find expected node content" t.start

/-- An entry of a block sequence, or its end. -/
def parseBlockSequenceEntry (first : Bool) : ParseM Event := do
  if first then openCollection
  let t ← token
  if t.isAny [.blockEntry] then
    advance
    let n ← token
    if !n.isAny [.blockEntry, .blockEnd] then
      pushState .blockSequenceEntry
      parseNode true false
    else
      goTo .blockSequenceEntry
      return emptyScalar t.stop
  else if t.isAny [.blockEnd] then
    popState
    let _ ← popMark
    advance
    return ⟨.sequenceEnd, t.start, t.stop⟩
  else
    let m ← popMark
    parseFail m "did not find expected '-' indicator" t.start

/-- An entry of an indentless sequence, or its end at any other token. -/
def parseIndentlessSequenceEntry : ParseM Event := do
  let t ← token
  if t.isAny [.blockEntry] then
    advance
    let n ← token
    if !n.isAny [.blockEntry, .key, .value, .blockEnd] then
      pushState .indentlessSequenceEntry
      parseNode true false
    else
      goTo .indentlessSequenceEntry
      return emptyScalar t.stop
  else
    popState
    return ⟨.sequenceEnd, t.start, t.start⟩

/-- A key of a block mapping, or its end. -/
def parseBlockMappingKey (first : Bool) : ParseM Event := do
  if first then openCollection
  let t ← token
  if t.isAny [.key] then
    advance
    let n ← token
    if !n.isAny [.key, .value, .blockEnd] then
      pushState .blockMappingValue
      parseNode true true
    else
      goTo .blockMappingValue
      return emptyScalar t.stop
  else if t.isAny [.blockEnd] then
    popState
    let _ ← popMark
    advance
    return ⟨.mappingEnd, t.start, t.stop⟩
  else
    let m ← popMark
    parseFail m "did not find expected key" t.start

/-- A value of a block mapping, empty when no `:` follows the key. -/
def parseBlockMappingValue : ParseM Event := do
  let t ← token
  if t.isAny [.value] then
    advance
    let n ← token
    if !n.isAny [.key, .value, .blockEnd] then
      pushState .blockMappingKey
      parseNode true true
    else
      goTo .blockMappingKey
      return emptyScalar t.stop
  else
    goTo .blockMappingKey
    return emptyScalar t.start

/-- An entry of a flow sequence, or its end; `key: value` inside it is a one-pair mapping. -/
def parseFlowSequenceEntry (first : Bool) : ParseM Event := do
  if first then openCollection
  let mut t ← token
  if !t.isAny [.flowSequenceEnd] then
    if !first then
      if t.isAny [.flowEntry] then
        advance
        t ← token
      else
        let m ← popMark
        parseFail m "did not find expected ',' or ']'" t.start
    if t.isAny [.key] then
      goTo .flowSequenceEntryMappingKey
      advance
      return ⟨.mappingStart "" "" true, t.start, t.stop⟩
    else if !t.isAny [.flowSequenceEnd] then
      pushState .flowSequenceEntry
      return ← parseNode false false
  popState
  let _ ← popMark
  advance
  return ⟨.sequenceEnd, t.start, t.stop⟩

/-- The key of a one-pair mapping inside a flow sequence. -/
def parseFlowSequenceEntryMappingKey : ParseM Event := do
  let t ← token
  if !t.isAny [.value, .flowEntry, .flowSequenceEnd] then
    pushState .flowSequenceEntryMappingValue
    parseNode false false
  else
    advance
    goTo .flowSequenceEntryMappingValue
    return emptyScalar t.stop

/-- The value of a one-pair mapping inside a flow sequence. -/
def parseFlowSequenceEntryMappingValue : ParseM Event := do
  let t ← token
  if t.isAny [.value] then
    advance
    let n ← token
    if !n.isAny [.flowEntry, .flowSequenceEnd] then
      pushState .flowSequenceEntryMappingEnd
      return ← parseNode false false
  goTo .flowSequenceEntryMappingEnd
  return emptyScalar t.start

/-- The end of a one-pair mapping inside a flow sequence. -/
def parseFlowSequenceEntryMappingEnd : ParseM Event := do
  let t ← token
  goTo .flowSequenceEntry
  return ⟨.mappingEnd, t.start, t.start⟩

/-- A key of a flow mapping, or its end. -/
def parseFlowMappingKey (first : Bool) : ParseM Event := do
  if first then openCollection
  let mut t ← token
  if !t.isAny [.flowMappingEnd] then
    if !first then
      if t.isAny [.flowEntry] then
        advance
        t ← token
      else
        let m ← popMark
        parseFail m "did not find expected ',' or '\x7d'" t.start
    if t.isAny [.key] then
      advance
      let n ← token
      if !n.isAny [.value, .flowEntry, .flowMappingEnd] then
        pushState .flowMappingValue
        return ← parseNode false false
      else
        goTo .flowMappingValue
        return emptyScalar n.start
    else if !t.isAny [.flowMappingEnd] then
      pushState .flowMappingEmptyValue
      return ← parseNode false false
  popState
  let _ ← popMark
  advance
  return ⟨.mappingEnd, t.start, t.stop⟩

/-- A value of a flow mapping; empty after a key with no `:`. -/
def parseFlowMappingValue (empty : Bool) : ParseM Event := do
  let t ← token
  if empty then
    goTo .flowMappingKey
    return emptyScalar t.start
  if t.isAny [.value] then
    advance
    let n ← token
    if !n.isAny [.flowEntry, .flowMappingEnd] then
      pushState .flowMappingKey
      return ← parseNode false false
    goTo .flowMappingKey
    return emptyScalar n.start
  goTo .flowMappingKey
  return emptyScalar t.start

/-- The next event. -/
def nextEvent : ParseM Event := do
  match (← get).state with
  | .streamStart =>
    let t ← token
    if !t.isAny [.streamStart] then
      parseFail Mark.origin "did not find expected <stream-start>" t.start
    goTo .implicitDocumentStart
    advance
    return ⟨.streamStart, t.start, t.stop⟩
  | .implicitDocumentStart => parseDocumentStart true
  | .documentStart => parseDocumentStart false
  | .documentContent => parseDocumentContent (parseNode true false)
  | .documentEnd => parseDocumentEnd
  | .blockNode => parseNode true false
  | .blockNodeOrIndentlessSequence => parseNode true true
  | .flowNode => parseNode false false
  | .blockSequenceFirstEntry => parseBlockSequenceEntry true
  | .blockSequenceEntry => parseBlockSequenceEntry false
  | .indentlessSequenceEntry => parseIndentlessSequenceEntry
  | .blockMappingFirstKey => parseBlockMappingKey true
  | .blockMappingKey => parseBlockMappingKey false
  | .blockMappingValue => parseBlockMappingValue
  | .flowSequenceFirstEntry => parseFlowSequenceEntry true
  | .flowSequenceEntry => parseFlowSequenceEntry false
  | .flowSequenceEntryMappingKey => parseFlowSequenceEntryMappingKey
  | .flowSequenceEntryMappingValue => parseFlowSequenceEntryMappingValue
  | .flowSequenceEntryMappingEnd => parseFlowSequenceEntryMappingEnd
  | .flowMappingFirstKey => parseFlowMappingKey true
  | .flowMappingKey => parseFlowMappingKey false
  | .flowMappingValue => parseFlowMappingValue false
  | .flowMappingEmptyValue => parseFlowMappingValue true
  | .finished =>
    let m := (← get).scanner.mark
    return ⟨.streamEnd, m, m⟩

end Yaml
end KernelSynth
