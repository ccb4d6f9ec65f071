/-
# Decoding nodes into typed values

Decoding walks a composed document along the shape of the value it fills:
records with named fields, maps from strings to strings, lists, integers,
strings and truth values. It follows aliases to the nodes they name (an alias
met again while its own node is being decoded stops reading).

A node that does not fit its place is a type error: it is recorded, with its
line, and decoding goes on with the rest; the errors are reported together at
the end. A type error names the node's tag, its text cut to seven bytes and
`...` when longer than ten (none for a collection), and the type of the place.

* A null fills nothing: a field keeps its value, a list or map becomes
  empty.
* An integer place takes an integer, or a float at most `2^63`, truncated.
* A string place takes any scalar's text (decoded, for `!!binary`).
* A truth value takes `true` and `false`, and the strings `y`, `yes`, `on`,
  `n`, `no`, `off` in their usual spellings.
* A mapping is first checked for keys written twice: each repeat is a type
  error and the mapping fills nothing.
* A merge key `<<` takes the pairs of a mapping, or of a list of mappings
  (earlier ones first), that the mapping itself does not set.
* Every node decoded is counted, and so is every node decoded through an
  alias; when more than 1000 nodes have been decoded, more than 100 of them
  through aliases, and the share through aliases passes the allowance (99%
  for documents of up to 400,000 nodes), reading stops.

Key definitions: `Yaml.Decoder`, `Yaml.DecodeM`, `Yaml.viaAlias`, `Yaml.typeError`,
`Yaml.intOf`, `Yaml.stringOf`, `Yaml.boolOf`, `Yaml.duplicateKeys`, `Yaml.mergeInto`.
-/
import KernelSynth.Yaml.Node
import KernelSynth.Yaml.Dynamic
import KernelSynth.Text.Base64
import KernelSynth.Fault
import KernelSynth.Mix

namespace KernelSynth
namespace Yaml

/-- A mix text that a value refused, with the entry errors that reading it gives. -/
structure Refusal where
  text : String
  entries : List EntryError
  read : Mix.parse text = .error entries

/-- Why decoding stops early: reading stopped, a mix text refused itself with its own
errors, or a collection had to be hashed (or was looked up among no keys, `unprobed`). -/
inductive Stop where
  | halt (h : Halt)
  | refused (r : Refusal)
  | unhashable (typeName : String) (unprobed : Bool)

/-- The state of decoding: whether unknown fields are errors, the type errors so far, the
aliases being decoded, the keys already set while a merge is under way, the count of nodes
decoded, of those decoded through an alias, and of aliases open, and the count of zones made
for one time. -/
structure Decoder where
  known : Bool
  errors : Array String
  active : List Nat
  merged : Option (List Atom)
  decoded : Nat
  aliased : Nat
  depth : Nat
  zonesMade : Nat

/-- Decoding steps: they read the document, which never changes, and update the decoder. -/
abbrev DecodeM := ReaderT Document (StateT Decoder (Except Stop))

/-- Stops reading. -/
def halt (h : Halt) : DecodeM α := throw (.halt h)

/-- A node of a document; an index past its nodes names the default node. -/
def Document.node (doc : Document) (i : Nat) : Node := doc.nodes.getD i default

/-- A node of the document. -/
def nodeAt (i : Nat) : DecodeM Node := do return (← read).node i

/-- Records a type error. -/
def recordError (text : String) : DecodeM Unit :=
  modify fun d => { d with errors := d.errors.push text }

/-- The first `n` bytes of text, the bytes of a character cut in two each held as itself. -/
def takeBytes (n : Nat) (s : String) : String := Text.ofBytes ((Text.bytes s).take n)

/-- Records that a node does not fit a place of the named type. Under a sequence or mapping
tag the node's text (empty for a collection) follows the tag as it is; otherwise it is quoted,
cut to seven bytes when longer than ten. -/
def typeError (n : Node) (tag typeName : String) : DecodeM Unit := do
  let tag := if n.tag ≠ "" then n.tag else tag
  let size := (Text.bytes n.value).length
  let shown :=
    if tag = seqTag ∨ tag = mapTag then n.value
    else if size > 10 then " \x60" ++ takeBytes 7 n.value ++ "...\x60"
    else " \x60" ++ n.value ++ "\x60"
  recordError ("line " ++ toString n.line ++ ": cannot unmarshal " ++ shortTag tag ++ shown ++
    " into " ++ typeName)

/-- The share of the nodes decoded that may be decoded through aliases, after `decoded`
nodes: 99% up to 400,000 nodes, 10% from 4,000,000, falling evenly in between; worked out in
doubles. -/
def aliasAllowance (decoded : Nat) : Float :=
  if decoded ≤ 400000 then 0.99
  else if 4000000 ≤ decoded then 0.10
  else 0.99 - 0.89 * (Float.ofNat (decoded - 400000) / 3600000.0)

/-- Whether aliases make up too much of the decoding: more than 100 nodes through aliases,
more than 1000 in all, and a share through aliases over the allowance. -/
def tooAliased (aliased decoded : Nat) : Bool :=
  100 < aliased && 1000 < decoded &&
    aliasAllowance decoded < Float.ofNat aliased / Float.ofNat decoded

/-- Counts a node about to be decoded, as one through an alias while an alias is open; stops
when aliases make up too much of the decoding. -/
def countNode : DecodeM Unit := do
  modify fun d =>
    { d with decoded := d.decoded + 1, aliased := if 0 < d.depth then d.aliased + 1 else d.aliased }
  let d ← get
  if tooAliased d.aliased d.decoded then halt .excessiveAliasing

/-- Decodes the node an index names, through an alias to the node it names; each of the two
is counted. -/
def viaAlias (i : Nat) (k : Nat → DecodeM α) : DecodeM α := do
  countNode
  let n ← nodeAt i
  if n.kind = .alias then
    if (← get).active.contains i then halt (.containsItself n.value)
    modify fun d => { d with active := i :: d.active, depth := d.depth + 1 }
    countNode
    let r ← k n.target
    modify fun d => { d with active := d.active.erase i, depth := d.depth - 1 }
    return r
  else k i

/-- Whether a scalar is a string by how it is written: tagged `!!str`, or quoted or a block
scalar without a tag. -/
def Node.indicatedString (n : Node) : Bool :=
  n.kind = .scalar &&
    (shortTag n.tag = strTag || ((n.tag = "" || n.tag = "!") && n.style ≠ .plain))

/-- The tag of a node as decoding sees it; an alias has the tag of the node it names. -/
def Document.shortTagOf (doc : Document) (i : Nat) : String :=
  let n := doc.node i
  let n := if n.kind = .alias then doc.node n.target else n
  if n.indicatedString then strTag
  else if n.tag = "" || n.tag = "!" then
    match n.kind with
    | .mapping => mapTag
    | .sequence => seqTag
    | .scalar => plainTag n.value
    | .alias => ""
  else shortTag n.tag

/-- The tag of a node of the document as decoding sees it. -/
def shortTagAt (i : Nat) : DecodeM String := do return (← read).shortTagOf i

/-- The tag and value of a scalar, or why it has none; `!!binary` text is decoded. -/
def Node.scalarValue? (n : Node) : Except Halt (String × Value) :=
  if n.indicatedString then .ok (strTag, .text n.value)
  else
    match resolve n.tag n.value with
    | .error h => .error h
    | .ok (tag, v) =>
      if tag = binaryTag then
        match v with
        | .text s =>
          match Text.decodeBase64? s with
          | some bytes => .ok (tag, .text (Text.ofBytes bytes))
          | none => .error .badBinary
        | _ => .ok (tag, v)
      else .ok (tag, v)

/-- The tag and value of a scalar; reading stops when it has none. -/
def scalarValue (n : Node) : DecodeM (String × Value) :=
  match n.scalarValue? with
  | .ok r => return r
  | .error h => halt h

/-- The pairs of a mapping's children. -/
def pairs : List Nat → List (Nat × Nat)
  | k :: v :: rest => (k, v) :: pairs rest
  | _ => []

/-- Records every key of a mapping written again after an equal one; whether there was one. -/
def duplicateKeys (n : Node) : DecodeM Bool := do
  let keys := (pairs n.children).map (·.1)
  let mut found := false
  for i in keys do
    let ni ← nodeAt i
    for j in keys.drop ((keys.idxOf i) + 1) do
      let nj ← nodeAt j
      if ni.kind = nj.kind && ni.value = nj.value then
        recordError ("line " ++ toString nj.line ++ ": mapping key " ++ Text.quote nj.value ++
          " already defined at line " ++ toString ni.line)
        found := true
  return found

/-- A non-scalar node in a scalar place: a type error, after the check of a mapping's keys. -/
def collectionMisfit (n : Node) (typeName : String) : DecodeM Unit := do
  match n.kind with
  | .mapping => if !(← duplicateKeys n) then typeError n mapTag typeName
  | .sequence => typeError n seqTag typeName
  | _ => pure ()

/-- A scalar place filled from a node through the given conversion of scalars. -/
def scalarInto (convert : Node → α → DecodeM (Bool × α)) (typeName : String) (i : Nat) (cur : α) :
    DecodeM (Bool × α) :=
  viaAlias i fun j => do
    let n ← nodeAt j
    if n.kind = .scalar then convert n cur
    else
      collectionMisfit n typeName
      return (false, cur)

/-- An integer from a scalar: an integer, or a float at most `2^63` truncated. -/
def intOf (n : Node) (cur : Int) : DecodeM (Bool × Int) := do
  let (tag, v) ← scalarValue n
  match v with
  | .null => return (false, cur)
  | .int k => return (true, k)
  | .float x =>
    match x.toWord? with
    | some w => return (true, w)
    | none =>
      typeError n tag "int"
      return (false, cur)
  | _ =>
    typeError n tag "int"
    return (false, cur)

/-- A string from a scalar: its text, decoded for `!!binary`. -/
def stringOf (n : Node) (cur : String) : DecodeM (Bool × String) := do
  let (_, v) ← scalarValue n
  match v with
  | .null => return (false, cur)
  | .text s => return (true, s)
  | _ => return (true, n.value)

/-- The strings read as true where a truth value is wanted. -/
def yesWords : List String := ["y", "Y", "yes", "Yes", "YES", "on", "On", "ON"]

/-- The strings read as false where a truth value is wanted. -/
def noWords : List String := ["n", "N", "no", "No", "NO", "off", "Off", "OFF"]

/-- A truth value from a scalar. -/
def boolOf (n : Node) (cur : Bool) : DecodeM (Bool × Bool) := do
  let (tag, v) ← scalarValue n
  match v with
  | .null => return (false, cur)
  | .bool b => return (true, b)
  | .text s =>
    if yesWords.contains s then return (true, true)
    else if noWords.contains s then return (true, false)
    else
      typeError n tag "bool"
      return (false, cur)
  | _ =>
    typeError n tag "bool"
    return (false, cur)

/-- An integer place. -/
def intInto : Nat → Int → DecodeM (Bool × Int) := scalarInto intOf "int"

/-- A string place. -/
def stringInto : Nat → String → DecodeM (Bool × String) := scalarInto stringOf "string"

/-- A truth-value place. -/
def boolInto : Nat → Bool → DecodeM (Bool × Bool) := scalarInto boolOf "bool"

/-- Whether a key is the merge key `<<`. -/
def isMergeKey (n : Node) : Bool :=
  n.kind = .scalar && n.value = "<<" && (n.tag = "" || n.tag = "!" || shortTag n.tag = mergeTag)

/-- A scalar's value as a value of any type: a timestamp is a time, located by its zone; a
zone made for this time alone is numbered after those made before. -/
def atomOf : Value → DecodeM Atom
  | .null => return .null
  | .bool b => return .bool b
  | .int k => return .int k
  | .uint k => return .uint k
  | .float x => return .float x
  | .text s => return .text s
  | .timestamp t => do
    let location := Location.ofOffset (← get).zonesMade t.offset
    if location.isMade then modify fun d => { d with zonesMade := d.zonesMade + 1 }
    return .time ⟨t, location⟩

/-- Adds a key to the keys a merge has set, after looking it up when `lookup`; gives whether it
was there already. A collection cannot be hashed and stops the run; looked up among no keys at
all, it is refused before hashing. -/
def hashKey (lookup : Bool) (set : List Atom) : Loose → DecodeM (Bool × List Atom)
  | .atom a => return if set.any (·.same a) then (true, set) else (false, set ++ [a])
  | other => throw (.unhashable other.typeName (lookup && set.isEmpty))

/-- Decodes a node where a value of any type will do, at most `fuel` deep, into the table
`into` when a merge fills one; none when the node does not decode (a mapping with a key written
twice). While a merge is under way, the keys of a mapping met first join the keys it has set
and a key already there is passed over. A mapping is a table of strings when all its keys are
strings; a key of a general table that is a collection is refused. -/
def looseInto : Nat → Option (Bool × List (Atom × Loose)) → Nat → DecodeM (Option Loose)
  | 0, _, _ => return none
  | fuel + 1, into, i => viaAlias i fun j => do
    let n ← nodeAt j
    match n.kind with
    | .scalar =>
      let (_, v) ← scalarValue n
      return some (.atom (← atomOf v))
    | .sequence =>
      let mut items : List Loose := []
      for c in n.children do
        if let some x ← looseInto fuel none c then items := items ++ [x]
      return some (.list items)
    | .alias => return none
    | .mapping =>
      if ← duplicateKeys n then return none
      let mut general := false
      for (k, _) in pairs n.children do
        let t ← shortTagAt k
        if t ≠ strTag ∧ t ≠ mergeTag then general := true
      let mut entries : List (Atom × Loose) := []
      if let some (g, es) := into then
        general := g
        entries := es
      let outer := (← get).merged
      modify fun d => { d with merged := none }
      let mut set := outer
      let mut source : Option Nat := none
      for (k, v) in pairs n.children do
        if isMergeKey (← nodeAt k) then
          source := some v
          continue
        let key? ← if general then looseInto fuel none k else do
          let (ok, s) ← stringInto k ""
          pure (if ok then some (Loose.atom (.text s)) else none)
        let some key := key? | continue
        if let some ks := set then
          let (seen, ks') ← hashKey true ks key
          set := some ks'
          if seen then continue
        match key with
        | .atom m =>
          if let some val ← looseInto fuel none v then entries := setEntry entries m val
        | other => halt (.invalidMapKey other.goSyntax)
      modify fun d => { d with merged := set }
      let some s := source | return some (.table general entries)
      let saved := (← get).merged
      if saved.isNone then
        modify fun d => { d with merged := some [] }
        for (k, _) in pairs n.children do
          if let some r ← looseInto fuel none k then
            let (_, ks) ← hashKey false ((← get).merged.getD []) r
            modify fun d => { d with merged := some ks }
      let sn ← nodeAt s
      let items ← match sn.kind with
        | .sequence => pure sn.children
        | _ => pure [s]
      for item in items do
        let m ← nodeAt item
        let target ← if m.kind = .alias then nodeAt m.target else pure m
        if target.kind ≠ .mapping then halt .mergeWantsMap
        if let some (.table _ es) ← looseInto fuel (some (general, entries)) item then
          entries := es
      modify fun d => { d with merged := saved }
      return some (.table general entries)

/-- Starts the keys a merge has set, unless a merge is already under way: every key of the
mapping merged into, decoded as a value of any type. Gives the keys set before. -/
def seedKeys (parent : Node) : DecodeM (Option (List Atom)) := do
  let saved := (← get).merged
  if saved.isNone then
    let fuel := (← read).nodes.size + 1
    modify fun d => { d with merged := some [] }
    for (k, _) in pairs parent.children do
      if let some r ← looseInto fuel none k then
        let (_, ks) ← hashKey false ((← get).merged.getD []) r
        modify fun d => { d with merged := some ks }
  return saved

/-- Whether a key already set stops a merged pair, and the keys set with this one. -/
def claimKey (merged : Option (List Atom)) (key : Atom) : Bool × Option (List Atom) :=
  match merged with
  | none => (false, none)
  | some ks => if ks.any (·.same key) then (true, merged) else (false, some (ks ++ [key]))

/-- Applies a merge key's value to a mapping: its keys, decoded as values of any type, are set
first; then the mapping or mappings merged, earlier ones first, each through `apply`. -/
def mergeInto (parent : Node) (source : Nat) (apply : Nat → α → DecodeM α) (cur : α) :
    DecodeM α := do
  let saved ← seedKeys parent
  let s ← nodeAt source
  let mut out := cur
  match s.kind with
  | .mapping => out ← apply source out
  | .alias =>
    if (← nodeAt s.target).kind ≠ .mapping then halt .mergeWantsMap
    out ← apply source out
  | .sequence =>
    for item in s.children do
      let n ← nodeAt item
      if n.kind = .alias then
        if (← nodeAt n.target).kind ≠ .mapping then halt .mergeWantsMap
      else if n.kind ≠ .mapping then halt .mergeWantsMap
      out ← apply item out
  | .scalar => halt .mergeWantsMap
  modify fun d => { d with merged := saved }
  return out

end Yaml
end KernelSynth
