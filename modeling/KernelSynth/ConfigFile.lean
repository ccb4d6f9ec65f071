/-
# Configuration files

A configuration file is YAML: its first document, a mapping, sets options
over a base. Keys the file leaves out keep the base's values; the keys are

  `num_kernels`, `num_buffers`, `num_captures`, `dimensions`, `loopnests`
  (integers), `type` (a string), `mix`, `templated` (a truth value) and
  `operations` (a map from opcodes to templates).

Any other key is a type error. `mix` is either a mix in its text form,
which must read (its entry errors are reported as they are), or a list of
mappings with `op` and `count`, other keys in them ignored; a null mix is
the empty mix. The operations of the file are added to a copy of the base's.

A file with no document gives the base. A file that is not YAML, or whose
values do not fit, fails with the reader's message; type errors are listed
together, one per line. A merge into a mapping with a key that is itself a
mapping or a list crashes the run.

Key definitions: `ConfigFile.Draft`, `ConfigFile.decode`, `Options.overlay`,
`Options.load`.
-/
import KernelSynth.Yaml.Decode
import KernelSynth.Config
import KernelSynth.Volume

namespace KernelSynth
namespace ConfigFile

open Yaml

/-- Options as decoding fills them; `operations` is none while the map is null. -/
structure Draft where
  kernels : Int
  buffers : Int
  captures : Int
  dimensions : Int
  loopNests : Int
  scalar : String
  mix : Mix
  templated : Bool
  operations : Option (List (String × String))

/-- The draft of options; no operations is a null map. -/
def Draft.ofOptions (o : Options) : Draft :=
  ⟨o.kernels, o.buffers, o.captures, o.dimensions, o.loopNests, o.scalar, o.mix, o.templated,
    if o.operations.isEmpty then none else some o.operations⟩

/-- The options a draft holds. -/
def Draft.toOptions (d : Draft) : Options :=
  ⟨d.kernels, d.buffers, d.captures, d.dimensions, d.loopNests, d.scalar, d.mix, d.templated,
    d.operations.getD []⟩

/-- A map with a key set, in place if it is there. -/
def setKey (m : List (String × String)) (k v : String) : List (String × String) :=
  if m.any (·.1 = k) then m.map fun p => if p.1 = k then (k, v) else p else m ++ [(k, v)]

/-- The fields of a mapping filled into a record: each key read as a string, the merge key
set aside, keys already set by a merge skipped, a field set twice or (when unknown fields are
errors) a field the record lacks recorded. Gives the record and the merge key's value. -/
def fieldsInto (typeName : String) (names : List String) (setField : String → Nat → α → DecodeM α)
    (n : Node) (cur : α) : DecodeM (α × Option Nat) := do
  let outer := (← get).merged
  modify fun d => { d with merged := none }
  let mut merged := outer
  let mut out := cur
  let mut done : List String := []
  let mut source : Option Nat := none
  for (k, v) in pairs n.children do
    let kn ← nodeAt k
    if isMergeKey kn then
      source := some v
      continue
    let (ok, name) ← stringInto k ""
    if !ok then continue
    let (skip, merged') := claimKey merged (.text name)
    merged := merged'
    if skip then continue
    if names.contains name then
      if done.contains name then
        recordError ("line " ++ toString kn.line ++ ": field " ++ name ++ " already set in type " ++
          typeName)
        continue
      done := name :: done
      out ← setField name v out
    else if (← get).known then
      recordError ("line " ++ toString kn.line ++ ": field " ++ name ++ " not found in type " ++
        typeName)
  modify fun d => { d with merged := merged }
  return (out, source)

/-- A record filled from a node: a mapping's fields, then its merge key. Gives whether it
was filled. -/
def recordInto (typeName : String) (names : List String)
    (setField : String → Nat → α → DecodeM α) (again : Nat → α → DecodeM α) (i : Nat) (cur : α) :
    DecodeM (Bool × α) :=
  viaAlias i fun j => do
    let n ← nodeAt j
    match n.kind with
    | .mapping =>
      if ← duplicateKeys n then return (false, cur)
      let (out, source) ← fieldsInto typeName names setField n cur
      match source with
      | some s => return (true, ← mergeInto n s again out)
      | none => return (true, out)
    | .scalar =>
      let (tag, v) ← scalarValue n
      if v ≠ .null then typeError n tag typeName
      return (false, cur)
    | .sequence =>
      typeError n seqTag typeName
      return (false, cur)
    | .alias => return (false, cur)

/-- Sets a field of a mix entry. -/
def setEntryField (name : String) (v : Nat) (e : MixEntry) : DecodeM MixEntry := do
  if name = "op" then
    let (_, s) ← stringInto v e.opcode
    return { e with opcode := s }
  else
    let (_, c) ← intInto v e.count
    return { e with count := c }

/-- A mix entry from a node, merges at most `fuel` deep. -/
def entryInto : Nat → Nat → MixEntry → DecodeM (Bool × MixEntry)
  | 0, _, cur => return (false, cur)
  | fuel + 1, i, cur =>
    recordInto "builder.MixEntry" ["op", "count"] setEntryField
      (fun k c => do return (← entryInto fuel k c).2) i cur

/-- A list of mix entries from a node that is not an alias: entries that do not fit are left
out; a null is the empty list. -/
def entriesAt (fuel : Nat) (typeName : String) (j : Nat) (cur : Mix) : DecodeM (Bool × Mix) := do
  let n ← nodeAt j
  match n.kind with
  | .sequence =>
    let mut items : Mix := []
    for c in n.children do
      let (ok, e) ← entryInto fuel c ⟨"", 0⟩
      if ok then items := items ++ [e]
    return (true, items)
  | .scalar =>
    let (tag, v) ← scalarValue n
    if v = .null then return (true, [])
    typeError n tag typeName
    return (false, cur)
  | _ =>
    collectionMisfit n typeName
    return (false, cur)

/-- A mix from a node: a scalar is the text form; a list is read by a fresh decoder that
ignores unknown keys and counts nodes afresh, its type errors added to these; a null tag
decodes as a plain list. -/
def mixInto (fuel : Nat) (i : Nat) (cur : Mix) : DecodeM (Bool × Mix) :=
  viaAlias i fun j => do
    let n ← nodeAt j
    if (← shortTagAt j) = nullTag then return ← entriesAt fuel "builder.Mix" j cur
    if n.kind = .scalar then
      match h : Mix.parse n.value with
      | .ok m => return (true, m)
      | .error es => throw (.refused ⟨n.value, es, h⟩)
    let saved ← get
    set { saved with
      known := false, errors := #[], active := [], merged := none, decoded := 0, aliased := 0
      depth := 0 }
    let (_, entries) ← viaAlias j (entriesAt fuel "[]builder.MixEntry" · [])
    let inner ← get
    set { saved with errors := saved.errors ++ inner.errors }
    if inner.errors.isEmpty then return (true, entries) else return (false, cur)

/-- The pairs of an operations mapping set into a map: each pair whose key and value are
strings is set; a null value is set as empty text when the map is new or lacks the key; a key
that a merge has already set is passed over. Gives the keys set with these, the map, and the
merge key's value. -/
def operationPairs (fresh : Bool) (ps : List (Nat × Nat)) (merged : Option (List Atom))
    (m : List (String × String)) :
    DecodeM (Option (List Atom) × List (String × String) × Option Nat) := do
  let mut merged := merged
  let mut m := m
  let mut source : Option Nat := none
  for (k, v) in ps do
    if isMergeKey (← nodeAt k) then
      source := some v
      continue
    let (ok, key) ← stringInto k ""
    if !ok then continue
    let (skip, merged') := claimKey merged (.text key)
    merged := merged'
    if skip then continue
    let (set, value) ← stringInto v ""
    let null := (← shortTagAt v) = nullTag
    if set || (null && (fresh || !m.any (·.1 = key))) then m := setKey m key value
  return (merged, m, source)

/-- A map of operations from a node: its pairs set into the map, then its merge key's. -/
def operationsInto : Nat → Nat → Option (List (String × String)) →
    DecodeM (Bool × Option (List (String × String)))
  | 0, _, cur => return (false, cur)
  | fuel + 1, i, cur =>
    viaAlias i fun j => do
      let n ← nodeAt j
      match n.kind with
      | .mapping =>
        if ← duplicateKeys n then return (false, cur)
        let outer := (← get).merged
        modify fun d => { d with merged := none }
        let (merged, m, source) ← operationPairs cur.isNone (pairs n.children) outer (cur.getD [])
        modify fun d => { d with merged := merged }
        match source with
        | some s =>
          return (true, ← mergeInto n s (fun k c => do return (← operationsInto fuel k c).2) (some m))
        | none => return (true, some m)
      | .scalar =>
        let (tag, v) ← scalarValue n
        if v = .null then return (true, none)
        typeError n tag "map[string]string"
        return (false, cur)
      | .sequence =>
        typeError n seqTag "map[string]string"
        return (false, cur)
      | .alias => return (false, cur)

/-- The keys of a configuration file. -/
def optionKeys : List String :=
  ["num_kernels", "num_buffers", "num_captures", "dimensions", "loopnests", "type", "mix",
    "templated", "operations"]

/-- Sets an option from a node. -/
def setOption (fuel : Nat) (name : String) (v : Nat) (d : Draft) : DecodeM Draft := do
  if name = "num_kernels" then return { d with kernels := (← intInto v d.kernels).2 }
  else if name = "num_buffers" then return { d with buffers := (← intInto v d.buffers).2 }
  else if name = "num_captures" then return { d with captures := (← intInto v d.captures).2 }
  else if name = "dimensions" then return { d with dimensions := (← intInto v d.dimensions).2 }
  else if name = "loopnests" then return { d with loopNests := (← intInto v d.loopNests).2 }
  else if name = "type" then return { d with scalar := (← stringInto v d.scalar).2 }
  else if name = "mix" then return { d with mix := (← mixInto fuel v d.mix).2 }
  else if name = "templated" then return { d with templated := (← boolInto v d.templated).2 }
  else return { d with operations := (← operationsInto fuel v d.operations).2 }

/-- Options from a node, merges at most `fuel` deep. -/
def optionsInto : Nat → Nat → Draft → DecodeM (Bool × Draft)
  | 0, _, cur => return (false, cur)
  | fuel + 1, i, cur =>
    recordInto "builder.Options" optionKeys (setOption fuel)
      (fun k c => do return (← optionsInto fuel k c).2) i cur

/-- The draft a document sets over a base, with the type errors met; or why decoding
stopped. The document itself counts as the first node decoded. -/
def decode (doc : Document) (base : Options) : Except Stop (Draft × Array String) :=
  let fuel := doc.nodes.size + 1
  match ((optionsInto fuel doc.root (Draft.ofOptions base)).run doc).run
      ⟨true, #[], [], none, 1, 0, 0, 0⟩ with
  | .ok ((_, d), st) => .ok (d, st.errors)
  | .error s => .error s

end ConfigFile

/-- The options a configuration file's text sets over a base; `path` names the file in
messages. -/
def Options.overlay (path text : String) (base : Options) : Except Fault Options :=
  match Yaml.firstDocument text with
  | .error h => .error (.unreadableConfig path h.message)
  | .ok none => .ok base
  | .ok (some doc) =>
    match ConfigFile.decode doc base with
    | .error (.halt h) => .error (.unreadableConfig path h.message)
    | .error (.refused r) => .error (.configMix path r.entries)
    | .error (.unhashable t unprobed) => .error (.unhashableKey t unprobed)
    | .ok (d, errs) =>
      if errs.isEmpty then .ok d.toOptions
      else .error (.unreadableConfig path
        ("yaml: unmarshal errors:\n  " ++ "\n  ".intercalate errs.toList))

/-- The options the configuration file at a path of a volume sets over a base. -/
def Options.load (v : Volume) (path : String) (base : Options) : Except Fault Options := do
  let text ← v.read path
  Options.overlay path text base

end KernelSynth
