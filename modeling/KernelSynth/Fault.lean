/-
# Why a configuration is refused

`Fault` lists the causes for which options, operation templates, output
settings, a configuration file or a command line are refused, each with the values its
message needs; `Fault.message` holds all the wording. Most causes are
configuration errors and their message starts with `configuration error: `;
the others name the operation or mix entry at fault. `Fault.errorClass`
sorts them: an unknown operation, a malformed mix entry, another
configuration error, a general failure (a configuration file that cannot
be read, a command line that does not parse), or a crash, where the run stops
at once instead of reporting an error.

Several faults found together are reported together, in the order they were
found: `Failure` is that non-empty list, read as one message by joining the
parts with `; `.

Key definitions: `EntryFault`, `EntryError`, `CommandProblem`, `Fault`, `Fault.message`,
`Fault.errorClass`, `Failure`.
-/
import KernelSynth.Text.Quoted

namespace KernelSynth

/-- Why one mix entry cannot be read. -/
inductive EntryFault where
  /-- The entry is not an opcode and a count around one colon. -/
  | shape
  /-- The opcode is blank. -/
  | noOpcode
  /-- The count is not a decimal integer of a 64-bit word. -/
  | notInteger
  /-- The count is below zero. -/
  | negative
  deriving DecidableEq, Repr

/-- The reason a malformed entry gives. -/
def EntryFault.reason : EntryFault → String
  | .shape => "want op:count"
  | .noOpcode => "missing opcode"
  | .notInteger => "count is not an integer"
  | .negative => "count is negative"

/-- A mix entry as written, and why it cannot be read. -/
structure EntryError where
  entry : String
  fault : EntryFault
  deriving DecidableEq, Repr

/-- The message of a malformed mix entry. -/
def EntryError.message (e : EntryError) : String :=
  "malformed mix entry " ++ Text.quote e.entry ++ ": " ++ e.fault.reason

/-- The messages of several faults, read as one. -/
def joinMessages (ms : List String) : String := "; ".intercalate ms

/-- Why a command line does not parse. -/
inductive CommandProblem where
  /-- A long flag the command does not have. -/
  | unknownFlag (name : String)
  /-- A shorthand the command does not have, in the rest of its group. -/
  | unknownShorthand (c : Char) (group : String)
  /-- A long flag, as written, that needs a value and has none. -/
  | needsValue (arg : String)
  /-- A shorthand that needs a value and has none, in the rest of its group. -/
  | needsShortValue (c : Char) (group : String)
  /-- An argument that starts with three dashes or a dash and an equals sign. -/
  | badSyntax (arg : String)
  /-- A value its flag cannot take: the value, the flag as shown, and why. -/
  | invalidValue (value flag detail : String)
  /-- An argument that is not a flag, for a command that takes none. -/
  | unknownCommand (arg command : String)
  /-- Fewer arguments than a command takes. -/
  | tooFewArguments (least received : Nat)
  deriving DecidableEq, Repr

/-- The text of a command-line problem. -/
def CommandProblem.message : CommandProblem → String
  | .unknownFlag n => "unknown flag: --" ++ n
  | .unknownShorthand c g => "unknown shorthand flag: " ++ Text.quoteRune c ++ " in -" ++ g
  | .needsValue a => "flag needs an argument: " ++ a
  | .needsShortValue c g => "flag needs an argument: " ++ Text.quoteRune c ++ " in -" ++ g
  | .badSyntax a => "bad flag syntax: " ++ a
  | .invalidValue v f d =>
    "invalid argument " ++ Text.quote v ++ " for " ++ Text.quote f ++ " flag: " ++ d
  | .unknownCommand a c => "unknown command " ++ Text.quote a ++ " for " ++ Text.quote c
  | .tooFewArguments n k =>
    "requires at least " ++ toString n ++ " arg(s), only received " ++ toString k

/-- The causes for which a configuration is refused. -/
inductive Fault where
  /-- An opcode that is empty or holds a colon, comma, space, tab or line feed. -/
  | invalidOpcode (opcode : String)
  /-- An operation template that does not use both `OUT` and `IN1`. -/
  | missingSlots (opcode : String)
  /-- An opcode the catalog does not hold. -/
  | unknownOperation (opcode : String)
  /-- A mix entry that cannot be read. -/
  | malformedEntry (error : EntryError)
  /-- Fewer than one kernel. -/
  | tooFewKernels (requested : Int)
  /-- A negative number of captures. -/
  | negativeCaptures (requested : Int)
  /-- A negative number of loop nests. -/
  | negativeLoopNests (requested : Int)
  /-- A scalar type name that is none of the known ones. -/
  | unknownScalar (name : String)
  /-- A mix entry whose opcode the catalog of a validated configuration lacks. -/
  | unresolvedEntry (entry : String) (opcode : String)
  /-- An empty artifact file name. -/
  | emptyArtifactName
  /-- Both artifacts at the same path. -/
  | sharedArtifactPath (path : String)
  /-- A configuration file that is not there: the path named, and the path looked up, which
  is the cleaned one. -/
  | missingFile (path opened : String)
  /-- A configuration file that does not read as options; `detail` says why. -/
  | unreadableConfig (path : String) (detail : String)
  /-- A configuration file whose mix text does not read. -/
  | configMix (path : String) (entries : List EntryError)
  /-- A mix given on the command line that does not read. -/
  | mixFlag (entries : List EntryError)
  /-- A command line that does not parse. -/
  | commandLine (problem : CommandProblem)
  /-- A collection used where a value must be hashed, as a key of the keys a merge has set:
  the run stops at once. `typeName` is the collection's type; `unprobed` says that it was
  looked up among no keys at all, which refuses it before any hashing. -/
  | unhashableKey (typeName : String) (unprobed : Bool)
  deriving DecidableEq, Repr

/-- The prefix of every configuration error's message. -/
def configurationPrefix : String := "configuration error: "

/-- The text of a fault. -/
def Fault.message : Fault → String
  | .invalidOpcode op => configurationPrefix ++ "invalid opcode " ++ Text.quote op
  | .missingSlots op =>
    configurationPrefix ++ "operation " ++ Text.quote op ++ " must reference OUT and IN1"
  | .unknownOperation op => "unknown operation " ++ Text.quote op
  | .malformedEntry e => e.message
  | .tooFewKernels n =>
    configurationPrefix ++ "num_kernels must be at least 1, got " ++ toString n
  | .negativeCaptures n =>
    configurationPrefix ++ "num_captures must not be negative, got " ++ toString n
  | .negativeLoopNests n =>
    configurationPrefix ++ "loopnests must not be negative, got " ++ toString n
  | .unknownScalar name =>
    configurationPrefix ++ "unknown type " ++ Text.quote name ++ " (want one of int,float,double)"
  | .unresolvedEntry entry op =>
    "failed to resolve mix entry " ++ entry ++ ": unknown operation " ++ Text.quote op
  | .emptyArtifactName => configurationPrefix ++ "artifact file names must not be empty"
  | .sharedArtifactPath p => configurationPrefix ++ "both artifacts would be written to " ++ p
  | .missingFile p o => "failed to read config " ++ p ++ ": open " ++ o ++ ": file does not exist"
  | .unreadableConfig p d => configurationPrefix ++ "failed to parse config " ++ p ++ ": " ++ d
  | .configMix p es =>
    "failed to parse config " ++ p ++ ": " ++ joinMessages (es.map EntryError.message)
  | .mixFlag es => "invalid --mix: " ++ joinMessages (es.map EntryError.message)
  | .commandLine p => p.message
  | .unhashableKey t unprobed =>
    if unprobed then "hash of unhashable type: " ++ t
    else "runtime error: hash of unhashable type " ++ t

/-- How a fault is classed, most specific first. -/
inductive ErrorClass where
  | unknownOperation
  | mixEntry
  | configuration
  | general
  | crash
  deriving DecidableEq, Repr

/-- The class of a fault: an unknown operation, then a malformed mix entry, within it or
wrapped; every other fault but an unreadable file is a configuration error. -/
def Fault.errorClass : Fault → ErrorClass
  | .unknownOperation _ | .unresolvedEntry _ _ => .unknownOperation
  | .malformedEntry _ | .configMix _ _ | .mixFlag _ => .mixEntry
  | .missingFile _ _ | .commandLine _ => .general
  | .unhashableKey _ _ => .crash
  | _ => .configuration

/-- A fault is a configuration error unless it is a general failure or a crash. -/
def Fault.isConfiguration (f : Fault) : Bool :=
  f.errorClass != .general && f.errorClass != .crash

/-- The faults found together, in the order they were found. -/
abbrev Failure := List Fault

/-- The message of a failure: the messages of its faults, joined by `; `. -/
def Failure.message (fs : Failure) : String := joinMessages (fs.map Fault.message)

/-- A failure is a configuration error when one of its faults is. -/
def Failure.isConfiguration (fs : Failure) : Bool := fs.any Fault.isConfiguration

/-- The message of the crash that ended a run, if one did. -/
def Failure.crash? (fs : Failure) : Option String :=
  (fs.find? (·.errorClass = .crash)).map Fault.message

end KernelSynth
