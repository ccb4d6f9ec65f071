/-
# Command-line flags

A command's flags each have a long name, perhaps a one-letter shorthand, a
kind (integer, string or switch), a default and a usage line. `parse` reads
a command line against them:

* `--` ends the flags: every argument after it is an argument;
* an argument that is empty, does not start with a dash, or is a lone dash is
  an argument, and reading goes on;
* `--name=value` sets a flag; `--name` sets a switch to true and takes the
  next argument (whatever it looks like) as the value of any other flag;
  a name starting with a dash or an equals sign is bad syntax;
* `-abc` is a group of shorthands read from the left: a switch is set to
  true and the group goes on; another flag takes `-f=value`, the rest of the
  group, or else the next argument. A group starting `test.` is skipped.

A value is checked when it is set: an integer must be a 64-bit numeral with
an optional base prefix, a switch a truth value; the first problem stops
reading. A flag set twice keeps the last value.

`usages` lists the flags by name, one per line, the usage texts aligned
three spaces after the widest flag column, with the default when it is not
the zero of its kind.

Key definitions: `FlagSpec`, `CommandLine`, `parse`, `CommandLine.lookup`,
`usages`.
-/
import KernelSynth.Fault
import KernelSynth.Text.Numeral

namespace KernelSynth
namespace Cli

/-- What a flag holds. -/
inductive FlagKind where
  | int
  | text
  | switch
  deriving DecidableEq, Repr

/-- A flag: long name, shorthand, kind, default as written, and usage text. -/
structure FlagSpec where
  name : String
  short : Option Char
  kind : FlagKind
  defaultText : String
  usage : String
  deriving Repr

/-- A value set on the command line. -/
inductive FlagValue where
  | int (n : Int)
  | text (s : String)
  | switch (b : Bool)
  deriving DecidableEq, Repr

/-- A command line read: the values set, in order, and the arguments that are not flags. -/
structure CommandLine where
  sets : List (String × FlagValue)
  args : List String
  deriving Repr

namespace FlagSpec

/-- A flag as messages name it: `-s, --name`, or `--name` without a shorthand. -/
def display (f : FlagSpec) : String :=
  match f.short with
  | some c => "-" ++ c.toString ++ ", --" ++ f.name
  | none => "--" ++ f.name

/-- A value read for a flag. -/
def read (f : FlagSpec) (value : String) : Except CommandProblem FlagValue :=
  match f.kind with
  | .int =>
    match Text.readPrefixed true value with
    | .ok n => .ok (.int n)
    | .error e =>
      let why := match e with
        | .malformed => "invalid syntax"
        | .outOfRange => "value out of range"
      .error (.invalidValue value f.display
        ("strconv.ParseInt: parsing " ++ Text.quote value ++ ": " ++ why))
  | .switch =>
    match Text.readFlag? value with
    | some b => .ok (.switch b)
    | none => .error (.invalidValue value f.display
        ("strconv.ParseBool: parsing " ++ Text.quote value ++ ": invalid syntax"))
  | .text => .ok (.text value)

/-- The type word of a flag's value in usage lines; none for a switch. -/
def typeWord (f : FlagSpec) : String :=
  match f.kind with
  | .int => "int"
  | .text => "string"
  | .switch => ""

/-- Whether a flag's default is the zero of its kind. -/
def zeroDefault (f : FlagSpec) : Bool :=
  match f.kind with
  | .int => f.defaultText = "0"
  | .text => f.defaultText = ""
  | .switch => f.defaultText = "false"

end FlagSpec

/-- The flag with a long name. -/
def byName (specs : List FlagSpec) (name : String) : Option FlagSpec :=
  specs.find? (·.name = name)

/-- The flag with a shorthand. -/
def byShort (specs : List FlagSpec) (c : Char) : Option FlagSpec :=
  specs.find? (·.short = some c)

/-- The character a message shows for the first byte of a group: the byte read as a code
point. -/
def firstByteChar (c : Char) : Char :=
  match c.toString.toUTF8.toList with
  | b :: _ => Char.ofNat b.toNat
  | [] => c

/-- Sets a flag from its text. -/
def setFlag (f : FlagSpec) (value : String) (line : CommandLine) :
    Except CommandProblem CommandLine := do
  let v ← f.read value
  pure { line with sets := line.sets ++ [(f.name, v)] }

/-- A long flag `--name` or `--name=value`; gives the arguments left and the line. -/
def parseLong (specs : List FlagSpec) (arg : String) (name : List Char) (rest : List String)
    (line : CommandLine) : Except CommandProblem (List String × CommandLine) :=
  match name with
  | [] | '-' :: _ | '=' :: _ => .error (.badSyntax arg)
  | _ =>
    let key := String.ofList (name.takeWhile (· ≠ '='))
    let given := match name.dropWhile (· ≠ '=') with
      | '=' :: v => some (String.ofList v)
      | _ => none
    match byName specs key with
    | none => .error (.unknownFlag key)
    | some f =>
      match given, f.kind, rest with
      | some v, _, _ => do pure (rest, ← setFlag f v line)
      | none, .switch, _ => do pure (rest, ← setFlag f "true" line)
      | none, _, v :: more => do pure (more, ← setFlag f v line)
      | none, _, [] => .error (.needsValue arg)

/-- A group of shorthands, read from the left; gives the arguments left and the line. -/
def parseShort (specs : List FlagSpec) (rest : List String) :
    List Char → List String → CommandLine → Except CommandProblem (List String × CommandLine)
  | [], left, line => .ok (left, line)
  | c :: more, left, line =>
    let group := c :: more
    if String.ofList (group.take 5) = "test." then .ok (left, line)
    else
      match byShort specs c with
      | none => .error (.unknownShorthand (firstByteChar c) (String.ofList group))
      | some f =>
        match more, f.kind with
        | '=' :: v :: vs, _ => do pure (left, ← setFlag f (String.ofList (v :: vs)) line)
        | _, .switch => do parseShort specs rest more left (← setFlag f "true" line)
        | _ :: _, _ => do pure (left, ← setFlag f (String.ofList more) line)
        | [], _ =>
          match rest with
          | v :: vs => do pure (vs, ← setFlag f v line)
          | [] => .error (.needsShortValue c (String.ofList group))

/-- Reads arguments, at most `fuel` of them. -/
def parseFrom (specs : List FlagSpec) : Nat → List String → CommandLine →
    Except CommandProblem CommandLine
  | 0, _, line => .ok line
  | _, [], line => .ok line
  | fuel + 1, arg :: rest, line =>
    match arg.toList with
    | ['-', '-'] => .ok { line with args := line.args ++ rest }
    | '-' :: '-' :: name => do
      let (left, line') ← parseLong specs arg name rest line
      parseFrom specs fuel left line'
    | '-' :: c :: more => do
      let (left, line') ← parseShort specs rest (c :: more) rest line
      parseFrom specs fuel left line'
    | _ => parseFrom specs fuel rest { line with args := line.args ++ [arg] }

/-- Reads a command line against the flags. -/
def parse (specs : List FlagSpec) (args : List String) : Except CommandProblem CommandLine :=
  parseFrom specs (args.length + 1) args ⟨[], []⟩

/-- The last value set for a flag, if it was set. -/
def CommandLine.lookup (line : CommandLine) (name : String) : Option FlagValue :=
  (line.sets.filter (·.1 = name)).getLast?.map (·.2)

/-- The flag column of a usage line: shorthand and long name, and the type word. -/
def flagColumn (f : FlagSpec) : String :=
  let head := match f.short with
    | some c => "  -" ++ c.toString ++ ", --" ++ f.name
    | none => "      --" ++ f.name
  if f.typeWord = "" then head else head ++ " " ++ f.typeWord

/-- The usage text of a flag with its default, when that is not zero. -/
def usageText (f : FlagSpec) : String :=
  if f.zeroDefault then f.usage
  else if f.kind = .text then f.usage ++ " (default " ++ Text.quote f.defaultText ++ ")"
  else f.usage ++ " (default " ++ f.defaultText ++ ")"

/-- Flags in order of their names. -/
def sortByName : List FlagSpec → List FlagSpec
  | [] => []
  | f :: fs =>
    let rest := sortByName fs
    rest.filter (·.name < f.name) ++ f :: rest.filter (fun g => !(g.name < f.name))

/-- The usage lines of the flags, in order of their names, usage texts aligned three spaces
after the widest flag column; each line ends with a line feed. -/
def usages (specs : List FlagSpec) : String :=
  let sorted := sortByName specs
  let width := (sorted.map fun f => (flagColumn f).length).foldl max 0
  String.join (sorted.map fun f =>
    let col := flagColumn f
    col ++ String.ofList (List.replicate (width - col.length + 3) ' ') ++ usageText f ++ "\n")

end Cli
end KernelSynth
