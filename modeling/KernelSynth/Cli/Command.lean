/-
# The generator's command line

`kernelgen` takes no arguments, only flags. A run goes in this order:

1. the flags are read; a problem stops the run;
2. `-h` or `--help` prints the help text and stops;
3. an argument that is not a flag is an unknown command;
4. the options start from their defaults; `--config` names a YAML file read
   over them; then every flag set on the command line overrides its option
   (a mix flag must read);
5. the generation runs with the output flags: both artifacts are written, or
   printed with `--stdout`.

A failure is printed to standard error as `Error: ` and its message; a crash
as `panic: ` and its message, with exit status 2.

A first plain word `__complete` or `__completeNoDesc` asks for completions
instead of a run (see `Cli.Complete`).

Key definitions: `Cli.flags`, `Cli.helpText`, `Cli.Invocation`, `Cli.invoke`.
-/
import KernelSynth.Cli.Complete
import KernelSynth.Cli.Flag
import KernelSynth.ConfigFile
import KernelSynth.Delivery

namespace KernelSynth
namespace Cli

/-- The command's name. -/
def commandName : String := "kernelgen"

/-- The flags of the command. -/
def flags : List FlagSpec :=
  let d := Options.default
  let out := Destination.default
  [ ⟨"num_kernels", some 'k', .int, toString d.kernels, "Create NUM kernels"⟩,
    ⟨"num_buffers", some 'b', .int, toString d.buffers,
      "Create NUM buffers (clamped to " ++ toString minBuffers ++ ".." ++ toString maxBuffers ++ ")"⟩,
    ⟨"num_captures", some 'c', .int, toString d.captures, "Use NUM captures"⟩,
    ⟨"dimensions", some 'd', .int, toString d.dimensions,
      "Select dimensionality (clamped to " ++ toString minDimensions ++ ".." ++
        toString maxDimensions ++ ")"⟩,
    ⟨"loopnests", some 'l', .int, toString d.loopNests, "Create NUM loop nests"⟩,
    ⟨"type", some 't', .text, d.scalar, "Select data type (" ++ Scalar.names ++ ")"⟩,
    ⟨"mix", some 'm', .text, d.mix.render, "Composition, e.g. sin:3,mad:10"⟩,
    ⟨"templated", some 'T', .switch, "false", "Generate templated kernels"⟩,
    ⟨"verbose", some 'v', .switch, "false", "Run verbosely"⟩,
    ⟨"config", none, .text, "", "Read options from a YAML file; flags override it"⟩,
    ⟨"stdout", none, .switch, "false", "Print both artifacts instead of writing files"⟩,
    ⟨"out-dir", some 'o', .text, out.dir, "Directory for the generated files"⟩,
    ⟨"decl-file", none, .text, out.declarationsFile, "Name of the declarations file"⟩,
    ⟨"kernel-file", none, .text, out.kernelsFile, "Name of the kernels file"⟩,
    ⟨"help", some 'h', .switch, "false", "help for " ++ commandName⟩ ]

/-- What the command does, as the help text opens. -/
def description : String :=
  commandName ++ " generates SYCL programs of various size and structure.\n\n" ++
  "It writes a declarations file with one forward declaration per kernel and a\n" ++
  "kernels file with buffer and capture declarations followed by one command\n" ++
  "group submission per kernel. Both files are overwritten on every run."

/-- An example invocation. -/
def exampleLine : String := commandName ++ " -k 100 -b 8 -l 2 -m sin:3,mad:10 -T"

/-- The help text: the description, usage, an example and the flags. -/
def helpText : String :=
  description ++ "\n\nUsage:\n  " ++ commandName ++ " [flags]\n\nExamples:\n" ++ exampleLine ++
    "\n\nFlags:\n" ++ usages flags

/-- The value of an integer flag set on the command line. -/
def CommandLine.int? (line : CommandLine) (name : String) : Option Int :=
  match line.lookup name with
  | some (.int n) => some n
  | _ => none

/-- The value of a string flag set on the command line. -/
def CommandLine.text? (line : CommandLine) (name : String) : Option String :=
  match line.lookup name with
  | some (.text s) => some s
  | _ => none

/-- The value of a switch set on the command line. -/
def CommandLine.switch? (line : CommandLine) (name : String) : Option Bool :=
  match line.lookup name with
  | some (.switch b) => some b
  | _ => none

/-- The options after the flags set on the command line, the mix read from its text. -/
def overrides (line : CommandLine) (o : Options) : Except Fault Options := do
  let mix ← match line.text? "mix" with
    | none => pure o.mix
    | some s => match Mix.parse s with
      | .ok m => pure m
      | .error es => .error (.mixFlag es)
  pure {
    kernels := (line.int? "num_kernels").getD o.kernels
    buffers := (line.int? "num_buffers").getD o.buffers
    captures := (line.int? "num_captures").getD o.captures
    dimensions := (line.int? "dimensions").getD o.dimensions
    loopNests := (line.int? "loopnests").getD o.loopNests
    scalar := (line.text? "type").getD o.scalar
    mix := mix
    templated := (line.switch? "templated").getD o.templated
    operations := o.operations }

/-- The options of a run: defaults, then the configuration file if one is named, then the
flags set. -/
def resolveOptions (v : Volume) (line : CommandLine) : Except Fault Options := do
  let base := Options.default
  let loaded ← match line.text? "config" with
    | some path => if path = "" then pure base else Options.load v path base
    | none => pure base
  overrides line loaded

/-- Where the artifacts go, from the output flags. -/
def destination (line : CommandLine) : Destination :=
  let d := Destination.default
  ⟨(line.text? "out-dir").getD d.dir, (line.text? "decl-file").getD d.declarationsFile,
    (line.text? "kernel-file").getD d.kernelsFile⟩

/-- What an invocation printed, the files it wrote, in order, and its failure if it failed;
besides, the notes it printed to its error stream, and the diagnostics it wrote to the
process's standard error, which a caller that takes the error stream does not see. -/
structure Invocation where
  stdout : String
  writes : List (String × String)
  failure : Option Failure
  notes : String
  diagnostics : String

/-- The text printed to the error stream: the notes, then the failure, if there is one; a
crash is printed as a panic. -/
def Invocation.stderr (i : Invocation) : String :=
  i.notes ++
    match i.failure with
    | some fs =>
      match fs.crash? with
      | some m => "panic: " ++ m ++ "\n"
      | none => "Error: " ++ fs.message ++ "\n"
    | none => ""

/-- The exit status of an invocation: 0 when it succeeded, 2 after a crash, else 1. -/
def Invocation.status (i : Invocation) : UInt32 :=
  match i.failure with
  | none => 0
  | some fs => if fs.crash?.isSome then 2 else 1

/-- An invocation that failed with nothing printed and nothing written. -/
def Invocation.failed (fs : Failure) : Invocation := ⟨"", [], some fs, "", ""⟩

/-- An invocation that succeeded, with what it printed and the files it wrote. -/
def Invocation.done (stdout : String) (writes : List (String × String)) : Invocation :=
  ⟨stdout, writes, none, "", ""⟩

/-- The flags the command reads a completion request against: all but help, which the
command only adds once it runs. -/
def requestFlags : List FlagSpec := flags.filter (·.name ≠ "help")

/-- Answers a completion request: the completions on standard output, the directive in a
note, and a problem met in the diagnostics. A request needs a word to complete. -/
def answerCompletion (descriptions : Bool) (words : List String) : Invocation :=
  if words.isEmpty then .failed [.commandLine (.tooFewArguments 1 0)]
  else
    let c := completion flags commandName words
    ⟨c.text descriptions, [], none,
      "Completion ended with directive: " ++ c.directive.name ++ "\n",
      match c.problem with
      | some m => "[Debug] [Error] " ++ m ++ "\n"
      | none => ""⟩

/-- Runs the command with its arguments over a volume that holds the configuration file. A
completion request is answered instead of run. -/
def invoke (v : Volume) (args : List String) : Invocation :=
  match completionCall? requestFlags args with
  | some (descriptions, words) => answerCompletion descriptions words
  | none =>
  match parse flags args with
  | .error p => .failed [.commandLine p]
  | .ok line =>
    if line.switch? "help" = some true then .done helpText []
    else match line.args with
      | a :: _ => .failed [.commandLine (.unknownCommand a commandName)]
      | [] =>
        match resolveOptions v line with
        | .error f => .failed [f]
        | .ok o =>
          match Delivery.run o (destination line) ((line.switch? "stdout").getD false) with
          | .error fs => .failed fs
          | .ok d => .done d.stdout d.writes

end Cli
end KernelSynth
