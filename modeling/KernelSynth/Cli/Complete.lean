/-
# Completion requests

A shell asks a command for completions by calling it with the hidden word
`__complete` (or `__completeNoDesc`, for completions without descriptions)
followed by the command line typed so far, whose last word is the one being
completed. The hidden word counts when it is the first word of the command
line that is neither a flag nor the value of one, read against the flags as
the command knows them before it adds its help flag; it is taken out of the
line, and the words left must not be empty.

The last word completes the value of a flag when it is written `-f=...`,
`--flag=...`, or follows a flag that takes a value. Otherwise a last word
starting with a dash (and holding no `=`) completes a flag name: every flag
not yet set whose `--name` or `-s` starts with it, in order of the names,
each with its usage text; the shell is told not to offer files. Anything
else completes to nothing, and files are left to the shell. With help asked
for, nothing completes and files are not offered.

The words before the last are read as a command line first; if that fails,
or the flag named for a value does not exist while flags are still being
read, nothing completes and the problem is reported beside the answer.

Key definitions: `Cli.Directive`, `Cli.completionCall?`, `Cli.completion`,
`Cli.Completion.text`.
-/
import KernelSynth.Cli.Flag
import KernelSynth.Text.Blank

namespace KernelSynth
namespace Cli

/-- What the shell does once it has the completions: the default, or not offering files. -/
inductive Directive where
  | default
  | noFileComp
  deriving DecidableEq, Repr

/-- The number a directive is sent as. -/
def Directive.code : Directive → Nat
  | .default => 0
  | .noFileComp => 4

/-- The name of a directive, as the command reports it. -/
def Directive.name : Directive → String
  | .default => "ShellCompDirectiveDefault"
  | .noFileComp => "ShellCompDirectiveNoFileComp"

/-- Whether a word starts with a double dash. -/
def isLong (s : String) : Bool := s.toList.take 2 = ['-', '-']

/-- Whether a word starts with a dash. -/
def isDashed (s : String) : Bool := s.toList.head? = some '-'

/-- Whether a word is a flag that takes the next word as its value: `--name` or `-s`, without
`=`, unless it names a switch. -/
def takesNext (specs : List FlagSpec) (s : String) : Bool :=
  let cs := s.toList
  if cs.contains '=' then false
  else if isLong s then
    !((byName specs (String.ofList (cs.drop 2))).any (·.kind = .switch))
  else
    match cs with
    | ['-', c] => c.toNat < 128 && !((byShort specs c).any (·.kind = .switch))
    | _ => false

/-- The words of a command line that are neither flags nor flag values, up to `--`. A flag that
takes a value with at most one word after it ends the reading. -/
def commandWords (specs : List FlagSpec) : List String → List String
  | [] => []
  | s :: rest =>
    if s = "--" then []
    else if takesNext specs s then
      match rest with
      | [] => []
      | _ :: more => if more.isEmpty then [] else commandWords specs more
    else if !s.isEmpty && !isDashed s then s :: commandWords specs rest
    else commandWords specs rest

/-- A command line with its first word `x` that is neither a flag nor a flag value taken out;
reading stops at `--`. -/
def withoutWord (specs : List FlagSpec) (x : String) : List String → List String
  | [] => []
  | s :: rest =>
    if s = "--" then s :: rest
    else if takesNext specs s then
      match rest with
      | v :: more => s :: v :: withoutWord specs x more
      | [] => [s]
    else if !isDashed s && s = x then rest
    else s :: withoutWord specs x rest

/-- The word that asks for completions with descriptions. -/
def completeWord : String := "__complete"

/-- The word that asks for completions without descriptions. -/
def completeBareWord : String := "__completeNoDesc"

/-- Whether a command line asks for completions, read against the flags the command has before
it adds its help flag: whether descriptions are wanted, and the words of the request. -/
def completionCall? (specs : List FlagSpec) (args : List String) : Option (Bool × List String) :=
  match commandWords specs args with
  | w :: _ =>
    if w = completeWord then some (true, withoutWord specs w args)
    else if w = completeBareWord then some (false, withoutWord specs w args)
    else none
  | [] => none

/-- Whether a word is a flag with a name: `--` and one more character, or a dash and another
character than a dash. -/
def isFlagWord (s : String) : Bool :=
  match s.toList with
  | '-' :: '-' :: _ :: _ => true
  | '-' :: c :: _ => c != '-'
  | _ => false

/-- A one-character flag name as written at the end of a word: the last character when it is
ASCII; otherwise a name that no flag has. -/
def lastName (cs : List Char) : String :=
  match cs.getLast? with
  | some c => if c.toNat < 128 then c.toString else "�"
  | none => ""

/-- The flag a name finds: a one-character name is a shorthand. -/
def findFlag (specs : List FlagSpec) (name : String) : Option FlagSpec :=
  match name.toList with
  | [c] => if c.toNat < 128 then (byShort specs c).bind fun f => byName specs f.name else none
  | _ => byName specs name

/-- What the last word of a request completes: the flag whose value it is, if any; the words
before it as they are then read; the word itself, after any `=`; and the name of a flag that
does not exist, when the word is the value of one. -/
structure Target where
  flag : Option FlagSpec
  words : List String
  word : String
  unknown : Option String

/-- The target of the last word `last` after the words `args`. -/
def target (specs : List FlagSpec) (args : List String) (last : String) : Target :=
  let cs := last.toList
  let (named, word, withEqual) : String × String × Bool :=
    if isDashed last then
      match cs.idxOf? '=' with
      | some i =>
        let before := cs.take i
        let name :=
          if before.take 2 = ['-', '-'] then String.ofList (before.drop 2) else lastName before
        (name, String.ofList (cs.drop (i + 1)), true)
      | none => ("", last, false)
    else ("", last, false)
  if isDashed last && !cs.contains '=' then ⟨none, args, last, none⟩
  else
    let (name, words) : String × List String :=
      if named ≠ "" then (named, args)
      else
        match args.getLast? with
        | some prev =>
          if isFlagWord prev && !prev.toList.contains '=' then
            (if isLong prev then String.ofList (prev.toList.drop 2) else lastName prev.toList,
              args.dropLast)
          else ("", args)
        | none => ("", args)
    if name = "" then ⟨none, words, word, none⟩
    else
      match findFlag specs name with
      | none => ⟨none, args, last, some name⟩
      | some f =>
        if !withEqual && f.kind = .switch then ⟨none, args, word, none⟩
        else ⟨some f, words, word, none⟩

/-- The completions of a flag's names that start with a word, each with the usage text. -/
def nameCompletions (f : FlagSpec) (word : String) : List String :=
  let long := "--" ++ f.name
  let short := match f.short with
    | some c => ["-" ++ c.toString]
    | none => []
  ((long :: short).filter fun n => word.toList.isPrefixOf n.toList).map fun n =>
    n ++ "\t" ++ f.usage

/-- The words of a command line as a list is shown: between brackets, apart by spaces. -/
def showWords (ws : List String) : String := "[" ++ " ".intercalate ws ++ "]"

/-- The answer to a completion request: the completions, the directive, and the problem met
(which leaves no completions), if any. -/
structure Completion where
  lines : List String
  directive : Directive
  problem : Option String

/-- Completes the last word of a request for a command of the given name and flags. The words
before it are read twice, once with `--` added: a word more in the second reading means the
flags had already ended, and no flag is completed. -/
def completion (specs : List FlagSpec) (command : String) (words : List String) : Completion :=
  let t := target specs words.dropLast (words.getLast?.getD "")
  match parse specs t.words with
  | .error p =>
    ⟨[], .default, some ("Error while parsing flags from args " ++ showWords t.words ++ ": " ++
      p.message)⟩
  | .ok line =>
    let ended : Bool := match parse specs (t.words ++ ["--"]) with
      | .ok first => line.args.length < first.args.length
      | .error _ => false
    match t.unknown, ended with
    | some name, false =>
      ⟨[], .default, some ("Subcommand '" ++ command ++ "' does not support flag '" ++ name ++
        "'")⟩
    | _, _ =>
      let set := fun (f : FlagSpec) => line.sets.any (·.1 = f.name)
      if line.sets.any (·.1 = "help") then ⟨[], .noFileComp, none⟩
      else if t.flag.isNone && isDashed t.word && !t.word.toList.contains '=' && !ended then
        ⟨(sortByName specs).flatMap fun f => if set f then [] else nameCompletions f t.word,
          .noFileComp, none⟩
      else ⟨[], .default, none⟩

/-- What a completion answer prints: each completion on a line (its description dropped when
none are wanted, only its first line, trimmed), then a colon and the directive's number. -/
def Completion.text (c : Completion) (descriptions : Bool) : String :=
  String.join (c.lines.map fun line =>
    let shown := if descriptions then line else ((line.splitOn "\t").headD "")
    Text.trim ((shown.splitOn "\n").headD "") ++ "\n") ++
    ":" ++ toString c.directive.code ++ "\n"

end Cli
end KernelSynth
