/-
# Tokens of YAML text

A YAML stream is first read into tokens: indicators (`-`, `?`, `:`, `,`,
brackets and braces), the starts and ends of block collections that
indentation implies, anchors, aliases, tags, directives, document markers
and scalars. Each token carries the marks where it starts and stops: the
character index, the line and the column, all counted from zero.

A `Problem` is why a text cannot be read as YAML: where it was found, what
stage found it, and its description. Its message gives the line, counted
from one, of the context the problem arose in, or else of the problem
itself; a problem the scanner found counts one line more, and a problem on
the first line gives none.

Key definitions: `Yaml.Mark`, `Yaml.Style`, `Yaml.TokenKind`, `Yaml.Token`,
`Yaml.Problem`, `Yaml.Problem.message`.
-/

namespace KernelSynth
namespace Yaml

/-- A position in the text: character index, line and column, from zero. -/
structure Mark where
  index : Nat
  line : Nat
  column : Nat
  deriving Repr, DecidableEq, Inhabited

/-- The start of the text. -/
def Mark.origin : Mark := ⟨0, 0, 0⟩

/-- How a scalar is written. -/
inductive Style where
  | plain
  | singleQuoted
  | doubleQuoted
  | literal
  | folded
  deriving Repr, DecidableEq, Inhabited

/-- What a token is. -/
inductive TokenKind where
  | streamStart
  | streamEnd
  | versionDirective (major minor : Nat)
  | tagDirective (handle pre : String)
  | documentStart
  | documentEnd
  | blockSequenceStart
  | blockMappingStart
  | blockEnd
  | flowSequenceStart
  | flowSequenceEnd
  | flowMappingStart
  | flowMappingEnd
  | blockEntry
  | flowEntry
  | key
  | value
  | alias (name : String)
  | anchor (name : String)
  | tag (handle suffix : String)
  | scalar (text : String) (style : Style)
  deriving Repr, Inhabited

/-- A token and the marks where it starts and stops. -/
structure Token where
  kind : TokenKind
  start : Mark
  stop : Mark
  deriving Repr, Inhabited

/-- Which stage of reading found a problem. -/
inductive Stage where
  | reader
  | scanner
  | parser
  deriving Repr, DecidableEq

/-- Why a text cannot be read: the stage, the mark of the context the problem arose in
(the origin when there is none), the mark of the problem, and its description. -/
structure Problem where
  stage : Stage
  context : Mark
  mark : Mark
  text : String
  deriving Repr

/-- The line a problem is reported at, counted from one; zero for none. -/
def Problem.line (p : Problem) : Nat :=
  let bump := if p.stage = .scanner then 1 else 0
  if p.context.line ≠ 0 then p.context.line + bump
  else if p.mark.line ≠ 0 then p.mark.line + bump
  else 0

/-- The message of a problem: `yaml: `, the line if there is one, and the description. -/
def Problem.message (p : Problem) : String :=
  "yaml: " ++ (if p.line = 0 then "" else "line " ++ toString p.line ++ ": ") ++ p.text

end Yaml
end KernelSynth
