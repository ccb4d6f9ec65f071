/-
# Resolving scalars

A scalar's tag says what it is: `!!str`, `!!int`, `!!float`, `!!bool`,
`!!null`, `!!timestamp`, or another. A plain scalar without a tag gets one
from its text, by its first character:

* the words `true`, `false` and `null` in three spellings each, `~`, the
  empty text, `.nan` and the infinities are looked up;
* text starting with a digit or a sign is tried, underscores dropped, as a
  timestamp, a signed 64-bit integer with an optional base prefix, an
  unsigned one, a decimal float in the YAML form, and last as a binary or
  octal integer after a `0b` or `0o` prefix;
* text starting with a point is tried as a float;
* anything else is a string.

A float that overflows a double is not a float. A scalar with an explicit tag
is resolved the same way and must come out with that tag, except that an
integer is accepted as a float; otherwise reading stops
(`Halt.cannotDecode`). Tags other than the ones above are not resolved.

`Halt` lists every reason that reading a YAML document can stop, with its
message.

Key definitions: `Yaml.Halt`, `Yaml.Value`, `Yaml.shortTag`, `Yaml.resolve`.
-/
import KernelSynth.Yaml.Token
import KernelSynth.Yaml.Timestamp
import KernelSynth.Decimal.Binary64

namespace KernelSynth
namespace Yaml

/-- Why reading a YAML document stops. -/
inductive Halt where
  | problem (p : Problem)
  | unknownAnchor (name : String)
  | cannotDecode (found text wanted : String)
  | containsItself (name : String)
  | badBinary
  | mergeWantsMap
  | invalidMapKey (shown : String)
  | excessiveAliasing
  deriving Repr

/-- The message of a halt. -/
def Halt.message : Halt → String
  | .problem p => p.message
  | .unknownAnchor name => "yaml: unknown anchor '" ++ name ++ "' referenced"
  | .cannotDecode found text wanted =>
    "yaml: cannot decode " ++ found ++ " \x60" ++ text ++ "\x60 as a " ++ wanted
  | .containsItself name => "yaml: anchor '" ++ name ++ "' value contains itself"
  | .badBinary => "yaml: !!binary value contains invalid base64 data"
  | .mergeWantsMap => "yaml: map merge requires map or sequence of maps as the value"
  | .invalidMapKey shown => "yaml: invalid map key: " ++ shown
  | .excessiveAliasing => "yaml: document contains excessive aliasing"

/-- The prefix of the standard tags. -/
def standardPrefix : String := "tag:yaml.org,2002:"

/-- The tag of null. -/
def nullTag : String := "!!null"
/-- The tag of truth values. -/
def boolTag : String := "!!bool"
/-- The tag of strings. -/
def strTag : String := "!!str"
/-- The tag of integers. -/
def intTag : String := "!!int"
/-- The tag of floats. -/
def floatTag : String := "!!float"
/-- The tag of timestamps. -/
def timestampTag : String := "!!timestamp"
/-- The tag of sequences. -/
def seqTag : String := "!!seq"
/-- The tag of mappings. -/
def mapTag : String := "!!map"
/-- The tag of base64 data. -/
def binaryTag : String := "!!binary"
/-- The tag of the merge key `<<`. -/
def mergeTag : String := "!!merge"

/-- A standard tag written short, `!!name`; other tags as they are. -/
def shortTag (tag : String) : String :=
  if tag.startsWith standardPrefix then
    "!!" ++ String.ofList (tag.toList.drop standardPrefix.length)
  else tag

/-- What a scalar resolves to. `text` is a string, or the text of a scalar whose tag is not
resolved. -/
inductive Value where
  | null
  | bool (b : Bool)
  | int (n : Int)
  | uint (n : Nat)
  | float (x : Decimal.Binary64)
  | timestamp (t : Timestamp)
  | text (s : String)
  deriving DecidableEq, Repr

/-- The words with a fixed meaning. -/
def knownWord? (s : String) : Option (String × Value) :=
  if s ∈ ["true", "True", "TRUE"] then some (boolTag, .bool true)
  else if s ∈ ["false", "False", "FALSE"] then some (boolTag, .bool false)
  else if s ∈ ["", "~", "null", "Null", "NULL"] then some (nullTag, .null)
  else if s ∈ [".nan", ".NaN", ".NAN"] then some (floatTag, .float .nan)
  else if s ∈ [".inf", ".Inf", ".INF", "+.inf", "+.Inf", "+.INF"] then
    some (floatTag, .float (.infinite false))
  else if s ∈ ["-.inf", "-.Inf", "-.INF"] then some (floatTag, .float (.infinite true))
  else if s = "<<" then some (mergeTag, .text "<<")
  else none

/-- What the first character of a plain scalar suggests it is. -/
inductive Hint where
  | other
  | sign
  | digit
  | word
  | point
  deriving DecidableEq

/-- The hint of a scalar's text; the empty text is looked up as a word. -/
def hintOf (s : String) : Hint :=
  match s.toList with
  | [] => .word
  | c :: _ =>
    if c = '+' ∨ c = '-' then .sign
    else if '0' ≤ c ∧ c ≤ '9' then .digit
    else if "yYnNtTfFoO~".toList.contains c then .word
    else if c = '.' then .point
    else .other

/-- Whether a character is a decimal digit. -/
def isDecimal (c : Char) : Bool := '0' ≤ c && c ≤ '9'

/-- Whether text has the YAML float form: an optional sign, digits with an optional point or
a point and digits, and an optional exponent. -/
def floatShaped (cs : List Char) : Bool :=
  let body := match cs with
    | '-' :: r => r
    | '+' :: r => r
    | r => r
  let whole := body.takeWhile isDecimal
  let rest := body.dropWhile isDecimal
  let afterMantissa : Option (List Char) :=
    if whole.isEmpty then
      match rest with
      | '.' :: r => if (r.takeWhile isDecimal).isEmpty then none else some (r.dropWhile isDecimal)
      | _ => none
    else
      match rest with
      | '.' :: r => some (r.dropWhile isDecimal)
      | r => some r
  match afterMantissa with
  | none => false
  | some [] => true
  | some (e :: r) =>
    let digits := match r with
      | '-' :: d => d
      | '+' :: d => d
      | d => d
    (e = 'e' || e = 'E') && !digits.isEmpty && digits.all isDecimal

/-- A signed numeral in a fixed base, without prefix or underscores, that fits a signed 64-bit
word. -/
def readInBase (base : Nat) (cs : List Char) : Option Int :=
  let (negative, digits) := Decimal.spanSign cs
  if digits.isEmpty || digits.contains '_' then none
  else
    match Text.accumulate base Text.uwordMax 0 digits with
    | .ok n =>
      let v : Int := if negative then -(n : Int) else n
      if Text.wordMin ≤ v ∧ v ≤ Text.wordMax then some v else none
    | .error _ => none

/-- A finite double read from decimal text. -/
def finiteFloat? (s : String) : Option Decimal.Binary64 :=
  match Decimal.readDecimal? s with
  | some (.finite n m e) => some (.finite n m e)
  | _ => none

/-- The tag and value of text starting with a digit or a sign, once it is not a timestamp. -/
def resolveNumber (text : String) : String × Value :=
  let plain := text.toList.filter (· ≠ '_')
  let plainText := String.ofList plain
  match Text.readPrefixed true plainText with
  | .ok n => (intTag, .int n)
  | .error _ =>
    match Text.readPrefixed false plainText with
    | .ok n => (intTag, .uint n.toNat)
    | .error _ =>
      match (if floatShaped plain then finiteFloat? plainText else none) with
      | some x => (floatTag, .float x)
      | none =>
        let prefixed : Option Int :=
          match plain with
          | '0' :: 'b' :: r => readInBase 2 r
          | '0' :: 'o' :: r => readInBase 8 r
          | _ => none
        match prefixed with
        | some n => (intTag, .int n)
        | none => (strTag, .text text)

/-- The tag and value a scalar's text resolves to, before the explicit tag is checked. -/
def resolveText (tag text : String) : String × Value :=
  let hint := hintOf text
  if hint = .other || tag = strTag || tag = binaryTag then (strTag, .text text)
  else
    match knownWord? text with
    | some r => r
    | none =>
      match hint with
      | .point =>
        match finiteFloat? text with
        | some x => (floatTag, .float x)
        | none => (strTag, .text text)
      | .digit | .sign =>
        match (if tag = "" || tag = timestampTag then Timestamp.parse? text else none) with
        | some t => (timestampTag, .timestamp t)
        | none => resolveNumber text
      | _ => (strTag, .text text)

/-- Whether a tag is resolved from the text. -/
def resolvable (tag : String) : Bool :=
  [("" : String), strTag, boolTag, intTag, floatTag, timestampTag, nullTag].contains tag

/-- The tag and value of a scalar with the given tag (empty for none). An explicit tag must
agree with the text, an integer being accepted as a float. -/
def resolve (tag text : String) : Except Halt (String × Value) :=
  let tag := shortTag tag
  if !resolvable tag then .ok (tag, .text text)
  else
    let (rtag, v) := resolveText tag text
    if tag = "" || tag = rtag || tag = strTag then .ok (rtag, v)
    else
      match v with
      | .int n =>
        if tag = floatTag && rtag = intTag then .ok (floatTag, .float (Decimal.ofInt n))
        else .error (.cannotDecode (shortTag rtag) text tag)
      | _ => .error (.cannotDecode (shortTag rtag) text tag)

/-- The tag a plain scalar without an explicit tag resolves to. -/
def plainTag (text : String) : String := (resolveText "" text).1

example : plainTag "0x10" = intTag ∧ plainTag "1_000" = intTag ∧ plainTag "yes" = strTag ∧
    plainTag "~" = nullTag ∧ plainTag "2001-12-14" = timestampTag ∧ plainTag "0b-1" = intTag := by
  decide

end Yaml
end KernelSynth
