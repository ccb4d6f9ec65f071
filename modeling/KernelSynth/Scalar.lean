/-
# Scalar element types

Every buffer and capture of a generated source holds one scalar type: `int`,
`float` or `double`, numbered 1, 2 and 3. A type is named in options
without regard to case: none of the letters of the three names has a case
partner outside ASCII, so comparing ASCII letters case-blind decides it. A
number that is no type is written `ScalarType(n)`.

Key definitions: `Scalar`, `Scalar.name`, `Scalar.code`, `Scalar.parse`,
`Scalar.nameOfCode`.
Key theorems: `Scalar.parse_name`.
-/
import KernelSynth.Fault
import KernelSynth.Text.Numeral

namespace KernelSynth

/-- The element type of generated buffers and captures. -/
inductive Scalar where
  | int
  | float
  | double
  deriving DecidableEq, Repr

namespace Scalar

/-- The types in the order they are listed and tried. -/
def all : List Scalar := [.int, .float, .double]

/-- The name of a type in generated source. -/
def name : Scalar → String
  | .int => "int"
  | .float => "float"
  | .double => "double"

/-- The number of a type. -/
def code : Scalar → Int
  | .int => 1
  | .float => 2
  | .double => 3

/-- The names of all types, joined by commas. -/
def names : String := ",".intercalate (all.map name)

/-- The name of a type's number; a number of no type is written `ScalarType(n)`. -/
def nameOfCode (n : Int) : String :=
  match all.find? (·.code = n) with
  | some s => s.name
  | none => "ScalarType(" ++ toString n ++ ")"

/-- Two texts are equal up to the case of ASCII letters. -/
def sameUpToCase (a b : String) : Bool :=
  a.length = b.length && (a.toList.zip b.toList).all fun p => Text.lowerAscii p.1 = Text.lowerAscii p.2

/-- The type a name denotes, case-blind, or the fault of an unknown type. -/
def parse (text : String) : Except Fault Scalar :=
  match all.find? (fun s => sameUpToCase text s.name) with
  | some s => .ok s
  | none => .error (.unknownScalar text)

theorem parse_name (s : Scalar) : parse s.name = .ok s := by
  cases s <;> rfl

example : parse "DoUbLe" = .ok .double ∧ names = "int,float,double" ∧ nameOfCode 0 = "ScalarType(0)" :=
  ⟨rfl, rfl, rfl⟩

end Scalar
end KernelSynth
