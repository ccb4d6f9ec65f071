/-
# Values of any type

Where decoding has no type to fill, a node becomes a value of any type: a
scalar becomes an `Atom` (null, a truth value, an integer, an unsigned
integer too large for one, a double, a string or a time), a sequence a list,
and a mapping a table, of strings to values when every key is a string and
of atoms to values otherwise.

Atoms are the keys of tables, and they are equal (`Atom.same`) as the
runtime compares them: of one type and one value, a double by its number (so
NaN equals nothing), a time by its instant, its nanoseconds and its location.
A time keeps the location its zone gives it: UTC for none or `Z`, the local
zone (UTC here) for a zero offset, a fixed zone otherwise; fixed zones of
whole hours from -12 to +14 are shared, any other is made afresh for each
time, so two such times are never equal.

Values are shown in Go syntax (`Loose.goSyntax`), as messages about bad keys
show them: strings quoted, doubles in their general text, unsigned integers
in hex, times as `time.Date(...)`, null as a typed nil, lists and tables with
their type, and a table's entries ordered by key (`Atom.order`): null first,
then by type, then by value, strings by their bytes and times by nanoseconds,
instant and location.

Key definitions: `Yaml.Location`, `Yaml.Moment`, `Yaml.Atom`, `Yaml.Atom.same`,
`Yaml.Atom.order`, `Yaml.Loose`, `Yaml.Loose.goSyntax`.
-/
import KernelSynth.Decimal.General
import KernelSynth.Text.Quoted
import KernelSynth.Yaml.Timestamp

namespace KernelSynth
namespace Yaml

/-- Where a decoded time is located: UTC, the local zone, or a fixed zone east of UTC by some
seconds, shared by all times of that offset (`made = none`) or made for one time (numbered in
order of making). -/
inductive Location where
  | utc
  | local
  | fixed (east : Int) (made : Option Nat)
  deriving DecidableEq, Repr

/-- The location a zone gives a time: `next` numbers a zone made afresh. -/
def Location.ofOffset (next : Nat) : Offset → Location
  | .none | .utc => .utc
  | .east e =>
    if e = 0 then .local
    else if e % 3600 = 0 ∧ -12 ≤ e / 3600 ∧ e / 3600 ≤ 14 then .fixed e none
    else .fixed e (some next)

/-- Whether a location is a zone made for one time. -/
def Location.isMade : Location → Bool
  | .fixed _ (some _) => true
  | _ => false

/-- How locations are ordered: UTC, the local zone, shared zones by offset, then zones made
for one time in order of making. -/
def Location.order : Location → Location → Ordering
  | .utc, .utc => .eq
  | .utc, _ => .lt
  | _, .utc => .gt
  | .local, .local => .eq
  | .local, _ => .lt
  | _, .local => .gt
  | .fixed a none, .fixed b none => compare a b
  | .fixed _ none, .fixed _ (some _) => .lt
  | .fixed _ (some _), .fixed _ none => .gt
  | .fixed _ (some m), .fixed _ (some n) => compare m n

/-- A decoded time: the timestamp as written and its location. -/
structure Moment where
  stamp : Timestamp
  location : Location
  deriving DecidableEq, Repr

/-- How times are ordered: by nanoseconds, then instant, then location. -/
def Moment.order (a b : Moment) : Ordering :=
  (compare a.stamp.nanos b.stamp.nanos).then
    ((compare a.stamp.instant b.stamp.instant).then (a.location.order b.location))

/-- Whether two times are equal: same nanoseconds, instant and location. -/
def Moment.same (a b : Moment) : Bool :=
  a.stamp.nanos == b.stamp.nanos && a.stamp.instant == b.stamp.instant &&
    a.location == b.location

/-- The English names of the months. -/
def monthNames : List String :=
  ["January", "February", "March", "April", "May", "June", "July", "August", "September",
    "October", "November", "December"]

/-- A time in Go syntax: `time.Date` with its fields as written and its location. -/
def Moment.goSyntax (t : Moment) : String :=
  let s := t.stamp
  let place := match t.location with
    | .utc => "time.UTC"
    | .local => "time.Local"
    | .fixed _ _ => "time.Location(\"\")"
  "time.Date(" ++ toString s.year ++ ", time." ++ monthNames.getD (s.month - 1) "" ++ ", " ++
    ", ".intercalate ([s.day, s.hour, s.minute, s.second, s.nanos].map toString) ++ ", " ++
    place ++ ")"

/-- A scalar as a value of any type. -/
inductive Atom where
  | null
  | bool (b : Bool)
  | int (n : Int)
  | uint (n : Nat)
  | float (x : Decimal.Binary64)
  | text (s : String)
  | time (t : Moment)
  deriving Repr

/-- Whether two atoms are equal as keys: of one type and one value. -/
def Atom.same : Atom → Atom → Bool
  | .null, .null => true
  | .bool a, .bool b => a == b
  | .int a, .int b => a == b
  | .uint a, .uint b => a == b
  | .float a, .float b => a.same b
  | .text a, .text b => a == b
  | .time a, .time b => a.same b
  | _, _ => false

/-- The place of an atom's type in the order of keys: null first, then the types by name. -/
def Atom.typeRank : Atom → Nat
  | .null => 0
  | .bool _ => 1
  | .float _ => 2
  | .int _ => 3
  | .text _ => 4
  | .time _ => 5
  | .uint _ => 6

/-- How two texts compare by their bytes. -/
def byteOrder (a b : String) : Ordering :=
  if Text.byteLt a b then .lt else if Text.byteLt b a then .gt else .eq

/-- How keys are ordered: by type, then by value; false before true. -/
def Atom.order : Atom → Atom → Ordering
  | .bool a, .bool b => compare a b
  | .int a, .int b => compare a b
  | .uint a, .uint b => compare a b
  | .float a, .float b => a.order b
  | .text a, .text b => byteOrder a b
  | .time a, .time b => a.order b
  | a, b => compare a.typeRank b.typeRank

/-- An atom in Go syntax. -/
def Atom.goSyntax : Atom → String
  | .null => "interface \x7b\x7d(nil)"
  | .bool b => if b then "true" else "false"
  | .int n => toString n
  | .uint n => "0x" ++ String.ofList (Nat.toDigits 16 n)
  | .float x => x.general
  | .text s => Text.quote s
  | .time t => t.goSyntax

/-- A value decoded where any type will do: an atom, a list, or a table, whose keys are all
strings unless it is `general`. -/
inductive Loose where
  | atom (a : Atom)
  | list (items : List Loose)
  | table (general : Bool) (entries : List (Atom × Loose))
  deriving Repr

/-- The type of a list or table as the runtime names it; an atom's type by name. -/
def Loose.typeName : Loose → String
  | .atom .null => "<nil>"
  | .atom (.bool _) => "bool"
  | .atom (.int _) => "int"
  | .atom (.uint _) => "uint64"
  | .atom (.float _) => "float64"
  | .atom (.text _) => "string"
  | .atom (.time _) => "time.Time"
  | .list _ => "[]interface \x7b\x7d"
  | .table false _ => "map[string]interface \x7b\x7d"
  | .table true _ => "map[interface \x7b\x7d]interface \x7b\x7d"

mutual

/-- A value in Go syntax: lists and tables with their type, a table's entries ordered by key,
entries with equal keys in the order they were set. -/
def Loose.goSyntax : Loose → String
  | .atom a => a.goSyntax
  | .list items =>
    (Loose.list []).typeName ++ "\x7b" ++ ", ".intercalate (Loose.itemSyntax items) ++ "\x7d"
  | .table general entries =>
    let sorted := (Loose.entrySyntax entries).mergeSort fun a b => a.1.order b.1 != .gt
    (Loose.table general []).typeName ++ "\x7b" ++
      ", ".intercalate (sorted.map fun (k, v) => k.goSyntax ++ ":" ++ v) ++ "\x7d"

/-- The items of a list in Go syntax. -/
def Loose.itemSyntax : List Loose → List String
  | [] => []
  | x :: xs => x.goSyntax :: Loose.itemSyntax xs

/-- The entries of a table with their values in Go syntax. -/
def Loose.entrySyntax : List (Atom × Loose) → List (Atom × String)
  | [] => []
  | (k, v) :: rest => (k, v.goSyntax) :: Loose.entrySyntax rest

end

/-- A table's entries with one set: in place of an equal key, which it replaces, or at the
end. -/
def setEntry (entries : List (Atom × Loose)) (k : Atom) (v : Loose) : List (Atom × Loose) :=
  if entries.any (·.1.same k) then entries.map fun e => if e.1.same k then (k, v) else e
  else entries ++ [(k, v)]

end Yaml
end KernelSynth
