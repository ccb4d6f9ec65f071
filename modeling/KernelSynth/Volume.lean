/-
# In-memory volumes

A `Volume` holds files by path, the last write of a path winning. Paths are
looked up cleaned, with `.` and `..` standing for the root `/`; the
directories of a volume are the root and every directory above one of its
files. Reading a directory gives no text; reading a path that is neither a
file nor a directory fails, naming the path as it was looked up. Files
written under two paths with one key are one file (`settle`).

Key definitions: `Volume`, `Volume.key`, `Volume.isDir`, `Volume.read`,
`Volume.write`, `Volume.settle`.
-/
import KernelSynth.Artifact.Path
import KernelSynth.Fault

namespace KernelSynth

/-- Files by path, in the order they were first written. -/
structure Volume where
  files : List (String × String)
  deriving Repr

namespace Volume

/-- The volume with no file. -/
def empty : Volume := ⟨[]⟩

/-- The key a path is stored under: the cleaned path, the root for `.` and `..`. -/
def key (p : String) : String :=
  let c := Path.clean p
  if c = "." ∨ c = ".." then "/" else c

/-- The directories above a cleaned path, nearest first, ending at the root for a relative
path. -/
def parents (p : String) : List String :=
  let parts := p.splitOn "/"
  (List.range (parts.length - 1)).reverse.map fun n =>
    let d := "/".intercalate (parts.take (n + 1))
    if d = "" then "/" else d

/-- Whether a path names a directory of the volume. -/
def isDir (v : Volume) (p : String) : Bool :=
  let k := key p
  k = "/" || v.files.any fun f => (parents f.1).contains k

/-- The text of the file at a path, or the fault of a missing file; a directory reads as no
text. -/
def read (v : Volume) (p : String) : Except Fault String :=
  match v.files.find? (·.1 = key p) with
  | some f => .ok f.2
  | none => if v.isDir p then .ok "" else .error (.missingFile p (key p))

/-- The volume with a file written at a path, replacing one there. -/
def write (v : Volume) (p : String) (text : String) : Volume :=
  let k := key p
  if v.files.any (·.1 = k) then ⟨v.files.map fun f => if f.1 = k then (k, text) else f⟩
  else ⟨v.files ++ [(k, text)]⟩

/-- The volume with files written in order. -/
def writeAll (v : Volume) (fs : List (String × String)) : Volume :=
  fs.foldl (fun v f => v.write f.1 f.2) v

/-- Files written in order, each path with the text its file holds after all of them: paths
with one key name one file, which holds the last text written to any of them. -/
def settle (fs : List (String × String)) : List (String × String) :=
  fs.map fun (p, t) => (p, ((fs.filter (key ·.1 = key p)).getLast?.map (·.2)).getD t)

end Volume
end KernelSynth
