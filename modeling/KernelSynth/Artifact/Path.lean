/-
# Slash-separated paths

`Path.clean` gives the shortest path naming the same file by lexical
processing alone: empty and `.` elements are dropped, a `..` element
removes the element before it unless that is itself `..`, a `..` at the
start of a rooted path is dropped, and the rest are joined by slashes, with
a leading slash for a rooted path. A path that is left empty is `.`.

`Path.join` joins a directory and a file name with a slash and cleans the
result, skipping an empty directory; two empty names join to the empty path.

Key definitions: `Path.clean`, `Path.join`.
Key theorems: `Path.join_empty_left`.
-/

namespace KernelSynth
namespace Path

/-- The elements of a path, pushed onto a stack (last element first): empty and `.` elements
are dropped, `..` cancels the element below it unless that is `..`, and at the root of a
rooted path it is dropped. -/
def push (rooted : Bool) : List String → String → List String
  | stack, "" => stack
  | stack, "." => stack
  | top :: rest, ".." => if top = ".." then ".." :: top :: rest else rest
  | [], ".." => if rooted then [] else [".."]
  | stack, e => e :: stack

/-- The shortest path that names the same file, by lexical processing. -/
def clean (p : String) : String :=
  let rooted := p.startsWith "/"
  let stack := (p.splitOn "/").foldl (push rooted) []
  let body := "/".intercalate stack.reverse
  if rooted then "/" ++ body
  else if body = "" then "." else body

/-- A directory and a file name joined by a slash and cleaned; an empty directory is skipped,
and two empty names join to the empty path. -/
def join (dir file : String) : String :=
  if dir = "" then (if file = "" then "" else clean file)
  else clean (dir ++ "/" ++ file)

theorem join_empty_left (file : String) (h : file ≠ "") : join "" file = clean file := by
  simp [join, h]

end Path
end KernelSynth
