/-
# The `kernelgen` program

Runs the command on the real file system. The configuration file the command
line names is read first (a file that cannot be read is left out, and the
command reports it missing); then the command runs, its output is printed,
and the artifacts it produced are written, each directory made on the way.
A failure is printed to standard error and ends the program with status 1.
Arguments and file contents are read as byte texts, and text goes out as
its bytes, so bytes decoded from base64 are written as they are.
-/
import KernelSynth.Cli.Command

namespace KernelSynth
namespace Launch

/-- The directory part of a path, if it names one. -/
def parentDir (p : String) : Option String :=
  match (p.splitOn "/").dropLast with
  | [] => none
  | parts =>
    let dir := "/".intercalate parts
    if dir = "" then none else some dir

/-- A volume holding the configuration file the arguments name, if it can be read. -/
def configVolume (args : List String) : IO Volume := do
  match Cli.parse Cli.flags args with
  | .error _ => return Volume.empty
  | .ok line =>
    match line.text? "config" with
    | none => return Volume.empty
    | some path =>
      if path = "" then return Volume.empty
      try
        let data ← IO.FS.readBinFile (Text.lossy path)
        return Volume.empty.write path (Text.ofBytes (data.toList.map UInt8.toNat))
      catch _ =>
        return Volume.empty

/-- The bytes of a text, as written out. -/
def byteArray (s : String) : ByteArray := ⟨((Text.bytes s).map Nat.toUInt8).toArray⟩

/-- Writes text to a stream as its bytes. -/
def emit (stream : IO.FS.Stream) (s : String) : IO Unit := do
  stream.write (byteArray s)
  stream.flush

/-- Writes the artifacts of a run, making their directories. -/
def writeAll (writes : List (String × String)) : IO Unit := do
  for (path, text) in writes do
    if let some dir := parentDir path then IO.FS.createDirAll (Text.lossy dir)
    IO.FS.writeBinFile (Text.lossy path) (byteArray text)

end Launch
end KernelSynth

/-- Runs `kernelgen` with the program's arguments. -/
def main (words : List String) : IO UInt32 := do
  let args := words.map KernelSynth.Text.ofUnicode
  let run := KernelSynth.Cli.invoke (← KernelSynth.Launch.configVolume args) args
  let out ← IO.getStdout
  let err ← IO.getStderr
  KernelSynth.Launch.emit err run.diagnostics
  KernelSynth.Launch.emit out run.stdout
  try
    KernelSynth.Launch.writeAll run.writes
  catch e =>
    KernelSynth.Launch.emit err ("Error: " ++ toString e ++ "\n")
    return 1
  KernelSynth.Launch.emit err run.stderr
  return run.status
