import SourceAtlas.CommandLine

/-!
# The program

Takes a snapshot of the directory that the arguments name, runs the command on it, prints what it
shows and reports progress where errors are printed. Nothing is decided here.
-/

namespace SourceAtlas

/-- Whether the content of a file of this name can matter. -/
def isRead (name : String) : Bool :=
  name == Settings.fileName || (Dialect.ofPath? (Path.ofString name)).isSome

/-- The bytes of a file; none if it may not be opened. -/
def bytesOf (path : String) : IO (List UInt8) := do
  match ← (IO.FS.readBinFile path).toBaseIO with
  | .ok bytes => return bytes.toList
  | .error _ => return []

/-- **Takes a snapshot** of what is at a path, under a name. Links are followed for as long as the
system does it, so a circle of links ends with one that leads nowhere. -/
partial def snapshot (path name : String) : IO Entry := do
  let here := (← IO.currentDir) / path
  if ← here.isDir then
    let isLink := (← here.symlinkMetadata).type == .symlink
    let entries ← (← here.readDir).toList.mapM fun listed =>
      snapshot (path ++ "/" ++ listed.fileName) listed.fileName
    return .directory name entries isLink
  else if (← here.pathExists) && isRead name then return .file name (← bytesOf here.toString)
  else return .file name []

/-- The path without detours of something that exists. -/
def realPath (p : Path) : IO Path := do
  return Path.ofString (← IO.FS.realPath p.toString).toString

/-- Puts something that exists where its path leads to. -/
def place (d : Disk) (real : Path) (e : Entry) : Disk :=
  if real.parts.isEmpty then { d with entries := e.entries } else d.put real fun _ => e

/-- The disk as far as a path leads: every directory on the way, and all that is at its end. With it
comes the path by which the end is found there. All directories are where they really are, so a path
that leads through links gives way to the real one. -/
def diskFor (root : Path) : IO (Disk × Path) := do
  let here ← IO.currentDir
  let current := Path.ofString here.toString
  let p := current.join root
  let mut d : Disk := { entries := [], current := current.parts }
  for n in List.range p.parts.length do
    let way := { p with parts := p.parts.take n }
    if ← (here / way.toString).isDir then
      let real ← realPath way
      d := place d real (.directory real.name [])
  if ← (here / p.toString).pathExists then
    let real ← realPath p
    d := place (d.erase real) real (← snapshot real.toString real.name)
    if (d.find root).isOk then return (d, root) else return (d, real)
  else return (d, root)

/-- Whether an entry is printed. -/
def isPrinted (isVerbose : Bool) (e : LogEntry) : Bool :=
  isVerbose || e.level != .info

end SourceAtlas

open SourceAtlas in
/-- **The program.** -/
def main (args : List String) : IO UInt32 := do
  let (shown, isVerbose) ← match Command.parse? args with
    | some (.analyze root o) => do
      let (disk, found) ← diskFor (Path.ofString root)
      pure (o.run disk found, o.isVerbose)
    | _ => pure (Command.run { entries := [] } args, false)
  for e in shown.log do
    if isPrinted isVerbose e then IO.eprintln e.message
  IO.print shown.value.output
  IO.eprint shown.value.errors
  if let some f := shown.value.unhandled then IO.eprintln f.message
  return UInt32.ofNat shown.value.exitCode
