import ExprEmit.Command.Host

/-!
# A host in memory

A host whose files and streams are a value, so that runs of the program are functions.  A path is
followed part by part, from the root or the working directory; beside files there are directories,
devices, and the streams of the program.
-/

namespace ExprEmit.Command

/-! ### Paths -/

/-- Where a file or directory is: the names on the way to it.  The way from the root starts with `/`,
any other at the working directory; `..` stands only at its start, for the directories above. -/
abbrev Location : Type := List String

namespace Location

/-- Whether this is the working directory or one above it. -/
def isAbove (l : Location) : Bool := l.all (· == "..")

/-- The directory that holds this. -/
def parent (l : Location) : Location :=
  if l == ["/"] then l else if isAbove l then l ++ [".."] else l.dropLast

/-- Where a part of a path leads from here. -/
def step (l : Location) (part : String) : Location :=
  match part with
  | "." => l
  | ".." => parent l
  | name => l ++ [name]

end Location

/-- A written path. -/
structure Path where
  /-- Where it starts. -/
  start : Location
  /-- The parts between its slashes. -/
  parts : List String
  /-- Whether a slash ends it, so that it can only be a directory. -/
  endsInSlash : Bool
deriving DecidableEq, Inhabited

/-- The length of the longest path, in bytes. -/
def longestPath : Nat := 4095

/-- The length of the longest name in a path, in bytes. -/
def longestName : Nat := 255

/-- Reads a path. -/
def Path.ofString (s : String) : Path where
  start := if s.startsWith "/" then ["/"] else []
  parts := (s.splitOn "/").filter (· != "")
  endsInSlash := s.endsWith "/"

/-! ### Disks -/

/-- What a location holds. -/
inductive Node where
  | file (bytes : List UInt8)
  | directory
  /-- A device that takes every write and holds nothing. -/
  | null
  /-- A device that refuses every write. -/
  | full
  /-- The standard output. -/
  | output
  /-- The standard error stream. -/
  | errors
deriving DecidableEq, Inhabited

/-- The files of a host in memory, and what it has printed. -/
structure Disk where
  nodes : List (Location × Node)
  out : String
  err : String
deriving Inhabited

namespace Disk

/-- The disk with an empty working directory and what every system has. -/
def empty : Disk where
  nodes :=
    (["/"], .directory) ::
      ["bin", "boot", "dev", "etc", "home", "lib", "lib64", "media", "mnt", "opt", "proc", "root",
        "run", "sbin", "srv", "sys", "tmp", "usr", "var"].map (fun name => (["/", name], .directory)) ++
      [(["/", "dev", "null"], .null), (["/", "dev", "zero"], .null), (["/", "dev", "full"], .full),
        (["/", "dev", "stdin"], .null), (["/", "dev", "stdout"], .output),
        (["/", "dev", "stderr"], .errors)]
  out := ""
  err := ""

/-- What a location holds. -/
def node? (d : Disk) (l : Location) : Option Node :=
  if l.isAbove then some .directory else d.nodes.lookup l

/-- The disk with `n` at the location `l`. -/
def put (d : Disk) (l : Location) (n : Node) : Disk :=
  { d with nodes := (l, n) :: d.nodes.filter (·.1 != l) }

/-- The disk with a file in the working directory. -/
def withFile (d : Disk) (name : String) (bytes : List UInt8) : Disk := d.put [name] (.file bytes)

/-- The bytes of a file in the working directory. -/
def file? (d : Disk) (name : String) : Option (List UInt8) :=
  match d.node? [name] with
  | some (.file bytes) => some bytes
  | _ => none

/-- Follows the parts of a path from a location, through directories. -/
def follow (d : Disk) (l : Location) : List String → Except SystemError Location
  | [] => .ok l
  | part :: rest =>
    if longestName < part.utf8ByteSize then .error .nameTooLong
    else
      match d.node? (l.step part) with
      | some .directory => d.follow (l.step part) rest
      | some _ => .error .notDirectory
      | none => .error .notFound

/-- Where a path leads: the directory at its end, and the part that it wants there. -/
structure Goal where
  inside : Location
  part : String
  endsInSlash : Bool
deriving DecidableEq, Inhabited

/-- The location of what the path leads to. -/
def Goal.location (g : Goal) : Location := g.inside.step g.part

/-- Follows a path up to its last part. -/
def goal (d : Disk) (path : String) : Except SystemError Goal :=
  if longestPath < path.utf8ByteSize then .error .nameTooLong
  else if path.isEmpty then .error .notFound
  else
    let p := Path.ofString path
    (d.follow p.start p.parts.dropLast).map (⟨·, p.parts.getLast?.getD ".", p.endsInSlash⟩)

/-! ### Files -/

/-- Reads a file. -/
def read (path : String) (d : Disk) : Except SystemError (List UInt8) := do
  let g ← d.goal path
  if longestName < g.part.utf8ByteSize then throw .nameTooLong
  match d.node? g.location with
  | some .directory => throw .isDirectory
  | some n =>
    if g.endsInSlash then throw .notDirectory
    match n with
    | .file bytes => return bytes
    | _ => return []
  | none => throw .notFound

/-- Finds the location of a file to create, or to empty. -/
def target (path : String) (d : Disk) : Except SystemError Location := do
  let g ← d.goal path
  if g.endsInSlash then throw .isDirectory
  if longestName < g.part.utf8ByteSize then throw .nameTooLong
  if d.node? g.location = some .directory then throw .isDirectory
  return g.location

/-- Creates a file, or empties it. -/
def create (path : String) (d : Disk) : Except SystemError PUnit × Disk :=
  match d.target path with
  | .error e => (.error e, d)
  | .ok l =>
    match d.node? l with
    | some (.file _) | none => (.ok ⟨⟩, d.put l (.file []))
    | some _ => (.ok ⟨⟩, d)

/-- The text of bytes that a stream gets. -/
def textOf (bytes : List UInt8) : String :=
  (String.fromUTF8? (ByteArray.mk bytes.toArray)).getD ""

/-- What a location holds, as a device. -/
def device (l : Location) : Device Disk where
  write bytes d :=
    match d.node? l with
    | some (.file held) => (.ok bytes.length, d.put l (.file (held ++ bytes)))
    | some .null => (.ok bytes.length, d)
    | some .output => (.ok bytes.length, { d with out := d.out ++ textOf bytes })
    | some .errors => (.ok bytes.length, { d with err := d.err ++ textOf bytes })
    | _ => (.error (.refused SystemError.noSpace.message), d)
  flush d := (.ok (), d)

/-- Writes a unit to a file through a buffer. -/
def deliver (path : String) (u : Generated) (d : Disk) : Delivered × Disk :=
  let l := (d.target path).toOption.getD []
  let w := u.writeInto (Buffered.device bufferSize (device l)) ⟨[], d⟩
  (⟨w.result, w.log⟩, w.device.behind)

/-- The disk as a host. -/
def host : Host (StateM Disk) where
  read path := fun d => (d.read path, d)
  create path := fun d => d.create path
  deliver path u := fun d => d.deliver path u
  out s := fun d => (⟨⟩, { d with out := d.out ++ s })
  err s := fun d => (⟨⟩, { d with err := d.err ++ s })

end Disk

end ExprEmit.Command
