import SchemaModel.CommandLine.Plan

/-!
# `SchemaModel.CommandLine.Disk` — running commands on a disk

## Contents
- `Disk`: the folder in which commands run, other folders, and files. Each has the parts of its path
  from the root.
- `place?`: where a path leads, from the root or from home; every folder on the way has to exist.
- `read`, `write`: the text of a file, and the disk with another text in it. What is written to the
  `sink` is lost.
- `Disk.run`: what a command line prints and ends with, and the disk after it.
-/

namespace SchemaModel.CommandLine

/-- Folders and files, each with the parts of its path from the root. -/
structure Disk where
  /-- The folder in which commands run. -/
  home : List String
  /-- Folders that exist even if nothing is in them. -/
  folders : List (List String)
  files : List (List String × String)

namespace Disk

/-! ## Paths -/

/-- The file that keeps nothing; every disk has it. -/
def sink : List String := ["dev", "null"]

/-- A directory: a folder of the disk, one that a file is in, or one around them. -/
def isDirectory (d : Disk) (place : List String) : Bool :=
  (d.home :: sink.dropLast :: (d.folders ++ d.files.map fun file => file.1.dropLast)).any
    place.isPrefixOf

/-- Where the parts of a path lead from a place. The root is its own parent. -/
def walk? (d : Disk) : List String → List String → Option (List String)
  | place, [] => some place
  | place, part :: rest =>
    -- Even a dot or an empty part needs a directory in front of it.
    if !d.isDirectory place then none
    else if part == "" || part == "." then walk? d place rest
    else if part == ".." then walk? d place.dropLast rest
    else walk? d (place ++ [part]) rest

/-- Whether a part of a path can name anything: it takes at most 255 octets and holds no zero. -/
def isNameable (part : String) : Bool := part.utf8ByteSize ≤ 255 && !part.toList.contains '\x00'

/-- The parts of a path, which is shorter than 4096 octets. -/
def parts? (path : String) : Option (List String) :=
  let parts := Text.split '/' path
  if path.utf8ByteSize < 4096 && parts.all isNameable then some parts else none

/-- Where a path starts. -/
def start (d : Disk) (path : String) : List String :=
  if path.toList.head? == some '/' then [] else d.home

/-- Where a path leads. -/
def place? (d : Disk) (path : String) : Option (List String) :=
  if path == "" then none else (parts? path).bind (d.walk? (d.start path))

/-! ## Files -/

/-- Why a file is not found. -/
def notFound : String := "No such file or directory (os error 2)"

/-- Why a directory is no file. -/
def isNoFile : String := "Is a directory (os error 21)"

/-- The text at a place. -/
def readAt (d : Disk) (place : List String) : Except String String :=
  if place = sink then .ok ""
  else if d.isDirectory place then .error isNoFile
  else match d.files.lookup place with
    | some text => .ok text
    | none => .error notFound

/-- The text of a file. -/
def read (d : Disk) : Files := fun path =>
  match d.place? path with
  | none => .error notFound
  | some place => d.readAt place

/-- Puts a text in place of a file's, or adds the file. -/
def put (place : List String) (text : String) :
    List (List String × String) → List (List String × String)
  | [] => [(place, text)]
  | (path, old) :: rest =>
    if path = place then (place, text) :: rest else (path, old) :: put place text rest

/-- The disk with a text at a place. -/
def writeAt (d : Disk) (place : List String) (text : String) : Except String Disk :=
  if place = sink then .ok d
  else if d.isDirectory place then .error isNoFile
  else .ok { d with files := put place text d.files }

/-- The disk with a text in a file. -/
def write (d : Disk) (path text : String) : Except String Disk :=
  match d.place? path with
  | none => .error notFound
  | some place => d.writeAt place text

/-- The disk with a file under home, and with the folders on the way. -/
def add (d : Disk) (path text : String) : Disk :=
  { d with files := put (d.home ++ Text.split '/' path) text d.files }

/-- A disk with some files under home. -/
def ofList (home : List String) (files : List (String × String)) : Disk :=
  files.foldl (fun d (path, text) => d.add path text) ⟨home, [], []⟩

/-! ## Command lines -/

/-- Carries out what a plan keeps. -/
def settle (d : Disk) (p : Plan) : Report × Disk :=
  match p.keep with
  | none => (p.settle (.ok ()), d)
  | some (path, text) =>
    match d.write path text with
    | .ok after => (p.settle (.ok ()), after)
    | .error reason => (p.settle (.error reason), d)

/-- What came of a command line. -/
structure Answer where
  output : String
  exitCode : Nat
  fault : Option Fault

/-- What a report comes to. -/
def Answer.ofReport (r : Report) : Answer := ⟨r.output, r.exitCode, r.fault⟩

/-- The status of a command line that is written wrong. -/
def usageStatus : Nat := 2

/-- What an invocation finds on the disk at some time. No database takes time to answer. -/
def circumstances (d : Disk) (now : Time.Instant) : Circumstances := ⟨d.read, now, 0⟩

/-- Runs a command line at home at some time. -/
def run (d : Disk) (now : Time.Instant) (words : List String) : Answer × Disk :=
  match Request.ofWords? words with
  | none => (⟨"", usageStatus, none⟩, d)
  | some .help => (⟨helpText, 0, none⟩, d)
  | some .version => (⟨versionText, 0, none⟩, d)
  | some (.perform i) =>
    let (report, after) := d.settle (i.plan (d.circumstances now))
    (.ofReport report, after)

end Disk

end SchemaModel.CommandLine
