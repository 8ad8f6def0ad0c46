import Tint.Command.Run
import Tint.Png.Decode
import Tint.Png.Encode

/-!
# The program on files

The program with the files of the host: what it reads is told apart by its first bytes, and
what it writes is a picture file. No library but this one reads pictures.
-/

namespace Tint.Host

/-- What bytes hold: a picture file, text, or neither. -/
def contentOf (bytes : ByteArray) : Content :=
  if Png.isSigned bytes then
    match Png.decode? bytes with
    | some picture => .picture picture
    | none => .bytes bytes
  else
    match String.fromUTF8? bytes with
    | some text => .text text
    | none => .bytes bytes

/-- The codes of a name that is too long. -/
def tooLongCodes : List UInt32 := [36, 0 - 36]

/-- The refusal that an error of the host is. -/
def refusalOf (e : IO.Error) : AccessError :=
  match e with
  | .noFileOrDirectory .. => .notFound
  | .alreadyExists .. => .alreadyExists
  | .inappropriateType _ code _ => if code = 21 then .isDirectory else .notDirectory
  | .invalidArgument _ code _ =>
    if tooLongCodes.contains code then .nameTooLong else .other (toString e)
  | .permissionDenied .. => .other "Permission denied (os error 13)"
  | e => .other (toString e)

/-- An action of the host, its errors being answers. -/
def attempt {α : Type} (action : IO α) : IO (Except AccessError α) := do
  try return .ok (← action) catch e => return .error (refusalOf e)

/-- There is a directory at a path: it can be opened, but not read. -/
def isDirectory (path : String) : IO Bool := do
  try
    let _ ← IO.FS.withFile path .read fun file => file.read 1
    return false
  catch e => return refusalOf e = .isDirectory

/-- Make a directory, or be content with one that is there. -/
def ensureDirectory (path : String) : IO Unit := do
  try IO.FS.createDir path catch e => unless ← isDirectory path do throw e

/-- Make a directory. If the way to it does not exist, that is made first; each step of the
way is shorter. -/
def ensureWay (path : String) : Nat → IO Unit
  | 0 => return ()
  | fuel + 1 => do
    try ensureDirectory path
    catch e =>
      match refusalOf e, Path.parent? path with
      | .notFound, some parent =>
        ensureWay parent fuel
        ensureDirectory path
      | _, _ => throw e

/-- The files of the host. -/
def fileSystem : FileSystem IO where
  read path := attempt do return contentOf (← IO.FS.readBinFile path)
  createDirectories path := attempt (ensureWay path path.length)
  write path format picture :=
    if format = .png then attempt (IO.FS.writeBinFile path (Png.encode picture))
    else return .error (.other (Defect.unsupported format).text)

end Tint.Host

/-- Run the program with the arguments of the command line. -/
def main (arguments : List String) : IO UInt32 := do
  let codec := Tint.Codec.withForeign .none
  let outcome ← Tint.Program.run codec Tint.Host.fileSystem .hostOnly arguments
  IO.print outcome.output
  IO.eprint outcome.errors
  return UInt32.ofNat outcome.status
