import Tint.Formats.Decode
import Tint.Files.Path
import Tint.Png.Encode

/-!
# What files hold

A file holds a picture, text, or something else. Which picture format a file has is told by
the extension of its path, before anything of it is read.

## The model

* `Content` is what a file holds, as far as this program can tell.
* `AccessError` is a refusal of the file system, `FormatError` a path whose extension is
  that of no picture.
* `Codec` is what reads pictures out of files. The program takes whatever it reads; the codec of
  this library is `Codec.withForeign`.
* `FileSystem m` is what the program asks of the file system, as actions of a monad `m`.
-/

namespace Tint

/-- What a file holds. -/
inductive Content where
  /-- A picture without loss. -/
  | picture (picture : Picture)
  /-- Text. -/
  | text (text : String)
  /-- Other bytes. -/
  | bytes (bytes : ByteArray)

/-- Why the file system refuses a request. -/
inductive AccessError where
  /-- A name on the way does not exist. -/
  | notFound
  /-- The name is taken. -/
  | alreadyExists
  /-- A name on the way is not a directory. -/
  | notDirectory
  /-- The name is that of a directory. -/
  | isDirectory
  /-- A name, or all of a path, has too many bytes. -/
  | nameTooLong
  /-- Another refusal, with its wording. -/
  | other (text : String)
deriving DecidableEq, Repr

/-- The wording of a refusal. -/
def AccessError.text : AccessError → String
  | notFound => "No such file or directory (os error 2)"
  | alreadyExists => "File exists (os error 17)"
  | notDirectory => "Not a directory (os error 20)"
  | isDirectory => "Is a directory (os error 21)"
  | nameTooLong => "File name too long (os error 36)"
  | other text => text

/-- Why a path is not that of a picture. -/
inductive FormatError where
  /-- There is no extension. -/
  | undetermined
  /-- The extension is that of no picture. -/
  | unrecognized (extension : String)
deriving DecidableEq, Repr

/-- The wording of the error. -/
def FormatError.text : FormatError → String
  | undetermined => "The image format could not be determined"
  | unrecognized extension =>
    "The file extension `." ++ String.ofList (Text.quoted extension.toList) ++
      "` was not recognized as an image format"

/-- The format of an extension. -/
def formatOf (extension : String) : Except FormatError PictureFormat :=
  match PictureFormat.ofExtension? extension with
  | some format => .ok format
  | none => .error (.unrecognized extension)

/-- The format to read from a path. An extension without letters says nothing. -/
def formatToRead (path : String) : Except FormatError PictureFormat :=
  match Path.extension? path with
  | none => .error .undetermined
  | some extension => if extension.isEmpty then .error .undetermined else formatOf extension

/-- The format to write to a path. -/
def formatToWrite (path : String) : Except FormatError PictureFormat :=
  match Path.extension? path with
  | none => .error .undetermined
  | some extension => formatOf extension

namespace Content

/-- The bytes of a file. -/
def toBytes : Content → ByteArray
  | picture p => Png.encode p
  | text t => t.toUTF8
  | bytes b => b

/-- The picture of a file that is read as one of a format. -/
def toPicture (foreign : Foreign) (f : PictureFormat) (c : Content) : Except Defect Picture :=
  match f, c with
  | .png, picture p => (Reading.held p).answer ByteArray.empty
  | _, _ => f.decode foreign c.toBytes

/-- The text of a file. -/
def toText : Content → Except (List String) String
  | text t => .ok t
  | c =>
    match String.fromUTF8? c.toBytes with
    | some t => .ok t
    | none => .error ["stream did not contain valid UTF-8"]

end Content

/-- What reads pictures out of files. -/
structure Codec where
  /-- The picture of a file that is read as one of a format, or what is said of the file instead,
  from the outside in. -/
  decode (format : PictureFormat) (content : Content) : Except (List String) Picture
  /-- What is said of a file that is read as one of a format if the file system refuses to, in the
  words of its refusal. -/
  refusal (format : PictureFormat) (text : String) : List String

/-- The codec of this library, with the readers of others. -/
def Codec.withForeign (foreign : Foreign) : Codec where
  decode format content := (content.toPicture foreign format).mapError Defect.causes
  refusal format text := (format.refusal text).causes

/-- What a program asks of the file system. -/
structure FileSystem (m : Type → Type) where
  /-- Read the file at a path. -/
  read (path : String) : m (Except AccessError Content)
  /-- Make the directory at a path, and those on the way to it. -/
  createDirectories (path : String) : m (Except AccessError Unit)
  /-- Put a picture into the file at a path, in a format. -/
  write (path : String) (format : PictureFormat) (picture : Picture) : m (Except AccessError Unit)

/-- The picture that was found at a path. That a directory is none shows only after its
path is found to be that of a picture. -/
def pictureAt (codec : Codec) (path : String) (found : Except AccessError Content) :
    Except (List String) Picture :=
  match found with
  | .ok content => do
    let format ← (formatToRead path).mapError fun e => [e.text]
    codec.decode format content
  | .error .isDirectory => do
    let format ← (formatToRead path).mapError fun e => [e.text]
    throw (codec.refusal format AccessError.isDirectory.text)
  | .error e => throw [e.text]

/-- The text that was found at a path. -/
def textAt (found : Except AccessError Content) : Except (List String) String :=
  match found with
  | .ok content => content.toText
  | .error e => throw [e.text]

end Tint
