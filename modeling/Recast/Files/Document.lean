import Recast.Files.Store
import Recast.Json.Decode
import Recast.Json.Printer
/-!
Loading and saving JSON documents.

A document is loaded by reading its file as UTF-8 text and reading that text whole as the
document's type; a failure says which file and why, the reason of a parse failure carrying the
line and column where reading stopped. A document is saved as pretty JSON (two-space
indentation, no trailing newline), replacing the file.
-/

namespace Recast

open Json

/-- Why a document could not be loaded or saved. -/
inductive FileError where
  | read (path : String) (error : OsError)
  | write (path : String) (error : OsError)
  | parse (path : String) (error : DecodeError)

namespace FileError

/-- The text of the reason alone. -/
def reason : FileError → String
  | .read _ error => error.text
  | .write _ error => error.text
  | .parse _ error => error.textMessage

/-- The text of a file error. -/
def message (error : FileError) : String :=
  match error with
  | .read path _ => "Could not read '" ++ path ++ "': " ++ error.reason
  | .write path _ => "Could not write '" ++ path ++ "': " ++ error.reason
  | .parse path _ => "Could not parse '" ++ path ++ "': " ++ error.reason

end FileError

/-- Loads a document of the type a decoder reads. -/
def loadDocument {m : Type → Type} {α : Type} [Monad m] [FileSystem m] (decode : Decoder α)
    (path : String) : m (Except FileError α) := do
  match ← FileSystem.readBytes path with
  | .error error => pure (.error (.read path error))
  | .ok bytes =>
    match String.fromUTF8? bytes with
    | none => pure (.error (.read path .invalidUtf8))
    | some text =>
      match Decoder.ofText decode text with
      | .ok value => pure (.ok value)
      | .error error => pure (.error (.parse path error))

/-- Saves a document as pretty JSON. -/
def saveDocument {m : Type → Type} [Monad m] [FileSystem m] (document : Json) (path : String) :
    m (Except FileError Unit) := do
  match ← FileSystem.writeBytes path document.pretty.toUTF8 with
  | .ok () => pure (.ok ())
  | .error error => pure (.error (.write path error))

end Recast
