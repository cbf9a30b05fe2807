import ModelLinker.Json.Reader
import ModelLinker.Source.Document

/-!
Source files: getting the text of a file and the document in it.
-/

namespace ModelLinker

/-- What a path leads to. -/
inductive FileContent where
  | missing
  | directory
  | notDirectory
  | nameTooLong
  | nulInName
  /-- Reading fails for another reason, whether the path leads anywhere or not. -/
  | refused (found : Bool) (reason : String) (number : Nat)
  | bytes (data : ByteArray)

/-- Why the text of a file cannot be had. -/
inductive FileError where
  | missing
  | isDirectory
  | notDirectory
  | nameTooLong
  | nulInName
  | refused (reason : String) (number : Nat)
  | notText
deriving DecidableEq, Repr

def FileError.message : FileError → String
  | .missing => "No such file or directory (os error 2)"
  | .isDirectory => "Is a directory (os error 21)"
  | .notDirectory => "Not a directory (os error 20)"
  | .nameTooLong => "File name too long (os error 36)"
  | .nulInName => "file name contained an unexpected NUL byte"
  | .refused reason number => reason ++ " (os error " ++ toString number ++ ")"
  | .notText => "stream did not contain valid UTF-8"

def FileContent.text : FileContent → Except FileError String
  | .missing => .error .missing
  | .directory => .error .isDirectory
  | .notDirectory => .error .notDirectory
  | .nameTooLong => .error .nameTooLong
  | .nulInName => .error .nulInName
  | .refused _ reason number => .error (.refused reason number)
  | .bytes data => match String.fromUTF8? data with
    | some s => .ok s
    | none => .error .notText

/-- Why the document in a file cannot be had. -/
inductive FileProblem where
  | file (e : FileError)
  | syntaxError (e : Json.SyntaxError)

def FileProblem.message : FileProblem → String
  | .file e => "io error: " ++ e.message
  | .syntaxError e => "json error: " ++ e.message

def FileContent.document (content : FileContent) : Except FileProblem Json :=
  match content.text with
  | .error e => .error (.file e)
  | .ok text => match Json.read text with
    | .error e => .error (.syntaxError e)
    | .ok j => .ok j

/-- One more document from a file, checked and read first. -/
def SourceSet.addFile (set : SourceSet) (name : String) (content : FileContent) :
    Except FileProblem SourceSet :=
  content.document.map (set.addJson name)

end ModelLinker
