import BlockAuthoring.Disk.Tree
import BlockAuthoring.Json.Reader
import BlockAuthoring.Text.Base64

/-!
# Why a source gives no blocks

What can go wrong between a source of blocks and its reader. Some errors mean that there is no such
thing; those of the service carry the status of its answer.
-/

namespace BlockAuthoring

/-- Why the content of a file is no text. -/
inductive ContentFault where
  | letters (fault : Text.Base64.Fault)
  | bytes (fault : Text.Utf8.Fault)
  deriving DecidableEq, Repr

/-- The wording of a fault. -/
def ContentFault.message : ContentFault → String
  | letters f => f.message
  | bytes f => f.message

/-- Why a source gives no blocks. -/
inductive SourceError where
  | folderMissing (path : Path)
  | blockMissing (name : String)
  | codeMissing (name : String)
  | unreadable (name : String) (error : DiskError)
  | contentsMissing (path : String)
  | fileMissing (path : String)
  | timedOut (detail : String)
  | unreachable (detail : String)
  | refused (path : String) (status : Nat) (body : String)
  | notAFolder (path : String)
  | notAFile (path : String)
  | undecodable (path : String) (fault : ContentFault)
  deriving DecidableEq, Repr

namespace SourceError

/-- How much of a body is told. -/
def bodyLength : Nat := 200

/-- The wording of an error. -/
def message : SourceError → String
  | folderMissing path => "Blocks directory not found at " ++ path.toString
  | blockMissing name => "Block \"" ++ name ++ "\" not found"
  | codeMissing name => "Block \"" ++ name ++ "\" does not have a JavaScript file"
  | unreadable name error =>
    "Failed to get block code for " ++ name ++ ": " ++ error.message
  | contentsMissing path => "Not found: " ++ path
  | fileMissing path => "File not found: " ++ path
  | timedOut detail => "GitHub request timed out: " ++ detail
  | unreachable detail => "GitHub request failed: " ++ detail
  | refused path status body =>
    "Failed to fetch " ++ path ++ " from GitHub: " ++ toString status ++ " "
      ++ String.ofList (body.toList.take bodyLength)
  | notAFolder path => path ++ " is not a directory"
  | notAFile path => path ++ " is not a file"
  | undecodable path fault => "Failed to decode " ++ path ++ ": " ++ fault.message

/-- There is no such thing. -/
def isMissing : SourceError → Bool
  | folderMissing _ | blockMissing _ | codeMissing _ | contentsMissing _ | fileMissing _ => true
  | _ => false

/-- The status of the service's answer. -/
def status? : SourceError → Option Nat
  | contentsMissing _ | fileMissing _ => some 404
  | refused _ status _ => some status
  | _ => none

end SourceError

/-- What is wrong with an answer that has not the form of contents. -/
inductive Malformation where
  | notJson (error : Json.ReadError)
  | notAnObject (type : String)
  | nameMissing
  | nameNotComparable (type : String)
  | namesNotOrdered (type type' : String)
  | contentNotText (type : String)
  | contentNotAscii
  | addressWithControl (shown : String) (position : Nat)
  | addressTooLong
  deriving DecidableEq, Repr

/-- The wording of a malformation. -/
def Malformation.message : Malformation → String
  | notJson e => e.message
  | notAnObject type => "\x27" ++ type ++ "\x27 object has no attribute \x27get\x27"
  | nameMissing => "\x27name\x27"
  | nameNotComparable type => "unhashable type: \x27" ++ type ++ "\x27"
  | namesNotOrdered type type' =>
    "\x27<\x27 not supported between instances of \x27" ++ type ++ "\x27 and \x27" ++ type' ++ "\x27"
  | contentNotText type =>
    "argument should be a bytes-like object or ASCII string, not \x27" ++ type ++ "\x27"
  | contentNotAscii => "string argument should contain only ASCII characters"
  | addressWithControl shown position =>
    "Invalid non-printable ASCII character in URL, " ++ shown ++ " at position "
      ++ toString position ++ "."
  | addressTooLong => "URL too long"

end BlockAuthoring
