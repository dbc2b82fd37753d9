import BlockAuthoring.Console
import BlockAuthoring.Project.Setup
import BlockAuthoring.Source.Listing
import BlockAuthoring.Tool.Generation

/-!
# Why a tool gives nothing

The causes for which a tool stops, and how each of them is worded.
-/

namespace BlockAuthoring

/-- Why a tool gives nothing. -/
inductive Failure where
  | source (failure : SourceFailure)
  | file (error : TextError)
  /-- A null byte stands in a path. -/
  | nullByte
  | setup (fault : PackageFault)
  | analysis (error : AnalysisError)
  | generation (error : GenerationError)
  | fieldsNotJson (error : Json.ReadError)
  | schemaFileMissing (path : String)
  | schemaFileNotJson (path : String) (fault : Json.Fault)
  | numberTooLong (digits : Nat)
  /-- A number has more digits than are written. -/
  | numberNotWritable
  | invalidSchema (blockName : String) (errors : List String)
  /-- The names of blocks that a section should take are no texts. -/
  | blockNames (issues : List Json.Issue)
  | nothingToAnalyze
  | nothingToValidate
  | repositoryIncomplete
  /-- The location of a repository is no object, but of this type. -/
  | locationNotAnObject (type : String)
  /-- The folder of blocks in a repository is no text, but of this type. -/
  | blocksPathNotText (type : String)
  /-- What should be filled up to a width is of this type, which has no such form. -/
  | notFormatted (type : String)
  /-- A text cannot be printed. -/
  | notPrintable (fault : EncodingFault)
  deriving DecidableEq, Repr

/-- What is wrong with a value, in a few words. -/
def issuesMessage (found : List Json.Issue) : String :=
  toString found.length ++ " validation error" ++ if found.length = 1 then "" else "s"

/-- The wording of an error. -/
def GenerationError.message : GenerationError → String
  | analysis e => e.message
  | wishesNotIterable type => "\x27" ++ type ++ "\x27 object is not iterable"
  | wish found => issuesMessage found
  | synthesis e => e.message

/-- The wording of a failure. -/
def Failure.message : Failure → String
  | source f => f.message
  | file e => e.message
  | nullByte => "embedded null byte"
  | setup f => f.message
  | analysis e => e.message
  | generation e => e.message
  | fieldsNotJson e => e.message
  | schemaFileMissing path => "Schema file not found: " ++ path
  | schemaFileNotJson path fault => "Invalid JSON in " ++ path ++ ": " ++ fault.message
  | numberTooLong digits => Number.tooManyDigitsMessage digits
  | numberNotWritable => Number.notWritableMessage
  | invalidSchema blockName errors =>
    "Generated schema for " ++ blockName ++ " is invalid: " ++ "; ".intercalate errors
  | blockNames found => issuesMessage found
  | nothingToAnalyze => "Provide either block_name or code"
  | nothingToValidate => "Provide either schema or file_path"
  | repositoryIncomplete => "GitHub org and repo are required for GitHub sources"
  | locationNotAnObject type =>
    "\x27" ++ type ++ "\x27 object has no attribute \x27get\x27"
  | blocksPathNotText type =>
    "\x27" ++ type ++ "\x27 object has no attribute \x27strip\x27"
  | notFormatted type => "unsupported format string passed to " ++ type ++ ".__format__"
  | notPrintable f => f.message

/-! ## Kinds -/

/-- The kinds of failures that are told apart where a failure is dealt with. -/
inductive FailureKind where
  /-- The system refuses something. -/
  | system
  /-- A value is of no use. -/
  | value
  /-- Anything else. -/
  | other
  deriving DecidableEq, Repr

/-- The kind of a malformation. An answer that is read as what it is not is no fault of a value. -/
def Malformation.kind : Malformation → FailureKind
  | notJson _ | contentNotAscii => .value
  | _ => .other

/-- The kind of a failure. -/
def Failure.kind : Failure → FailureKind
  | file (.disk _) | schemaFileMissing _ => .system
  | source (.source _) => .other
  | source (.malformed f) => f.kind
  | generation (.wishesNotIterable _) => .other
  | locationNotAnObject _ | blocksPathNotText _ | notFormatted _ => .other
  | _ => .value

end BlockAuthoring
