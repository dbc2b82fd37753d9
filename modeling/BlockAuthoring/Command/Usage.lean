import BlockAuthoring.Number.Numeral
import BlockAuthoring.Text.Quoted

/-!
# Reading command lines

A command takes options and words. An option may be written in full, by a beginning that no other
option has, or as a letter, and letters that take nothing may be run together. Behind two dashes
everything is a word; a negative number and a text with a blank in it are words anyway. The first
thing that is wrong ends the reading; what nobody asked for is only complained of at the end.
-/

namespace BlockAuthoring

/-- What an option takes. -/
inductive Taken where
  | nothing
  | text
  | integer
  | word (choices : List String)
  deriving DecidableEq, Repr

/-- An option: its names, the main one first, and what it takes. -/
structure Switch where
  names : List String
  taken : Taken
  deriving DecidableEq, Repr

/-- How many words a command takes. -/
inductive Arity where
  | none
  | one
  | atMostOne
  | any
  deriving DecidableEq, Repr

/-- How a command is written. -/
structure Usage where
  /-- What the command is called. -/
  program : String
  switches : List Switch
  /-- What its words are called. -/
  positional : String := ""
  arity : Arity := .none
  deriving DecidableEq, Repr

/-- What is wrong with a command line. -/
inductive UsageError where
  | ambiguous (written : String) (names : List String)
  | missingValue (switch : Switch)
  | unwantedValue (switch : Switch) (value : String)
  | invalidInteger (switch : Switch) (value : String)
  | invalidChoice (switch : Switch) (value : String) (choices : List String)
  | missingWord (positional : String)
  | unrecognized (arguments : List String)
  | custom (message : String)
  deriving DecidableEq, Repr

/-- The name under which an option is complained of. -/
def Switch.allNames (s : Switch) : String := "/".intercalate s.names

/-- The wording of an error. -/
def UsageError.message : UsageError → String
  | ambiguous written names =>
    "ambiguous option: " ++ written ++ " could match " ++ ", ".intercalate names
  | missingValue s => "argument " ++ s.allNames ++ ": expected one argument"
  | unwantedValue s value =>
    "argument " ++ s.allNames ++ ": ignored explicit argument " ++ Text.quoted value
  | invalidInteger s value =>
    "argument " ++ s.allNames ++ ": invalid int value: " ++ Text.quoted value
  | invalidChoice s value choices =>
    "argument " ++ s.allNames ++ ": invalid choice: " ++ Text.quoted value ++ " (choose from "
      ++ ", ".intercalate (choices.map Text.quoted) ++ ")"
  | missingWord positional => "the following arguments are required: " ++ positional
  | unrecognized arguments => "unrecognized arguments: " ++ " ".intercalate arguments
  | custom message => message

/-- Why reading ends: something is wrong, or only help is wanted. -/
inductive Stop where
  | help
  | error (e : UsageError)
  deriving DecidableEq, Repr

/-- What an option was given. -/
inductive Given where
  | set
  | text (s : String)
  | integer (n : Int)
  deriving DecidableEq, Repr

/-- A command line that was read. -/
structure Parsed where
  /-- The options by their main names, the last one first. -/
  given : List (String × Given) := []
  words : List String := []
  /-- What nobody asked for. -/
  leftover : List String := []
  deriving DecidableEq, Repr

namespace Parsed

/-- The option was written. -/
def isSet (p : Parsed) (name : String) : Bool := (p.given.lookup name).isSome

/-- The text that an option was given. -/
def text? (p : Parsed) (name : String) : Option String :=
  match p.given.lookup name with
  | some (.text s) => some s
  | _ => none

/-- The whole number that an option was given. -/
def integer? (p : Parsed) (name : String) : Option Int :=
  match p.given.lookup name with
  | some (.integer n) => some n
  | _ => none

end Parsed

namespace Usage

/-! ## Arguments -/

/-- The option that every command has. -/
def helpSwitch : Switch := ⟨["-h", "--help"], .nothing⟩

/-- All names of options in the order in which they count, each with its option. -/
def names (u : Usage) : List (String × Switch) :=
  (helpSwitch :: u.switches).flatMap fun s => s.names.map (·, s)

/-- An argument of a command line. -/
inductive Argument where
  /-- It looks like an option; the tail is what is written behind its name. -/
  | option (switch : Option Switch) (tail : List Char) (written : String)
  | word (text : String)
  | dashes
  deriving DecidableEq, Repr

/-- The text is a number below zero. -/
def isNegativeNumber (text : List Char) : Bool :=
  match text with
  | '-' :: body =>
    let whole := body.takeWhile Text.isDecimal
    match body.drop whole.length with
    | [] => whole != []
    | ['\n'] => whole != []
    | '.' :: fraction =>
      let digits := fraction.takeWhile Text.isDecimal
      digits != [] && (fraction.drop digits.length).all (· == '\n')
        && (fraction.drop digits.length).length ≤ 1
    | _ => false
  | _ => false

/-- The options that a text may mean, each with its name and what is written behind it: a long one
by its beginning, a short one by its letter. -/
def meantBy (u : Usage) (text : List Char) : List (String × Switch × List Char) :=
  if ['-', '-'].isPrefixOf text then
    let before := text.takeWhile (· != '=')
    u.names.filterMap fun (name, s) =>
      if before.isPrefixOf name.toList then some (name, s, text.drop before.length) else none
  else
    u.names.filterMap fun (name, s) =>
      if name.toList = text.take 2 then some (name, s, text.drop 2)
      else if text.isPrefixOf name.toList then some (name, s, [])
      else none

/-- What an argument with a dash in front is taken for. -/
def dashed (u : Usage) (arg : String) : Except UsageError Argument :=
  let text := arg.toList
  let before := text.takeWhile (· != '=')
  match u.names.lookup (String.ofList before) with
  | some s => .ok (.option s (text.drop before.length) arg)
  | none =>
    match u.meantBy text with
    | [(_, s, tail)] => .ok (.option s tail arg)
    | [] =>
      if isNegativeNumber text || text.contains ' ' then .ok (.word arg)
      else .ok (.option none [] arg)
    | several => .error (.ambiguous arg (several.map (·.1)))

/-- What an argument is taken for. -/
def argument (u : Usage) (arg : String) : Except UsageError Argument :=
  match arg.toList with
  | '-' :: _ :: _ => u.dashed arg
  | _ => .ok (.word arg)

/-- What the arguments of a command line are taken for. -/
def arguments (u : Usage) : List String → Except UsageError (List Argument)
  | [] => .ok []
  | arg :: rest =>
    if arg = "--" then .ok (.dashes :: rest.map .word)
    else
      match u.argument arg with
      | .error e => .error e
      | .ok a => (u.arguments rest).map (a :: ·)

/-! ## Options -/

/-- Options that are run together. -/
structure Cluster where
  /-- The options that have what they take. -/
  complete : List (Switch × String) := []
  /-- The last option, if it takes something that is not written with it. -/
  lacking : Option Switch := none
  /-- Letters that no option has. -/
  unknown : List String := []
  deriving DecidableEq, Repr

/-- The options of an argument: the first one, and what is written behind its name. That is its
value, with an equals sign or without, or the letters of further options. -/
def cluster (u : Usage) (s : Switch) : List Char → Except UsageError Cluster
  | [] => .ok (if s.taken = .nothing then { complete := [(s, "")] } else { lacking := some s })
  | '=' :: value =>
    if s.taken = .nothing then .error (.unwantedValue s (String.ofList value))
    else .ok { complete := [(s, String.ofList value)] }
  | c :: rest =>
    if s.taken ≠ .nothing then .ok { complete := [(s, String.ofList (c :: rest))] }
    else if c = '-' then .error (.unwantedValue s (String.ofList (c :: rest)))
    else
      match u.names.lookup (String.ofList ['-', c]) with
      | some next =>
        (u.cluster next rest).map fun cl => { cl with complete := (s, "") :: cl.complete }
      | none => .ok { complete := [(s, "")], unknown := [String.ofList ('-' :: c :: rest)] }

/-- What an option makes of a text. -/
def given (s : Switch) (text : String) : Except Stop Given :=
  match s.taken with
  | .nothing => if s = helpSwitch then .error .help else .ok .set
  | .text => .ok (.text text)
  | .integer =>
    match Number.readInteger text.toList with
    | .ok n => .ok (.integer n)
    | .error _ => .error (.error (.invalidInteger s text))
  | .word choices =>
    if choices.contains text then .ok (.text text)
    else .error (.error (.invalidChoice s text choices))

/-- Takes note of options, one after the other. -/
def note (p : Parsed) : List (Switch × String) → Except Stop Parsed
  | [] => .ok p
  | (s, text) :: rest =>
    match given s text with
    | .error e => .error e
    | .ok g => note { p with given := (s.names.headD "", g) :: p.given } rest

/-! ## Words -/

/-- How far the words of a command have been read. -/
inductive Progress where
  | before
  | inside
  /-- The last word has just been read. -/
  | complete
  | after
  deriving DecidableEq, Repr

/-- An option ends the words, if they have begun. -/
def Progress.behindOption : Progress → Progress
  | before => before
  | _ => after

/-- Reads a word. -/
def readWord (arity : Arity) (progress : Progress) (p : Parsed) (word : String) :
    Progress × Parsed :=
  let taken : Parsed := { p with words := p.words ++ [word] }
  match arity, progress with
  | .one, .before | .atMostOne, .before => (.complete, taken)
  | .any, .before | .any, .inside => (.inside, taken)
  | _, _ => (.after, { p with leftover := p.leftover ++ [word] })

/-- Reads the two dashes. -/
def readDashes (arity : Arity) (progress : Progress) (p : Parsed) : Progress × Parsed :=
  match arity, progress with
  | .one, .before | .atMostOne, .before => (.before, p)
  | .any, .before | .any, .inside => (.inside, p)
  | .none, _ | _, .after => (.after, { p with leftover := p.leftover ++ ["--"] })
  | _, _ => (.after, p)

/-- Reads arguments one after the other. -/
def readArguments (u : Usage) (progress : Progress) (p : Parsed) :
    List Argument → Except Stop Parsed
  | [] => .ok p
  | .word text :: rest =>
    let (progress, p) := readWord u.arity progress p text
    u.readArguments progress p rest
  | .dashes :: rest =>
    let (progress, p) := readDashes u.arity progress p
    u.readArguments progress p rest
  | .option none _ written :: rest =>
    u.readArguments progress.behindOption { p with leftover := p.leftover ++ [written] } rest
  | .option (some s) tail _ :: rest =>
    match u.cluster s tail with
    | .error e => .error (.error e)
    | .ok ⟨complete, none, unknown⟩ =>
      match note { p with leftover := p.leftover ++ unknown } complete with
      | .error stop => .error stop
      | .ok p => u.readArguments progress.behindOption p rest
    | .ok ⟨complete, some lacking, _⟩ =>
      match rest with
      | .word text :: behind =>
        match note p (complete ++ [(lacking, text)]) with
        | .error stop => .error stop
        | .ok p => u.readArguments progress.behindOption p behind
      | _ => .error (.error (.missingValue lacking))

/-- Reads a command line; what nobody asked for is left over. -/
def parseKnown (u : Usage) (args : List String) : Except Stop Parsed :=
  match u.arguments args with
  | .error e => .error (.error e)
  | .ok arguments =>
    match u.readArguments .before {} arguments with
    | .error stop => .error stop
    | .ok p =>
      if u.arity = .one && p.words.isEmpty then .error (.error (.missingWord u.positional))
      else .ok p

/-- Nothing may be left over. -/
def nothingLeft (p : Parsed) : Except Stop Parsed :=
  if p.leftover.isEmpty then .ok p else .error (.error (.unrecognized p.leftover))

/-- Reads a command line. -/
def parse (u : Usage) (args : List String) : Except Stop Parsed :=
  (u.parseKnown args).bind nothingLeft

/-! ## Help -/

/-- An option as it is shown. -/
def shownSwitch (s : Switch) : String :=
  let name := s.names.headD ""
  let value :=
    match s.taken with
    | .nothing => ""
    | .text | .integer =>
      " " ++ String.ofList ((name.toList.dropWhile (· == '-')).map fun c =>
        if c == '-' then '_' else c.toUpper)
    | .word choices => " \x7b" ++ ",".intercalate choices ++ "\x7d"
  "[" ++ name ++ value ++ "]"

/-- The words of a command as they are shown. -/
def shownWords (u : Usage) : List String :=
  match u.arity with
  | .none => []
  | .one => [u.positional]
  | .atMostOne => ["[" ++ u.positional ++ "]"]
  | .any => ["[" ++ u.positional ++ " ...]"]

/-- How a command is written, in one line. -/
def help (u : Usage) : String :=
  "usage: " ++ " ".intercalate (u.program :: "[-h]" :: u.switches.map shownSwitch ++ u.shownWords)
    ++ "\n"

/-- What is said of an error. -/
def complaint (program : String) (e : UsageError) : String :=
  program ++ ": error: " ++ e.message

end Usage

end BlockAuthoring
