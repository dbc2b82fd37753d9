import BlockAuthoring.Script.Tree
import BlockAuthoring.Script.Lexis

/-!
# Reading a script

A cursor stands right behind the last token that was read. The gap in front of the next token is
skipped when that token is looked at, so the line ends in the gap are still there to decide
whether a statement may end without a semicolon.
-/

namespace BlockAuthoring.Script

/-- What is left of a script, and where it starts. -/
structure Cursor where
  rest : List Char
  position : Position
  deriving Repr, Inhabited

namespace Cursor

/-- At the front of a whole text. -/
def ofText (text : List Char) : Cursor := ⟨text, .origin⟩

/-- Steps over `n` characters. -/
def skip : Nat → Cursor → Cursor
  | n + 1, ⟨c :: rest, p⟩ => skip n ⟨rest, p.after c⟩
  | _, cursor => cursor

/-- What the skipping of a gap is in the middle of. -/
inductive GapState where
  | between
  | lineComment
  | markupComment
  | blockComment
  deriving DecidableEq, Repr

/-- A gap: whether a line ends in it, and the cursor behind it. -/
structure Gap where
  newline : Bool
  next : Cursor
  deriving Repr, Inhabited

/-- Skips blanks and comments. Markup comments count only where `markup` says so. Fails inside a
block comment that is never closed. -/
def skipGap (markup : Bool) : GapState → Bool → List Char → Position → Option Gap
  | .blockComment, _, [], _ => none
  | _, newline, [], p => some ⟨newline, ⟨[], p⟩⟩
  | .between, newline, '/' :: '/' :: rest, p =>
    skipGap markup .lineComment newline rest ((p.after '/').after '/')
  | .between, newline, '/' :: '*' :: rest, p =>
    skipGap markup .blockComment newline rest ((p.after '/').after '*')
  | .between, newline, '<' :: '!' :: '-' :: '-' :: rest, p =>
    if markup then
      skipGap markup .markupComment newline rest
        ((((p.after '<').after '!').after '-').after '-')
    else some ⟨newline, ⟨'<' :: '!' :: '-' :: '-' :: rest, p⟩⟩
  | .between, newline, '-' :: '-' :: '>' :: rest, p =>
    if markup then
      skipGap markup .markupComment newline rest (((p.after '-').after '-').after '>')
    else some ⟨newline, ⟨'-' :: '-' :: '>' :: rest, p⟩⟩
  | .between, newline, c :: rest, p =>
    if Lexis.isBlank c then
      skipGap markup .between (newline || Lexis.isLineEnd c) rest (p.after c)
    else some ⟨newline, ⟨c :: rest, p⟩⟩
  | .lineComment, newline, c :: rest, p =>
    if Lexis.endsComment c then
      skipGap markup .between (newline || Lexis.isLineEnd c) rest (p.after c)
    else skipGap markup .lineComment newline rest (p.after c)
  | .markupComment, newline, c :: rest, p =>
    if Lexis.isLineEnd c then skipGap markup .between true rest (p.after c)
    else skipGap markup .markupComment newline rest (p.after c)
  | .blockComment, newline, '*' :: '/' :: rest, p =>
    skipGap markup .between newline rest ((p.after '*').after '/')
  | .blockComment, newline, c :: rest, p =>
    skipGap markup .blockComment (newline || Lexis.isLineEnd c) rest (p.after c)

/-- The gap in front of the next token. -/
def gap (markup : Bool) (cursor : Cursor) : Option Gap :=
  skipGap markup .between false cursor.rest cursor.position

end Cursor

/-- A reader of some construct: fails, or gives what it read and moves the cursor behind it. -/
abbrev Reader := StateT Cursor Option

namespace Reader

/-- Runs `first`; where that fails, `second` from the same place. -/
def either {α : Type} (first second : Reader α) : Reader α := fun cursor =>
  match first cursor with
  | some found => some found
  | none => second cursor

/-- Runs `reader` and stays in place. -/
def ahead {α : Type} (reader : Reader α) : Reader α := fun cursor =>
  (reader cursor).map fun (a, _) => (a, cursor)

/-- Whether `reader` would succeed here. Stays in place. -/
def comesNext {α : Type} (reader : Reader α) : Reader Bool := fun cursor =>
  some ((reader cursor).isSome, cursor)

/-- Goes on only if `condition` holds. -/
def require (condition : Bool) : Reader Unit := if condition then pure () else failure

/-- The gap in front of the next token. Stays in place. -/
def gap (markup : Bool) : Reader Cursor.Gap := fun cursor =>
  (cursor.gap markup).map fun g => (g, cursor)

/-- Moves the cursor. -/
def moveTo (cursor : Cursor) : Reader Unit := set cursor

/-- Where the last token stopped. -/
def here : Reader Position := return (← get).position

/-- The text in front of the cursor once the gap is skipped. Stays in place. -/
def upcoming (markup : Bool) : Reader (List Char) := return (← gap markup).next.rest

/-- The name that comes next, reserved words included. Stays in place. -/
def word? (markup : Bool) : Reader (Option String) := do
  let text ← upcoming markup
  return (Lexis.scanName text).map fun (name, _) => String.ofList name

/-- The mark that comes next. Stays in place. -/
def mark? (markup : Bool) : Reader (Option String) := do
  let text ← upcoming markup
  return (Lexis.scanMark text).map fun (mark, _) => String.ofList mark

/-- Reads the token that `scan` finds behind the gap: where it starts, where it stops and its
characters. -/
def token (scan : List Char → Lexis.Split) (markup : Bool) :
    Reader (Position × Position × List Char) := do
  let g ← gap markup
  let (text, _) ← scan g.next.rest
  let behind := g.next.skip text.length
  moveTo behind
  return (g.next.position, behind.position, text)

/-- Reads the mark `mark`, whole. -/
def mark (mark : String) (markup : Bool := true) : Reader Position := do
  let (start, _, text) ← token Lexis.scanMark markup
  require (text == mark.toList)
  return start

/-- Reads the mark if it comes next; says whether it did. -/
def accept (m : String) (markup : Bool) : Reader Bool :=
  either (do let _ ← mark m markup; return true) (pure false)

/-- Reads the word `word`, whole. -/
def keyword (word : String) : Reader Position := do
  let (start, _, text) ← token Lexis.scanName true
  require (text == word.toList)
  return start

/-- Reads the word if it comes next; says whether it did. -/
def acceptWord (word : String) : Reader Bool :=
  either (do let _ ← keyword word; return true) (pure false)

/-- Reads a token as a leaf of the tree. -/
def leaf (kind : Kind) (scan : List Char → Lexis.Split) (markup : Bool := true) :
    Reader Node := do
  let (start, stop, text) ← token scan markup
  return { kind, role := .plain, start, stop, text, children := [] }

/-- A node over `children` that started at `start` and stops at the cursor. -/
def node (kind : Kind) (start : Position) (children : List Node) : Reader Node := do
  return { kind, role := .plain, start, stop := ← here, text := [], children }

/-- Where the next token starts. Stays in place. -/
def nextStart : Reader Position := return (← gap true).next.position

/-- `item` as often as it succeeds, at most `bound` times. -/
def many {α : Type} (item : Reader α) : Nat → Reader (List α)
  | 0 => pure []
  | bound + 1 => fun cursor =>
    match item cursor with
    | none => some ([], cursor)
    | some (a, cursor') =>
      match many item bound cursor' with
      | none => none
      | some (more, behind) => some (a :: more, behind)

/-- `item` again and again until `stop` succeeds, at most `bound` times. A failing item fails
the whole. -/
def manyUntil {α : Type} (stop : Reader Unit) (item : Reader α) : Nat → Reader (List α)
  | 0 => failure
  | bound + 1 => fun cursor =>
    match stop cursor with
    | some (_, behind) => some ([], behind)
    | none =>
      match item cursor with
      | none => none
      | some (a, cursor') =>
        match manyUntil stop item bound cursor' with
        | none => none
        | some (more, behind) => some (a :: more, behind)

/-- Nothing but a gap is left. -/
def atEnd : Reader Bool := return (← upcoming true).isEmpty

/-! ## Statement ends -/

/-- Characters that carry a statement on into the next line. -/
def carriesOn : List Char → Bool
  | '.' :: c :: _ => !c.isDigit
  | '+' :: c :: _ => c != '+'
  | '-' :: c :: _ => c != '-'
  | '!' :: c :: _ => c == '='
  | c :: rest =>
    "\x60,:;*%><=[(?^|&/.+-".toList.contains c ||
      (match Lexis.scanName (c :: rest) with
       | some (name, _) => name == "in".toList || name == "instanceof".toList
       | none => false)
  | [] => false

/-- A statement may end at the cursor without a semicolon: the text ends, a block closes, or a
line ends and the next one does not carry the statement on. -/
def mayEnd : Reader Bool := do
  let g ← gap false
  match g.next.rest with
  | [] => return true
  | '\x7d' :: _ => return true
  | text => return g.newline && !carriesOn text

/-- Reads the end of a statement. -/
def semicolon : Reader Unit := do
  if ← accept ";" false then return ()
  require (← mayEnd)

end Reader

end BlockAuthoring.Script
