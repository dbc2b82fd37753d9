import BlockAuthoring.Script.Grammar.Rules

/-!
# Markup in scripts

Elements such as `<a href="x">text</a>` in operand position. They are read in full, so that the
gate can tell well-formed markup, which it names as such, from a plain syntax error.
-/

namespace BlockAuthoring.Script.Rules

open Reader

/-- The next character, without skipping anything. -/
def rawChar? : Reader (Option Char) := return (← get).rest.head?

/-- Reads `n` characters as they stand. -/
def rawSkip (n : Nat) : Reader Unit := modify (·.skip n)

/-- Names in markup may also hold dashes. -/
def scanMarkupName : List Char → Lexis.Split
  | [] => none
  | c :: rest =>
    if Lexis.isNameStart c then
      let isTail := fun c => Lexis.isNameChar c || c == '-'
      some (c :: rest.takeWhile isTail, rest.dropWhile isTail)
    else none

/-- A character reference such as `&amp;`. -/
def scanReference : List Char → Lexis.Split
  | '&' :: rest =>
    let name := rest.takeWhile fun c => c.isAlphanum || c == '#'
    match rest.dropWhile fun c => c.isAlphanum || c == '#' with
    | ';' :: behind =>
      if name.isEmpty then none else some ('&' :: name ++ [';'], behind)
    | _ => none
  | _ => none

/-- A name: dotted, or with a name space in front. -/
def markupName (r : Rules) : Reader Node := do
  let start ← nextStart
  let first ← leaf .jsxName scanMarkupName
  if ← accept ":" true then
    let second ← leaf .jsxName scanMarkupName
    node .jsxName start [first, second]
  else
    let more ← many (do let _ ← mark "."; leaf .jsxName scanMarkupName) r.bound
    if more.isEmpty then return first
    node .jsxName start (first :: more)

/-- An expression in braces: any, none, or a spread one. -/
def markupExpression (r : Rules) : Reader Node := do
  let start ← mark "\x7b"
  if ← accept "\x7d" true then node .jsxExpression start []
  else if ← accept "..." true then
    let inner ← r.read (.assignment true)
    let _ ← mark "\x7d" false
    node .jsxExpression start [inner]
  else
    let inner ← r.expressions
    let _ ← mark "\x7d" false
    node .jsxExpression start [inner]

/-- A string in an attribute: everything up to the same quote, line ends included. -/
def scanMarkupString : List Char → Lexis.Split
  | c :: rest =>
    if c == '"' || c == '\x27' then
      match rest.dropWhile (· != c) with
      | _ :: behind => some (c :: rest.takeWhile (· != c) ++ [c], behind)
      | [] => none
    else none
  | [] => none

/-- An attribute, with or without a value, or an expression in its place. -/
def markupAttribute (r : Rules) : Reader Node := do
  if (← mark? true) == some "\x7b" then r.markupExpression
  else
    let start ← nextStart
    let name ← leaf .jsxName scanMarkupName
    let space ← (do
      if ← accept ":" true then return [← leaf .jsxName scanMarkupName] else return [])
    if ← accept "=" true then
      let value ← (do
        match ← upcoming true with
        | '\x7b' :: _ => r.markupExpression
        | '<' :: _ => r.read .markup
        | _ => leaf .string scanMarkupString)
      node .jsxAttribute start (name :: space ++ [value])
    else node .jsxAttribute start (name :: space)

/-- Text between tags. -/
def markupText : Reader Node := do
  let start ← here
  let isText := fun c => !("<>&\x7b\x7d".toList.contains c)
  let text := (← get).rest.takeWhile isText
  require (!text.isEmpty)
  rawSkip text.length
  return { (← node .jsxText start []) with text }

/-- A character reference between tags. -/
def markupReference : Reader Node := do
  let start ← here
  let (text, _) ← scanReference (← get).rest
  rawSkip text.length
  return { (← node .jsxText start []) with text }

/-- What stands between an opening and a closing tag. -/
def markupChild (r : Rules) : Reader Node := do
  match ← rawChar? with
  | some '<' => r.read .markup
  | some '\x7b' => r.markupExpression
  | some '&' => markupReference
  | _ => markupText

/-- The character `c` behind a gap, whatever follows it. -/
def tagEnd (c : Char) : Reader Unit := do
  let g ← gap true
  require (g.next.rest.head? == some c)
  moveTo (g.next.skip 1)

/-- The closing tag; its name is not compared with the opening one. -/
def markupClosing (r : Rules) : Reader Node := do
  let start ← here
  let (text, _) ← Lexis.literal "</" (← get).rest
  rawSkip text.length
  let name ← (do
    if (← upcoming true).head? == some '>' then return [] else return [← r.markupName])
  tagEnd '>'
  node .jsxClosingElement start name

/-- An element, a fragment or a self-closing element. -/
def markup (r : Rules) : Reader Node := do
  let start ← nextStart
  tagEnd '<'
  let opening ← (do
    if (← upcoming true).head? == some '>' then node .jsxOpeningElement start []
    else
      let name ← r.markupName
      let attributes ← manyUntil
        (do
          let c := (← upcoming true).head?
          require (c == some '>' || c == some '/'))
        r.markupAttribute r.bound
      node .jsxOpeningElement start (name :: attributes))
  if (← upcoming true).head? == some '/' then
    tagEnd '/'
    require ((← rawChar?) == some '>')
    rawSkip 1
    node .jsxSelfClosingElement start opening.children
  else
    tagEnd '>'
    let closes : Reader Unit := do
      let _ ← Lexis.literal "</" (← get).rest
    let inner ← manyUntil closes r.markupChild r.bound
    let closing ← r.markupClosing
    node .jsxElement start (opening :: inner ++ [closing])

end BlockAuthoring.Script.Rules
