import BlockAuthoring.Surface.Pattern

/-!
# Configuration keys

The keys a block reads from its configuration table: `config['key']`, `config.key` and the same on
`blockConfig`. Comparisons of a name with a key are trusted only where the block also derives names
from the first column.
-/

namespace BlockAuthoring.Surface

/-- A character that a key behind a dot may start with. -/
def isKeyStart (c : Char) : Bool := c.isAlpha

/-- A character that a key behind a dot may continue with. -/
def isKeyChar (c : Char) : Bool := c.isAlphanum || c == '_' || c == '-'

/-- A key behind `object` and a dot. -/
def dotted (object : String) : Pattern := fun text => do
  match ← behind (object.push '.') text with
  | c :: rest =>
    if isKeyStart c then
      let key := c :: rest.takeWhile isKeyChar
      some ⟨object.length + 1 + key.length, key⟩
    else none
  | [] => none

/-- The accesses to a configuration table. -/
def accessPatterns : List Pattern :=
  ["config", "blockConfig"].flatMap fun object =>
    [quoted (object.push '[') '\x27' "]", quoted (object.push '[') '"' "]", dotted object]

/-- The comparisons of a name with a key. -/
def comparisonPatterns : List Pattern :=
  [quoted "name === " '\x27' "", quoted "name === " '"' "", quoted "name.trim() === " '\x27' "",
   quoted "name !== " '\x27' "", quoted "name !== " '"' ""]

/-- The derivation of a class name from the first column. -/
def classNameDerivation : Pattern := word "toClassName(cols[0].textContent)"

/-- Puts a key into an ascending list, unless it is there. -/
def insertKey (key : String) : List String → List String
  | [] => [key]
  | k :: rest =>
    if key < k then key :: k :: rest
    else if key = k then k :: rest
    else k :: insertKey key rest

/-- The key is more than the remains of a call. -/
def isPlainKey (key : List Char) : Bool :=
  !key.isEmpty && !key.contains '(' && !key.contains ')'
    && !(word "readBlockConfig").occurs key

/-- Every key found, with repetitions. -/
def foundKeys (text : List Char) : List (List Char) :=
  accessPatterns.flatMap (·.captures text) ++
    if classNameDerivation.occurs text then comparisonPatterns.flatMap (·.captures text) else []

/-- The keys a block reads, ascending and each once. -/
def configKeys (text : List Char) : List String :=
  ((foundKeys text).filter isPlainKey).foldr (fun key keys => insertKey (String.ofList key) keys) []

end BlockAuthoring.Surface
