/-!
# Line ends

Files are read with every kind of line end as a newline.
-/

namespace BlockAuthoring.Text

/-- The text with a newline for each carriage return and each carriage return before a newline. -/
def normalizeNewlines : List Char → List Char
  | [] => []
  | '\r' :: '\n' :: rest => '\n' :: normalizeNewlines rest
  | '\r' :: rest => '\n' :: normalizeNewlines rest
  | c :: rest => c :: normalizeNewlines rest

end BlockAuthoring.Text
