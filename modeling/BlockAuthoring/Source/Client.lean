import BlockAuthoring.Source.Error
import BlockAuthoring.Source.Service

/-!
# The client

What stands between a reader and the server of contents. It refuses addresses that are too long or
have control characters in them, and it does not send a header whose value has blanks at its ends or
other characters than those of header fields; then it tells of the value. All else is replied to by
the server.
-/

namespace BlockAuthoring.Client

/-! ## Addresses -/

/-- The longest address that is asked for. -/
def maxAddress : Nat := 65536

/-- The address that a text writes, with a query of its own. -/
def addressOf (text query : List Char) : Except Malformation Address :=
  if maxAddress < text.length then .error .addressTooLong
  else
    match Address.control? text with
    | some (c, before) => .error (.addressWithControl (Text.quoted c.toString) before)
    | none => .ok (.ofText text query)

/-! ## Headers -/

/-- The character may stand anywhere in the value of a header. -/
def isFieldChar (c : Char) : Bool :=
  c ∉ ['\x00', '\t', '\n', '\x0b', '\x0c', '\r', ' ', '\x7f']

/-- The text is the value of a header: blanks and tabs stand inside only. -/
def isFieldValue (value : List Char) : Bool :=
  value.all (fun c => isFieldChar c || c == ' ' || c == '\t')
    && value.head?.all isFieldChar && value.getLast?.all isFieldChar

/-- The request is sent. -/
def sends (r : Request) : Bool := r.authorization.all fun value => isFieldValue value.toList

/-- What is said of a value that is not sent. -/
def illegalValue (value : String) : String := "Illegal header value b" ++ Text.quoted value

/-- What comes back of a request: what the server replies, if it is sent. -/
def serviceFrom (responder : Responder) : Service := fun r =>
  if sends r then responder r else .unreachable (illegalValue (r.authorization.getD ""))

/-- What comes back of requests where the replies of the server depend on those before. -/
def repliesFrom (replies : Replies) : Replies := ⟨fun before => serviceFrom (replies.behind before)⟩

end BlockAuthoring.Client
