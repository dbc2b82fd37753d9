import BlockAuthoring.Source.Address

/-!
# The contents service

The service that lists the folders of a repository and sends its files: what is asked, what the
server replies and what comes back.
-/

namespace BlockAuthoring

/-- A request to the service. -/
structure Request where
  address : Address
  token : Option String
  deriving DecidableEq, Repr

namespace Request

/-- The form of answer that is asked for. -/
def accept : String := "application/vnd.github+json"

/-- The version of the service that is meant. -/
def version : String := "2022-11-28"

/-- The authorization that a token gives. -/
def authorization (r : Request) : Option String := r.token.map ("Bearer " ++ ·)

end Request

/-- What comes back. -/
inductive Reply where
  | answer (status : Nat) (body : String)
  | timedOut (detail : String)
  | unreachable (detail : String)
  deriving DecidableEq, Repr

/-- The server: a reply to every request that is sent to it. -/
abbrev Responder := Request → Reply

/-- The service: what comes back of every request, from the server or on the way to it. -/
abbrev Service := Request → Reply

/-- Replies as they come: what is replied to a request may depend on the requests before it. -/
structure Replies where
  /-- The reply to a request, behind those made before it. -/
  behind : List Request → Request → Reply

/-- A service replies the same whenever it is asked. -/
instance : Coe Service Replies := ⟨fun service => ⟨fun _ => service⟩⟩

end BlockAuthoring
