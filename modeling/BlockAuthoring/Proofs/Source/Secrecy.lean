import BlockAuthoring.Proofs.Source.Asking
import Mathlib.Data.List.Basic

/-!
# Asking with another token

A server that ignores tokens replies the same to all who ask for the same, and the client lets every
token through that is fit for a header. Then what is asked for next is the same too, and so is what
comes of it, step by step: a repository that is asked with one token and the same repository that is
asked with another one cannot be told apart by anything but the tokens in the requests.
-/

namespace BlockAuthoring

/-! ## Tokens -/

/-- A token that can be sent: printable ASCII characters, one at least and no blank behind them. -/
structure IsToken (token : String) : Prop where
  nonempty : token ≠ ""
  printable : ∀ c ∈ token.toList, 0x20 ≤ c.toNat ∧ c.toNat < 0x7F
  trimmed : token.toList.getLast? ≠ some ' '

theorem isFieldChar_of_printable {c : Char} (h : 0x20 ≤ c.toNat ∧ c.toNat < 0x7F) (hblank : c ≠ ' ') :
    Client.isFieldChar c = true := by
  have hne : ∀ d : Char, d.toNat < 0x20 ∨ d.toNat = 0x7F → c ≠ d := by
    rintro d hd rfl
    omega
  simp [Client.isFieldChar, hblank, hne '\x00' (by decide), hne '\t' (by decide),
    hne '\n' (by decide), hne '\x0b' (by decide), hne '\x0c' (by decide), hne '\r' (by decide),
    hne '\x7f' (by decide)]

/-- The client sends what such a token authorizes. -/
theorem IsToken.sends {token : String} (h : IsToken token) (address : Address) :
    Client.sends ⟨address, some token⟩ = true := by
  have hvalue : ("Bearer " ++ token).toList = "Bearer ".toList ++ token.toList :=
    String.toList_append
  have hnil : token.toList ≠ [] := by simpa using h.nonempty
  show Client.isFieldValue ("Bearer " ++ token).toList = true
  rw [hvalue, Client.isFieldValue, Bool.and_eq_true, Bool.and_eq_true]
  refine ⟨⟨?inside, ?first⟩, ?last⟩
  case inside =>
    rw [List.all_append, Bool.and_eq_true]
    refine ⟨by decide, List.all_eq_true.mpr fun c hc => ?_⟩
    by_cases hblank : c = ' '
    · simp [hblank]
    · simp [isFieldChar_of_printable (h.printable c hc) hblank]
  case first => rfl
  case last =>
    rw [List.getLast?_append_of_ne_nil _ hnil, List.getLast?_eq_some_getLast hnil]
    refine isFieldChar_of_printable (h.printable _ (List.getLast_mem hnil)) fun hblank => ?_
    exact h.trimmed (by rw [List.getLast?_eq_some_getLast hnil, hblank])

/-! ## Servers that ignore tokens -/

/-- The requests are the same but for their tokens. -/
def SameAddresses (requests requests' : List Request) : Prop :=
  requests.map (·.address) = requests'.map (·.address)

/-- The requests are the same, or they differ in tokens only and are both sent. -/
structure Request.SameButToken (request request' : Request) : Prop where
  address : request.address = request'.address
  token : request.token = request'.token
    ∨ Client.sends request = true ∧ Client.sends request' = true

/-- The server replies the same to requests that differ in their tokens only. -/
def Responder.IgnoresTokens (responder : Responder) : Prop :=
  ∀ request request', request.address = request'.address → responder request = responder request'

/-- The server replies the same behind, and to, requests that differ in their tokens only. -/
def Replies.IgnoreTokens (replies : Replies) : Prop :=
  ∀ before before' request request', SameAddresses before before' →
    request.address = request'.address →
    replies.behind before request = replies.behind before' request'

/-- What comes back behind, and of, requests that differ in tokens only is the same, if they are
sent. -/
def Replies.TellNoToken (replies : Replies) : Prop :=
  ∀ before before' request request', SameAddresses before before' →
    request.SameButToken request' →
    replies.behind before request = replies.behind before' request'

theorem Replies.IgnoreTokens.repliesFrom {replies : Replies} (h : replies.IgnoreTokens) :
    (Client.repliesFrom replies).TellNoToken := by
  intro before before' request request' hbefore hrequest
  have hreply := h before before' request request' hbefore hrequest.address
  show Client.serviceFrom (replies.behind before) request
    = Client.serviceFrom (replies.behind before') request'
  rcases hrequest.token with htoken | ⟨hsends, hsends'⟩
  · have hsame : request = request' := by
      cases request
      cases request'
      cases hrequest.address
      cases htoken
      rfl
    subst hsame
    rw [Client.serviceFrom, Client.serviceFrom, hreply]
  · rw [Client.serviceFrom, Client.serviceFrom, if_pos hsends, if_pos hsends', hreply]

theorem Responder.IgnoresTokens.serviceFrom {responder : Responder} (h : responder.IgnoresTokens) :
    Replies.TellNoToken (Client.serviceFrom responder) :=
  @Replies.IgnoreTokens.repliesFrom ⟨fun _ => responder⟩
    fun _ _ request request' _ haddress => h request request' haddress

theorem SameAddresses.concat {before before' : List Request} {request request' : Request}
    (hbefore : SameAddresses before before') (hrequest : request.address = request'.address) :
    SameAddresses (before ++ [request]) (before' ++ [request']) := by
  unfold SameAddresses at hbefore ⊢
  rw [List.map_append, List.map_append, hbefore, List.map_singleton, List.map_singleton, hrequest]

/-! ## Asking alike -/

namespace Asking

variable {α β : Type} {replies : Replies}

/-- Both give the same and make the same requests, if the requests before them were the same. -/
def Alike (replies : Replies) (x x' : Asking α) : Prop :=
  ∀ before before', SameAddresses before before' →
    ((x.run replies).run.run before).1 = ((x'.run replies).run.run before').1
      ∧ SameAddresses ((x.run replies).run.run before).2 ((x'.run replies).run.run before').2

/-- Both runs, with the result that they share. -/
theorem Alike.runs {x x' : Asking α} (hx : Alike replies x x') {before before' : List Request}
    (h : SameAddresses before before') :
    ∃ result requests requests', (x.run replies).run.run before = (result, requests)
      ∧ (x'.run replies).run.run before' = (result, requests')
      ∧ SameAddresses requests requests' := by
  obtain ⟨hresult, hrequests⟩ := hx before before' h
  generalize (x.run replies).run.run before = outcome at hresult hrequests ⊢
  generalize (x'.run replies).run.run before' = outcome' at hresult hrequests ⊢
  obtain ⟨result, requests⟩ := outcome
  obtain ⟨result', requests'⟩ := outcome'
  cases hresult
  exact ⟨result, requests, requests', rfl, rfl, hrequests⟩

theorem alike_pure (a : α) : Alike replies (pure a) (pure a) := fun _ _ h => ⟨rfl, h⟩

theorem alike_throw (e : SourceFailure) : Alike replies (throw e : Asking α) (throw e) :=
  fun _ _ h => ⟨rfl, h⟩

theorem alike_lift (result : Except SourceFailure α) :
    Alike replies (liftM result : Asking α) (liftM result) := by
  cases result with
  | ok a => exact alike_pure a
  | error e => exact alike_throw e

theorem Alike.bind {x x' : Asking α} {f f' : α → Asking β} (hx : Alike replies x x')
    (hf : ∀ a, Alike replies (f a) (f' a)) : Alike replies (x >>= f) (x' >>= f') := by
  intro before before' h
  obtain ⟨result, requests, requests', hrun, hrun', hrequests⟩ := hx.runs h
  rw [run_bind, run_bind, hrun, hrun']
  cases result with
  | ok a => exact hf a requests requests' hrequests
  | error e => exact ⟨rfl, hrequests⟩

/-- A failure is told in the same other words. -/
theorem Alike.mapError {x x' : Asking α} (hx : Alike replies x x')
    (tell : SourceFailure → SourceFailure) :
    Alike replies (tryCatch x fun e => throw (tell e)) (tryCatch x' fun e => throw (tell e)) := by
  intro before before' h
  obtain ⟨result, requests, requests', hrun, hrun', hrequests⟩ := hx.runs h
  rw [run_tryCatch, run_tryCatch, hrun, hrun']
  cases result with
  | ok a => exact ⟨rfl, hrequests⟩
  | error e => exact ⟨rfl, hrequests⟩

theorem alike_mapM {f f' : α → Asking β} (h : ∀ x, Alike replies (f x) (f' x)) (xs : List α) :
    Alike replies (xs.mapM f) (xs.mapM f') := by
  induction xs with
  | nil => exact alike_pure []
  | cons x xs ih =>
    rw [List.mapM_cons, List.mapM_cons]
    exact (h x).bind fun y => ih.bind fun ys => alike_pure (y :: ys)

theorem alike_filterMapM {f f' : α → Asking (Option β)} (h : ∀ x, Alike replies (f x) (f' x))
    (xs : List α) : Alike replies (xs.filterMapM f) (xs.filterMapM f') := by
  induction xs with
  | nil =>
    rw [List.filterMapM_nil, List.filterMapM_nil]
    exact alike_pure []
  | cons x xs ih =>
    rw [List.filterMapM_cons, List.filterMapM_cons]
    refine (h x).bind fun y? => ?_
    cases y? with
    | none => exact ih
    | some y => exact ih.bind fun ys => alike_pure (y :: ys)

end Asking

/-! ## Repositories -/

namespace Repository

open Asking (alike_lift alike_pure)

variable {replies : Replies} {r r' : Repository}

/-- The repositories are the same, or they differ in the tokens they are asked with, which are both
fit to be sent. -/
def SameButToken (r r' : Repository) : Prop :=
  ∃ token, r' = { r with token } ∧ (token = r.token ∨ IsToken r.token ∧ IsToken token)

theorem SameButToken.request (h : r.SameButToken r') (path : String) :
    (∃ fault, r.request path = .error fault ∧ r'.request path = .error fault)
      ∨ ∃ request request', r.request path = .ok request ∧ r'.request path = .ok request'
        ∧ request.SameButToken request' := by
  obtain ⟨token, rfl, htoken⟩ := h
  have htext : addressText { r with token } path = addressText r path := rfl
  unfold Repository.request
  rw [htext]
  dsimp only
  cases Client.addressOf (r.addressText path)
    ("ref=".toList ++ Address.queryValue r.branch.toList) with
  | error fault => exact .inl ⟨fault, rfl, rfl⟩
  | ok address =>
    refine .inr ⟨_, _, rfl, rfl, rfl, ?_⟩
    rcases htoken with rfl | ⟨htoken, htoken'⟩
    · exact .inl rfl
    · have hset {token : String} (h : IsToken token) : token.isEmpty = false := by
        simpa using h.nonempty
      refine .inr ⟨?_, ?_⟩
      · rw [hset htoken]
        exact htoken.sends address
      · rw [hset htoken']
        exact htoken'.sends address

theorem SameButToken.contents (h : r.SameButToken r') (hreplies : replies.TellNoToken)
    (path : String) : Asking.Alike replies (r.contents path) (r'.contents path) := by
  intro before before' hbefore
  unfold Repository.contents
  rcases h.request path with ⟨fault, hasked, hasked'⟩ | ⟨request, request', hasked, hasked', hsame⟩
  · rw [hasked, hasked']
    exact ⟨rfl, hbefore⟩
  · rw [hasked, hasked']
    refine ⟨?_, hbefore.concat hsame.address⟩
    show Repository.contentsOf path (replies.behind before request)
      = Repository.contentsOf path (replies.behind before' request')
    rw [hreplies before before' request request' hbefore hsame]

theorem SameButToken.folder (h : r.SameButToken r') (hreplies : replies.TellNoToken)
    (path : String) : Asking.Alike replies (r.folder path) (r'.folder path) :=
  (h.contents hreplies path).bind fun _ => alike_lift _

theorem SameButToken.info? (h : r.SameButToken r') (hreplies : replies.TellNoToken)
    (item : Json) : Asking.Alike replies (r.info? item) (r'.info? item) := by
  refine (alike_lift _).bind fun isDir => ?_
  cases isDir with
  | false => exact alike_pure none
  | true =>
    refine (alike_lift _).bind fun name => ?_
    have hfolder := h.folder hreplies (r.blockPath name.shown)
    obtain ⟨token, rfl, -⟩ := h
    refine hfolder.bind fun files => ?_
    refine (Asking.alike_mapM (fun file => alike_lift _) files).bind fun names => ?_
    exact alike_pure (some (r.infoOf item name names))

theorem SameButToken.list (h : r.SameButToken r') (hreplies : replies.TellNoToken) :
    Asking.Alike replies r.list r'.list := by
  have hfolder := h.folder hreplies r.blocksPath
  have hinfo := h.info? hreplies
  obtain ⟨token, rfl, -⟩ := h
  refine hfolder.bind fun items => ?_
  exact (Asking.alike_filterMapM hinfo items).bind fun blocks => alike_lift _

theorem SameButToken.codeIn (h : r.SameButToken r') (hreplies : replies.TellNoToken)
    (folder name : String) :
    Asking.Alike replies (r.codeIn folder name) (r'.codeIn folder name) :=
  ((h.contents hreplies _).mapError _).bind fun _ => alike_lift _

theorem SameButToken.code (h : r.SameButToken r') (hreplies : replies.TellNoToken)
    (name : String) : Asking.Alike replies (r.code name) (r'.code name) := by
  have hcode := h.codeIn hreplies (r.blockPath name) name
  obtain ⟨token, rfl, -⟩ := h
  exact hcode

end Repository

end BlockAuthoring
