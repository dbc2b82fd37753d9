import BlockAuthoring.Proofs.Tool.Session
import BlockAuthoring.Tool.Listing
import Mathlib.Order.Defs.Unbundled

/-!
# What steps keep

If each step of a sequence leads to a session that is related to the one before, so does the whole
sequence, as long as the relation carries over. What a sequence may fail with is what its steps may.
Finding a code adds to the requests of a session and does nothing else to it, so that it keeps every
relation that does not look at the requests.
-/

namespace BlockAuthoring

namespace Act

variable {α β : Type} {R : Session → Session → Prop} {P : Failure → Prop} {e : Failure}

/-- The session behind the step is related to the one before, and whatever the step fails with has
the property. -/
def Keeps (R : Session → Session → Prop) (P : Failure → Prop) (x : Act α) : Prop :=
  ∀ around s, R s (x.runIn around s).2 ∧ ∀ e, (x.runIn around s).1 = .error e → P e

/-- Asking the service adds requests to the session, and nothing else. -/
theorem runIn_asking {around : Surroundings} {s : Session} (ask : Asking α) :
    (asking ask).runIn around s =
      ((((ask.run around.service).run).run s.requests).1.mapError .source,
        { s with requests := (((ask.run around.service).run).run s.requests).2 }) := by
  have hread : (read : Act Surroundings).runIn around s = (.ok around, s) := rfl
  have hget : (get : Act Session).runIn around s = (.ok s, s) := rfl
  unfold asking
  rw [runIn_bind, hread]
  dsimp only
  rw [runIn_bind, hget]
  dsimp only
  cases ((ask.run around.service).run).run s.requests with
  | mk result requests => cases result <;> rfl

theorem keeps_asking (hrequests : ∀ s requests, R s { s with requests })
    (hsource : ∀ f, P (.source f)) (ask : Asking α) : Keeps R P (asking ask) := by
  intro around s
  rw [runIn_asking]
  refine ⟨hrequests s _, fun e he => ?_⟩
  dsimp only at he
  cases hresult : (((ask.run around.service).run).run s.requests).1 with
  | ok a =>
    rw [hresult] at he
    cases he
  | error f =>
    rw [hresult] at he
    cases he
    exact hsource f

variable [IsPreorder Session R]

theorem keeps_pure (a : α) : Keeps R P (pure a : Act α) :=
  fun _ s => ⟨refl_of R s, fun _ h => nomatch h⟩

theorem keeps_throw (h : P e) : Keeps R P (throw e : Act α) := by
  intro around s
  refine ⟨refl_of R s, fun e' he' => ?_⟩
  cases he'
  exact h

theorem Keeps.bind {x : Act α} {f : α → Act β} (hx : Keeps R P x) (hf : ∀ a, Keeps R P (f a)) :
    Keeps R P (x >>= f) := by
  intro around s
  obtain ⟨hrelated, hcause⟩ := hx around s
  rw [runIn_bind]
  generalize x.runIn around s = outcome at hrelated hcause
  obtain ⟨result, s₁⟩ := outcome
  cases result with
  | ok a =>
    obtain ⟨hrelated', hcause'⟩ := hf a around s₁
    exact ⟨trans_of R hrelated hrelated', hcause'⟩
  | error e =>
    refine ⟨hrelated, fun e' he' => ?_⟩
    cases he'
    exact hcause e rfl

theorem keeps_ofExcept {ε : Type} {cause : ε → Failure} {result : Except ε α}
    (h : ∀ e, result = .error e → P (cause e)) : Keeps R P (ofExcept cause result) := by
  cases result with
  | ok a => exact keeps_pure a
  | error e => exact keeps_throw (h e rfl)

theorem keeps_environment : Keeps R P environment :=
  fun _ s => ⟨refl_of R s, fun _ h => nomatch h⟩

theorem keeps_disk : Keeps R P disk := fun _ s => ⟨refl_of R s, fun _ h => nomatch h⟩

theorem keeps_handOver {p : Path} (h : p.holdsNull = true → P .nullByte) :
    Keeps R P (handOver p) := by
  unfold handOver
  split
  · rename_i hnull
    exact keeps_throw (h hnull)
  · exact keeps_pure ()

theorem keeps_readText (h : ∀ e, P (.file e)) {p : Path}
    (hnull : p.holdsNull = true → P .nullByte) : Keeps R P (readText p) :=
  (keeps_handOver hnull).bind fun _ => keeps_disk.bind fun _ =>
    (keeps_ofExcept fun e _ => h e).bind fun _ => keeps_pure _

theorem keeps_mapM {f : α → Act β} (xs : List α) (h : ∀ x ∈ xs, Keeps R P (f x)) :
    Keeps R P (xs.mapM f) := by
  induction xs with
  | nil => exact keeps_pure []
  | cons x xs ih =>
    obtain ⟨hx, hxs⟩ := List.forall_mem_cons.mp h
    rw [List.mapM_cons]
    exact hx.bind fun y => (ih hxs).bind fun ys => keeps_pure (y :: ys)

end Act

/-! ## Finding a code -/

/-- The relation does not look at requests, and the property holds of all that finding a code may
fail with. -/
structure KeptByFinding (R : Session → Session → Prop) (P : Failure → Prop) : Prop where
  requests : ∀ s requests, R s { s with requests }
  source : ∀ f, P (.source f)
  location : ∀ v e, BlockSource.locationOf v = .error e → P e

namespace KeptByFinding

open Act

variable {R : Session → Session → Prop} [IsPreorder Session R] {P : Failure → Prop}

theorem resolve (h : KeptByFinding R P) (place : BlockPlace) :
    Keeps R P (BlockSource.resolve place) := by
  refine keeps_environment.bind fun env => ?_
  cases hplace : BlockSource.ofPlace env place with
  | ok source => exact keeps_pure source
  | error e =>
    refine keeps_throw ?_
    unfold BlockSource.ofPlace at hplace
    split at hplace
    · cases hlocation : BlockSource.locationOf place.repository with
      | ok l =>
        rw [hlocation] at hplace
        cases hplace
      | error e' =>
        rw [hlocation] at hplace
        cases hplace
        exact h.location _ _ hlocation
    · cases hplace

theorem list (h : KeptByFinding R P) (source : BlockSource) : Keeps R P source.list := by
  cases source with
  | folder f => exact keeps_disk.bind fun d => keeps_ofExcept fun _ _ => h.source _
  | repository r => exact keeps_asking h.requests h.source r.list

theorem find (h : KeptByFinding R P) (source : BlockSource) (name : String) :
    Keeps R P (source.find name) :=
  (h.list source).bind fun _ => keeps_ofExcept fun _ _ => h.source _

theorem codeOf (h : KeptByFinding R P) (source : BlockSource) (b : BlockInfo) :
    Keeps R P (source.codeOf b) := by
  cases source with
  | folder f => exact keeps_disk.bind fun d => keeps_ofExcept fun e _ => h.source e
  | repository r => exact keeps_asking h.requests h.source (r.codeOf b)

theorem load (h : KeptByFinding R P) (source : BlockSource) (name : String) :
    Keeps R P (source.load name) := by
  refine (h.find source name).bind fun b => ?_
  cases b.hasCode with
  | true => exact h.codeOf source b
  | false => exact keeps_throw (h.source _)

theorem meantCode (h : KeptByFinding R P) (place : BlockPlace) (blockName : String)
    (code : Option String) : Keeps R P (BlockAuthoring.meantCode place blockName code) := by
  cases code with
  | some code => exact keeps_pure code
  | none => exact (h.resolve place).bind fun source => h.load source blockName

end KeptByFinding

end BlockAuthoring
