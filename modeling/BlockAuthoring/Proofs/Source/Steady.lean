import BlockAuthoring.Proofs.Source.Asking

/-!
# Asking again

A service replies the same whenever it is asked, and what a repository is asked for next depends on
the replies only. So what comes of asking does not depend on what was asked before, and whoever asks
again is told the same.
-/

namespace BlockAuthoring

namespace Asking

variable {α β : Type} {service : Service}

/-- Asking the service has one result, whatever was asked before. -/
def Steady (service : Service) (x : Asking α) : Prop := ∃ result, Gives service x result

theorem steady_pure (a : α) : Steady service (pure a) := ⟨_, gives_pure a⟩

theorem steady_lift (result : Except SourceFailure α) :
    Steady service (liftM result : Asking α) := ⟨_, gives_lift result⟩

theorem Steady.bind {x : Asking α} {f : α → Asking β} (hx : Steady service x)
    (hf : ∀ a, Steady service (f a)) : Steady service (x >>= f) := by
  obtain ⟨result, hresult⟩ := hx
  cases result with
  | ok a =>
    obtain ⟨result', hresult'⟩ := hf a
    exact ⟨result', hresult.bind hresult'⟩
  | error e => exact ⟨_, hresult.bind_error⟩

theorem Steady.mapError {x : Asking α} (hx : Steady service x)
    (tell : SourceFailure → SourceFailure) :
    Steady service (tryCatch x fun e => throw (tell e)) := by
  obtain ⟨result, hresult⟩ := hx
  exact ⟨_, hresult.mapError tell⟩

theorem steady_mapM {f : α → Asking β} (h : ∀ x, Steady service (f x)) (xs : List α) :
    Steady service (xs.mapM f) := by
  induction xs with
  | nil => exact steady_pure []
  | cons x xs ih =>
    rw [List.mapM_cons]
    exact (h x).bind fun y => ih.bind fun ys => steady_pure (y :: ys)

theorem steady_filterMapM {f : α → Asking (Option β)} (h : ∀ x, Steady service (f x))
    (xs : List α) : Steady service (xs.filterMapM f) := by
  induction xs with
  | nil =>
    rw [List.filterMapM_nil]
    exact steady_pure []
  | cons x xs ih =>
    rw [List.filterMapM_cons]
    refine (h x).bind fun y? => ?_
    cases y? with
    | none => exact ih
    | some y => exact ih.bind fun ys => steady_pure (y :: ys)

end Asking

namespace Repository

open Asking (Steady steady_lift steady_pure)

variable {service : Service}

theorem steady_contents (r : Repository) (path : String) : Steady service (r.contents path) := by
  unfold contents
  cases r.request path with
  | error fault => exact steady_lift (.error _)
  | ok request => exact ⟨contentsOf path (service request), fun before => ⟨[request], rfl⟩⟩

theorem steady_folder (r : Repository) (path : String) : Steady service (r.folder path) :=
  (r.steady_contents path).bind fun _ => steady_lift _

theorem steady_info? (r : Repository) (item : Json) : Steady service (r.info? item) := by
  refine (steady_lift _).bind fun isDir => ?_
  cases isDir with
  | false => exact steady_pure none
  | true =>
    refine (steady_lift _).bind fun name => (r.steady_folder _).bind fun files => ?_
    refine (Asking.steady_mapM (fun file => steady_lift _) files).bind fun names => ?_
    exact steady_pure (some (r.infoOf item name names))

theorem steady_list (r : Repository) : Steady service r.list := by
  refine (r.steady_folder _).bind fun items => ?_
  exact (Asking.steady_filterMapM r.steady_info? items).bind fun blocks => steady_lift _

theorem steady_codeOf (r : Repository) (b : BlockInfo) : Steady service (r.codeOf b) :=
  ((r.steady_contents _).mapError _).bind fun _ => steady_lift _

end Repository

end BlockAuthoring
