import BlockAuthoring.Source.Repository

/-!
# What asking a service gives

The result of asking does not depend on what was asked before; the requests are only added to it.
-/

namespace BlockAuthoring

namespace Asking

variable {α β : Type} {service : Service} {replies : Replies}

/-- Asking a service gives a result, whatever was asked before. -/
def Gives (service : Service) (x : Asking α) (result : Except SourceFailure α) : Prop :=
  ∀ requests, ∃ more, (x.run service).run.run requests = (result, requests ++ more)

theorem Gives.unique {x : Asking α} {result result' : Except SourceFailure α}
    (h : Gives service x result) (h' : Gives service x result') : result = result' := by
  obtain ⟨more, hmore⟩ := h []
  obtain ⟨more', hmore'⟩ := h' []
  exact (Prod.mk.inj (hmore.symm.trans hmore')).1

theorem gives_pure (a : α) : Gives service (pure a) (.ok a) := fun _ => ⟨[], by simp; rfl⟩

theorem run_lift (result : Except SourceFailure α) (requests : List Request) :
    ((liftM result : Asking α).run replies).run.run requests = (result, requests) := by
  cases result <;> rfl

/-- What needs no service gives what it is. -/
theorem gives_lift (result : Except SourceFailure α) :
    Gives service (liftM result : Asking α) result := by
  intro requests
  exact ⟨[], by rw [run_lift, List.append_nil]⟩

theorem run_bind (x : Asking α) (f : α → Asking β) (requests : List Request) :
    ((x >>= f).run replies).run.run requests =
      match (x.run replies).run.run requests with
      | (.ok a, requests') => ((f a).run replies).run.run requests'
      | (.error e, requests') => (.error e, requests') := by
  rw [ReaderT.run_bind, ExceptT.run_bind, StateT.run_bind]
  cases (x.run replies).run.run requests with
  | mk result requests' => cases result <;> rfl

theorem Gives.bind {x : Asking α} {f : α → Asking β} {a : α} {result : Except SourceFailure β}
    (hx : Gives service x (.ok a)) (hf : Gives service (f a) result) :
    Gives service (x >>= f) result := by
  intro requests
  obtain ⟨more, hmore⟩ := hx requests
  obtain ⟨more', hmore'⟩ := hf (requests ++ more)
  exact ⟨more ++ more', by rw [run_bind, hmore, ← List.append_assoc]; exact hmore'⟩

theorem Gives.bind_error {x : Asking α} {f : α → Asking β} {e : SourceFailure}
    (hx : Gives service x (.error e)) : Gives service (x >>= f) (.error e) := by
  intro requests
  obtain ⟨more, hmore⟩ := hx requests
  exact ⟨more, by rw [run_bind, hmore]⟩

theorem run_tryCatch (x : Asking α) (f : SourceFailure → Asking α) (requests : List Request) :
    ((tryCatch x f).run replies).run.run requests =
      match (x.run replies).run.run requests with
      | (.ok a, requests') => (.ok a, requests')
      | (.error e, requests') => ((f e).run replies).run.run requests' := by
  simp only [tryCatch, tryCatchThe, MonadExceptOf.tryCatch, ExceptT.tryCatch, ReaderT.run,
    ExceptT.run, ExceptT.mk]
  rw [StateT.run_bind]
  cases StateT.run (x replies) requests with
  | mk result requests' => cases result <;> rfl

/-- A failure is told in other words, and a result stays. -/
theorem Gives.mapError {x : Asking α} {result : Except SourceFailure α}
    (hx : Gives service x result) (tell : SourceFailure → SourceFailure) :
    Gives service (tryCatch x fun e => throw (tell e)) (result.mapError tell) := by
  intro requests
  obtain ⟨more, hmore⟩ := hx requests
  refine ⟨more, ?_⟩
  rw [run_tryCatch, hmore]
  cases result <;> rfl

theorem gives_mapM {f : α → Asking β} {g : α → β} (xs : List α)
    (h : ∀ x ∈ xs, Gives service (f x) (.ok (g x))) :
    Gives service (xs.mapM f) (.ok (xs.map g)) := by
  induction xs with
  | nil => exact gives_pure []
  | cons x xs ih =>
    rw [List.forall_mem_cons] at h
    rw [List.mapM_cons]
    exact h.1.bind ((ih h.2).bind (gives_pure _))

theorem gives_filterMapM {f : α → Asking (Option β)} {g : α → Option β} (xs : List α)
    (h : ∀ x ∈ xs, Gives service (f x) (.ok (g x))) :
    Gives service (xs.filterMapM f) (.ok (xs.filterMap g)) := by
  induction xs with
  | nil =>
    rw [List.filterMapM_nil]
    exact gives_pure []
  | cons x xs ih =>
    rw [List.forall_mem_cons] at h
    rw [List.filterMapM_cons]
    refine h.1.bind ?_
    cases hx : g x with
    | none =>
      rw [List.filterMap_cons_none hx]
      exact ih h.2
    | some y =>
      rw [List.filterMap_cons_some hx]
      exact (ih h.2).bind (gives_pure _)

end Asking

namespace Repository

variable {r : Repository} {replies : Replies} {path : String} {request : Request}

/-- A path is asked for with one request, and what comes of it is what the reply says. -/
theorem run_contents (h : r.request path = .ok request) (before : List Request) :
    ((r.contents path).run replies).run.run before
      = (contentsOf path (replies.behind before request), before ++ [request]) := by
  simp only [contents, h]
  rfl

/-- A path that cannot be asked for is not. -/
theorem run_contents_error {fault : Malformation} (h : r.request path = .error fault)
    (before : List Request) :
    ((r.contents path).run replies).run.run before = (.error (.malformed fault), before) := by
  simp only [contents, h]
  rfl

end Repository

end BlockAuthoring
