import BlockAuthoring.Proofs.Source.Asking

/-!
# What has been replied

How asking ends is told from the replies that came: what holds of them and of the result, or of them
and of the failure. Asking step by step, each step starts with the replies of those before it.
-/

namespace BlockAuthoring

/-- The replies to requests that are made one after another, behind those made before. -/
def Replies.along (replies : Replies) (before : List Request) : List Request → List Reply
  | [] => []
  | request :: more =>
    replies.behind before request :: replies.along (before ++ [request]) more

theorem Replies.along_append (replies : Replies) (before asked more : List Request) :
    replies.along before (asked ++ more)
      = replies.along before asked ++ replies.along (before ++ asked) more := by
  induction asked generalizing before with
  | nil => simp [along]
  | cons request asked ih => simp [along, ih]

namespace Asking

variable {α β : Type} {seen : List Reply} {gives : List Reply → α → Prop}
  {gives' : List Reply → β → Prop} {fails : List Reply → SourceFailure → Prop}

/-- Where these replies have been seen, asking ends with a result or a failure of which, together
with all the replies then seen, something holds. This is so whatever is replied, and whatever was
asked before. -/
def Ends (x : Asking α) (seen : List Reply) (gives : List Reply → α → Prop)
    (fails : List Reply → SourceFailure → Prop) : Prop :=
  ∀ (replies : Replies) before, ∃ asked,
    (∃ a, (x.run replies).run.run before = (.ok a, before ++ asked)
      ∧ gives (seen ++ replies.along before asked) a)
    ∨ ∃ e, (x.run replies).run.run before = (.error e, before ++ asked)
      ∧ fails (seen ++ replies.along before asked) e

theorem ends_pure {a : α} (h : gives seen a) : Ends (pure a) seen gives fails := by
  intro replies before
  refine ⟨[], .inl ⟨a, ?_, ?_⟩⟩
  · rw [List.append_nil]
    rfl
  · simpa [Replies.along] using h

/-- What needs no reply ends as it is. -/
theorem ends_lift {result : Except SourceFailure α} (hok : ∀ a, result = .ok a → gives seen a)
    (herror : ∀ e, result = .error e → fails seen e) :
    Ends (liftM result) seen gives fails := by
  intro replies before
  refine ⟨[], ?_⟩
  rw [List.append_nil, Replies.along, List.append_nil]
  cases result with
  | ok a => exact .inl ⟨a, rfl, hok a rfl⟩
  | error e => exact .inr ⟨e, rfl, herror e rfl⟩

theorem Ends.bind {x : Asking α} {f : α → Asking β} (hx : Ends x seen gives fails)
    (hf : ∀ seen' a, gives seen' a → Ends (f a) seen' gives' fails) :
    Ends (x >>= f) seen gives' fails := by
  intro replies before
  obtain ⟨asked, ⟨a, hrun, ha⟩ | ⟨e, hrun, he⟩⟩ := hx replies before
  · obtain ⟨more, hmore⟩ := hf _ a ha replies (before ++ asked)
    refine ⟨asked ++ more, ?_⟩
    rw [run_bind, hrun, Replies.along_append, ← List.append_assoc, ← List.append_assoc]
    exact hmore
  · refine ⟨asked, .inr ⟨e, ?_, he⟩⟩
    rw [run_bind, hrun]

theorem Ends.mono {x : Asking α} {gives' : List Reply → α → Prop} (hx : Ends x seen gives fails)
    (h : ∀ seen' a, gives seen' a → gives' seen' a) : Ends x seen gives' fails := by
  intro replies before
  obtain ⟨asked, ⟨a, hrun, ha⟩ | herror⟩ := hx replies before
  · exact ⟨asked, .inl ⟨a, hrun, h _ a ha⟩⟩
  · exact ⟨asked, .inr herror⟩

/-- What was seen before is still seen. -/
theorem Ends.extends {x : Asking α} (hx : Ends x seen gives fails) :
    Ends x seen (fun seen' a => seen <+: seen' ∧ gives seen' a) fails := by
  intro replies before
  obtain ⟨asked, ⟨a, hrun, ha⟩ | herror⟩ := hx replies before
  · exact ⟨asked, .inl ⟨a, hrun, List.prefix_append _ _, ha⟩⟩
  · exact ⟨asked, .inr herror⟩

/-- A failure that is told in other words is one still. -/
theorem Ends.mapError {x : Asking α} {tell : SourceFailure → SourceFailure}
    (hx : Ends x seen gives fails) (htell : ∀ seen' e, fails seen' e → fails seen' (tell e)) :
    Ends (tryCatch x fun e => throw (tell e)) seen gives fails := by
  intro replies before
  obtain ⟨asked, ⟨a, hrun, ha⟩ | ⟨e, hrun, he⟩⟩ := hx replies before
  · refine ⟨asked, .inl ⟨a, ?_, ha⟩⟩
    rw [run_tryCatch, hrun]
  · refine ⟨asked, .inr ⟨tell e, ?_, htell _ e he⟩⟩
    rw [run_tryCatch, hrun]
    rfl

/-! ## One element after another -/

variable {xs : List α} {P : List Reply → Prop}

theorem ends_mapM {f : α → Asking β}
    (hstep : ∀ x ∈ xs, ∀ seen, P seen → Ends (f x) seen (fun seen' _ => P seen') fails)
    (hseen : P seen) : Ends (xs.mapM f) seen (fun seen' _ => P seen') fails := by
  induction xs generalizing seen with
  | nil =>
    rw [List.mapM_nil]
    exact ends_pure hseen
  | cons x xs ih =>
    obtain ⟨hx, hxs⟩ := List.forall_mem_cons.mp hstep
    rw [List.mapM_cons]
    exact (hx seen hseen).bind fun _ _ hseen' =>
      (ih hxs hseen').bind fun _ _ hseen'' => ends_pure hseen''

/-- What holds of the replies in front of every element holds of them behind all, and what holds of
the result for each element holds of all results. -/
theorem ends_filterMapM {f : α → Asking (Option β)} {Q : β → Prop}
    (hstep : ∀ x ∈ xs, ∀ seen, P seen →
      Ends (f x) seen (fun seen' y? => P seen' ∧ ∀ y ∈ y?, Q y) fails)
    (hseen : P seen) :
    Ends (xs.filterMapM f) seen (fun seen' ys => P seen' ∧ ∀ y ∈ ys, Q y) fails := by
  induction xs generalizing seen with
  | nil =>
    rw [List.filterMapM_nil]
    exact ends_pure ⟨hseen, by simp⟩
  | cons x xs ih =>
    obtain ⟨hx, hxs⟩ := List.forall_mem_cons.mp hstep
    rw [List.filterMapM_cons]
    refine (hx seen hseen).bind fun seen' y? ⟨hseen', hy⟩ => ?_
    cases y? with
    | none => exact ih hxs hseen'
    | some y =>
      refine (ih hxs hseen').bind fun seen'' ys ⟨hseen'', hys⟩ => ends_pure ⟨hseen'', ?_⟩
      exact List.forall_mem_cons.mpr ⟨hy y rfl, hys⟩

end Asking

end BlockAuthoring
