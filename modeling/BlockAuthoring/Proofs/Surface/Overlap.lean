import BlockAuthoring.Proofs.Surface.Occurrence

/-!
# Matches that run into others

A scan goes on behind a match, so that an occurrence which starts inside an earlier match is lost.
What a scan captures occurs somewhere (`exists_of_mem_captures`); the other way round, an occurrence
is captured if every match in front of it has ended where it starts (`mem_captures_of_reaches`).

For a pattern whose first character can stand in the captured part only, `exists_split_of_overlap`
says what the text looks like where a match has not ended there.
-/

namespace BlockAuthoring.Surface

namespace Pattern

variable {p : Pattern}

/-- What a scan captures, it captures at some place of the text. -/
theorem exists_of_mem_captures {text captured : List Char} (h : captured ∈ p.captures text) :
    ∃ t, t <:+ text ∧ p.captured? t = some captured := by
  obtain ⟨o, ho, rfl⟩ := List.mem_map.mp h
  have hscan : ∀ skip position, o ∈ p.scanFrom skip position text →
      ∃ t, t <:+ text ∧ p.captured? t = some o.captured := by
    clear h ho
    induction text with
    | nil => simp [scanFrom]
    | cons c rest ih =>
      have hlater : ∀ skip position, o ∈ p.scanFrom skip position rest →
          ∃ t, t <:+ c :: rest ∧ p.captured? t = some o.captured := by
        intro skip position ho
        obtain ⟨t, ht, hcaptured⟩ := ih skip position ho
        exact ⟨t, ht.trans (List.suffix_cons c rest), hcaptured⟩
      intro skip position ho
      cases skip with
      | succ n => exact hlater n _ ho
      | zero =>
        rw [scanFrom] at ho
        cases hm : p (c :: rest) with
        | none =>
          rw [hm] at ho
          exact hlater _ _ ho
        | some m =>
          rw [hm] at ho
          rcases List.mem_cons.mp ho with rfl | ho
          · exact ⟨c :: rest, List.suffix_rfl, by simp [captured?, hm]⟩
          · exact hlater _ _ ho
  exact hscan 0 0 ho

/-- Every match that starts in `front` has ended where `here` starts. -/
def Reaches (p : Pattern) (front here : List Char) : Prop :=
  ∀ t, t ≠ [] → t <:+ front → ∀ m, p (t ++ here) = some m → m.length ≤ t.length

theorem Reaches.tail {c : Char} {front here : List Char} (h : p.Reaches (c :: front) here) :
    p.Reaches front here :=
  fun t hne ht => h t hne (ht.trans (List.suffix_cons c front))

/-- The scan does not skip a place that all matches in front of it have left behind. -/
theorem mem_scanFrom_of_reaches {front here : List Char} {c : Char} {m : Match}
    (h : p.Reaches front (c :: here)) (hm : p (c :: here) = some m) {skip : Nat}
    (hskip : skip ≤ front.length) (position : Nat) :
    m.captured ∈ (p.scanFrom skip position (front ++ c :: here)).map (·.captured) := by
  induction front generalizing skip position with
  | nil =>
    obtain rfl : skip = 0 := Nat.le_zero.mp hskip
    simp [scanFrom, hm]
  | cons d front ih =>
    rw [List.cons_append]
    cases skip with
    | succ n => exact ih h.tail (Nat.le_of_succ_le_succ hskip) _
    | zero =>
      rw [scanFrom]
      cases hd : p (d :: (front ++ c :: here)) with
      | none => exact ih h.tail (Nat.zero_le _) _
      | some first =>
        have hended : first.length ≤ front.length + 1 :=
          h (d :: front) (by simp) List.suffix_rfl first hd
        rw [List.map_cons]
        exact List.mem_cons_of_mem _ (ih h.tail (by omega) _)

theorem mem_captures_of_reaches {front here : List Char} {m : Match} (hne : here ≠ [])
    (hm : p here = some m) (h : p.Reaches front here) :
    m.captured ∈ p.captures (front ++ here) := by
  obtain ⟨c, rest, rfl⟩ := List.exists_cons_of_ne_nil hne
  exact mem_scanFrom_of_reaches h hm (Nat.zero_le _) 0

end Pattern

/-! ## Where matches overlap -/

section

variable {α : Type} {a : α}

/-- An element that is not in the first part of a list stands behind it. -/
theorem exists_append_of_not_mem {xs ys before after : List α} (ha : a ∉ xs)
    (h : xs ++ ys = before ++ a :: after) :
    ∃ more, before = xs ++ more ∧ ys = more ++ a :: after := by
  rcases List.append_eq_append_iff.mp h with ⟨more, rfl, rfl⟩ | ⟨more, rfl, hmore⟩
  · exact ⟨more, rfl, rfl⟩
  · cases more with
    | nil => exact ⟨[], by simp, by simpa using hmore.symm⟩
    | cons b more =>
      rw [List.cons_append, List.cons.injEq] at hmore
      exact absurd (by simp [hmore.1]) ha

/-- Two ways to split a list at the first `a` are the same. -/
theorem append_cons_inj_of_not_mem {xs xs' ys ys' : List α} (ha : a ∉ xs) (ha' : a ∉ xs')
    (h : xs ++ a :: ys = xs' ++ a :: ys') : xs = xs' ∧ ys = ys' := by
  obtain ⟨more, rfl, hmore⟩ := exists_append_of_not_mem ha h
  cases more with
  | nil => simpa using hmore
  | cons b more =>
    rw [List.cons_append, List.cons.injEq] at hmore
    exact absurd (by simp [hmore.1]) ha'

/-- If a match of `a`, `opening`, `run`, `closing` runs into a place where another `a` stands, then
that `a` stands in the run: no other part of the match has one. -/
theorem exists_split_of_overlap {opening run closing t rest : List α} (hopening : a ∉ opening)
    (hclosing : a ∉ closing) (hne : t ≠ [])
    (hmatch : a :: (opening ++ run ++ closing) <+: t ++ a :: rest)
    (hlong : t.length < (a :: (opening ++ run ++ closing)).length) :
    ∃ first last, run = first ++ a :: last ∧ t = a :: (opening ++ first)
      ∧ last ++ closing <+: rest := by
  obtain ⟨inside, hinside⟩ :=
    List.prefix_of_prefix_length_le (List.prefix_append t (a :: rest)) hmatch (Nat.le_of_lt hlong)
  -- What of the match lies behind `t` starts with the second `a`.
  rw [← hinside, List.prefix_append_right_inj] at hmatch
  cases inside with
  | nil =>
    rw [← hinside, List.append_nil] at hlong
    exact absurd hlong (Nat.lt_irrefl _)
  | cons b inside =>
    obtain ⟨rfl, hbehind⟩ := List.cons_prefix_cons.mp hmatch
    obtain ⟨c, t, rfl⟩ := List.exists_cons_of_ne_nil hne
    rw [List.cons_append, List.cons.injEq, List.append_assoc] at hinside
    obtain ⟨rfl, hinside⟩ := hinside
    obtain ⟨first, rfl, hfirst⟩ := exists_append_of_not_mem hopening hinside.symm
    rcases List.append_eq_append_iff.mp hfirst with ⟨more, -, hmore⟩ | ⟨more, rfl, hmore⟩
    · exact absurd (by simp [hmore]) hclosing
    · cases more with
      | nil => exact absurd (by simp [← show _ = closing from hmore]) hclosing
      | cons d last =>
        rw [List.cons_append, List.cons.injEq] at hmore
        obtain ⟨rfl, rfl⟩ := hmore
        exact ⟨first, last, rfl, rfl, hbehind⟩

end

end BlockAuthoring.Surface
