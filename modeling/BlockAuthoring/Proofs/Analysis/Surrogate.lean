import BlockAuthoring.Proofs.Analysis.Outcome

/-!
# Where a surrogate is found

A source is refused for a surrogate iff it holds one, whatever else is wrong with it, and the
refusal tells the place of the first one. That place is reckoned from the line feeds in front of it.
A walk over the code points comes to the same place (`firstSurrogate_eq_walk`), and it is the walk
that is compared with the lines of the source, which lie between its line feeds.
-/

namespace BlockAuthoring

namespace Script.Source

/-- The lines of a source, without the line feeds between them. -/
def lines (s : Source) : List Source := s.splitOn lineFeed

/-- The first surrogate of a source stands at the place, line and column counted from one: nothing
that stands before it, in the lines above and in its own, is one. -/
inductive FirstSurrogateAt (s : Source) : Place → Prop where
  | mk {above below : List Source} {left right : Source} {unit : UInt16}
      (hlines : lines s = above ++ (left ++ .surrogate unit :: right) :: below)
      (hbefore : ∀ c ∈ above.flatten ++ left, c.isSurrogate = false) :
      FirstSurrogateAt s ⟨above.length + 1, left.length + 1⟩

/-! ## The walk -/

/-- The place that is reached by stepping over one code point. -/
def Place.after (p : Place) : CodePoint → Place
  | .scalar '\n' => ⟨p.line + 1, 1⟩
  | _ => ⟨p.line, p.column + 1⟩

/-- The place of the first surrogate of `s`, when `s` itself starts at `p`. -/
def firstSurrogateFrom (p : Place) : Source → Option Place
  | [] => none
  | c :: rest => if c.isSurrogate then some p else firstSurrogateFrom (p.after c) rest

@[simp] theorem Place.after_lineFeed (p : Place) : p.after lineFeed = ⟨p.line + 1, 1⟩ := rfl

theorem Place.after_of_ne {c : CodePoint} (hc : c ≠ lineFeed) (p : Place) :
    p.after c = ⟨p.line, p.column + 1⟩ := by
  unfold Place.after
  split
  · exact absurd rfl hc
  · rfl

theorem firstSurrogateFrom_cons {c : CodePoint} (hc : c.isSurrogate = false) (p : Place)
    (s : Source) : firstSurrogateFrom p (c :: s) = firstSurrogateFrom (p.after c) s := by
  rw [firstSurrogateFrom, if_neg (by simp [hc])]

theorem lastLineFeed?_concat_lineFeed (before : Source) :
    lastLineFeed? (before ++ [lineFeed]) = some before.length := by
  simp [lastLineFeed?, List.findIdx?_cons]

theorem lastLineFeed?_concat_of_ne {c : CodePoint} (hc : c ≠ lineFeed) (before : Source) :
    lastLineFeed? (before ++ [c]) = lastLineFeed? before := by
  rw [lastLineFeed?, List.reverse_concat, List.findIdx?_cons, if_neg (by simpa using hc),
    Option.map_map, lastLineFeed?]
  refine congrFun (congrArg Option.map (funext fun fromEnd => ?_)) _
  rw [Function.comp_apply, List.length_append, List.length_singleton]
  omega

theorem lastLineFeed?_lt {before : Source} {i : Nat} (h : lastLineFeed? before = some i) :
    i < before.length := by
  obtain ⟨fromEnd, hfound, rfl⟩ := Option.map_eq_some_iff.mp h
  have hthere := (List.findIdx?_eq_some_iff_findIdx_eq.mp hfound).1
  rw [List.length_reverse] at hthere
  omega

/-- The place behind a longer text is one step further. -/
theorem placeBehind_concat (before : Source) (c : CodePoint) :
    placeBehind (before ++ [c]) = (placeBehind before).after c := by
  by_cases hc : c = lineFeed
  · subst hc
    simp [placeBehind, lastLineFeed?_concat_lineFeed]
  · have hstart : before.lastLineFeed?.elim 0 (· + 1) ≤ before.length := by
      cases hlast : before.lastLineFeed? with
      | none => exact Nat.zero_le _
      | some i => exact lastLineFeed?_lt hlast
    rw [placeBehind, placeBehind, Place.after_of_ne hc, lastLineFeed?_concat_of_ne hc]
    simp only [List.count_append, List.count_singleton, beq_eq_false_iff_ne.mpr hc,
      List.length_append, List.length_singleton, Place.mk.injEq]
    refine ⟨by simp, by omega⟩

/-- The walk keeps the place behind what it has left behind. -/
theorem firstSurrogateFrom_placeBehind (before s : Source) :
    firstSurrogateFrom (placeBehind before) s
      = (s.findIdx? CodePoint.isSurrogate).map fun start =>
          placeBehind (before ++ s.take start) := by
  induction s generalizing before with
  | nil => rfl
  | cons c s ih =>
    cases hc : c.isSurrogate with
    | true => simp [firstSurrogateFrom, List.findIdx?_cons, hc]
    | false =>
      rw [firstSurrogateFrom_cons hc, ← placeBehind_concat, ih]
      simp [List.findIdx?_cons, hc, Option.map_map, Function.comp_def]

theorem firstSurrogate_eq_walk (s : Source) : s.firstSurrogate = firstSurrogateFrom ⟨1, 1⟩ s :=
  (firstSurrogateFrom_placeBehind [] s).symm

/-! ## Lines and places, one code point further -/

@[simp] theorem lines_nil : lines [] = [[]] := rfl

@[simp] theorem lines_lineFeed (s : Source) : lines (lineFeed :: s) = [] :: lines s := by
  simp [lines, List.splitOn, List.splitOnP_cons_eq_if_modifyHead]

theorem lines_cons {c : CodePoint} (hc : c ≠ lineFeed) (s : Source) :
    ∃ first rest, lines s = first :: rest ∧ lines (c :: s) = (c :: first) :: rest := by
  obtain ⟨first, rest, h⟩ := List.exists_cons_of_ne_nil (List.splitOnP_ne_nil (· == lineFeed) s)
  refine ⟨first, rest, h, ?_⟩
  rw [lines, List.splitOn, List.splitOnP_cons_eq_if_modifyHead, if_neg (by simpa using hc), h,
    List.modifyHead_cons]

/-! ## The walk and the lines -/

/-- The walk from any place. Only in the first of the lines does its column count. -/
theorem firstSurrogateFrom_of_lines {s : Source} {above below : List Source} {left right : Source}
    {unit : UInt16} (hlines : lines s = above ++ (left ++ .surrogate unit :: right) :: below)
    (hbefore : ∀ c ∈ above.flatten ++ left, c.isSurrogate = false) (line column : Nat) :
    firstSurrogateFrom ⟨line, column⟩ s
      = some ⟨line + above.length, (if above = [] then column else 1) + left.length⟩ := by
  induction s generalizing above left line column with
  | nil => cases above <;> simp at hlines
  | cons c s ih =>
    by_cases hc : c = lineFeed
    · subst hc
      rw [lines_lineFeed] at hlines
      cases above with
      | nil => simp at hlines
      | cons first above =>
        obtain ⟨rfl, hrest⟩ := List.cons.inj hlines
        rw [firstSurrogateFrom_cons rfl, Place.after_lineFeed, ih hrest (by simpa using hbefore)]
        simp [Nat.add_assoc, Nat.add_comm 1]
    · obtain ⟨first, rest, hs, hcons⟩ := lines_cons hc s
      rw [hcons] at hlines
      cases above with
      | nil =>
        obtain ⟨hfirst, rfl⟩ := List.cons.inj hlines
        cases left with
        | nil =>
          obtain ⟨rfl, -⟩ := List.cons.inj hfirst
          rfl
        | cons c' left =>
          obtain ⟨rfl, rfl⟩ := List.cons.inj hfirst
          obtain ⟨hclean, hbefore⟩ := List.forall_mem_cons.mp hbefore
          rw [firstSurrogateFrom_cons hclean, Place.after_of_ne hc, @ih [] left hs hbefore]
          simp [Nat.add_assoc, Nat.add_comm 1]
      | cons line' above =>
        obtain ⟨rfl, rfl⟩ := List.cons.inj hlines
        obtain ⟨hclean, hbefore⟩ := List.forall_mem_cons.mp hbefore
        rw [firstSurrogateFrom_cons hclean, Place.after_of_ne hc,
          @ih (first :: above) left hs hbefore]
        simp

/-- A source with a surrogate has a first one. -/
theorem exists_firstSurrogateAt {s : Source} (h : ∃ c ∈ s, c.isSurrogate = true) :
    ∃ p, FirstSurrogateAt s p := by
  suffices hsplit : ∃ above left unit right below,
      lines s = above ++ (left ++ .surrogate unit :: right) :: below
        ∧ ∀ c ∈ above.flatten ++ left, c.isSurrogate = false by
    obtain ⟨above, left, unit, right, below, hlines, hbefore⟩ := hsplit
    exact ⟨_, .mk hlines hbefore⟩
  induction s with
  | nil => simp at h
  | cons c s ih =>
    by_cases hc : c = lineFeed
    · subst hc
      obtain ⟨above, left, unit, right, below, hlines, hbefore⟩ :=
        ih (by simpa [lineFeed, CodePoint.isSurrogate] using h)
      exact ⟨[] :: above, left, unit, right, below, by simp [hlines], by simpa using hbefore⟩
    · obtain ⟨first, rest, hs, hcons⟩ := lines_cons hc s
      cases c with
      | surrogate unit => exact ⟨[], [], unit, first, rest, hcons, by simp⟩
      | scalar c =>
        obtain ⟨above, left, unit, right, below, hlines, hbefore⟩ :=
          ih (by simpa [CodePoint.isSurrogate] using h)
        -- The first line gets longer, and it may be the one that the surrogate stands in.
        rw [hs] at hlines
        cases above with
        | nil =>
          obtain ⟨rfl, rfl⟩ := List.cons.inj hlines
          exact ⟨[], .scalar c :: left, unit, right, rest, hcons,
            List.forall_mem_cons.mpr ⟨rfl, hbefore⟩⟩
        | cons line above =>
          obtain ⟨rfl, rfl⟩ := List.cons.inj hlines
          exact ⟨(.scalar c :: first) :: above, left, unit, right, below, hcons,
            List.forall_mem_cons.mpr ⟨rfl, hbefore⟩⟩

theorem exists_isSurrogate {s : Source} {p : Place} (h : s.firstSurrogate = some p) :
    ∃ c ∈ s, c.isSurrogate = true := by
  obtain ⟨start, hfound, -⟩ := Option.map_eq_some_iff.mp h
  obtain ⟨hstart, hsurrogate, -⟩ := List.findIdx?_eq_some_iff_getElem.mp hfound
  exact ⟨_, List.getElem_mem hstart, hsurrogate⟩

theorem FirstSurrogateAt.firstSurrogate_eq {s : Source} {p : Place} (h : FirstSurrogateAt s p) :
    s.firstSurrogate = some p := by
  obtain ⟨hlines, hbefore⟩ := h
  rw [firstSurrogate_eq_walk, firstSurrogateFrom_of_lines hlines hbefore, ite_self]
  simp only [Nat.add_comm 1]

theorem firstSurrogate_eq_some_iff {s : Source} {p : Place} :
    s.firstSurrogate = some p ↔ FirstSurrogateAt s p := by
  constructor
  · intro h
    obtain ⟨q, hq⟩ := exists_firstSurrogateAt (exists_isSurrogate h)
    rwa [Option.some.inj (h.symm.trans hq.firstSurrogate_eq)]
  · exact FirstSurrogateAt.firstSurrogate_eq

end Script.Source

/-! ## Refusals -/

namespace Script

theorem moduleOfText_ne_unpairedSurrogate (text : List Char) (line column : Nat) :
    moduleOfText text ≠ .error (.unpairedSurrogate line column) := by
  unfold moduleOfText
  cases parse? text with
  | none => simp
  | some root =>
    cases hrefusal : root.refusal? with
    | none => simp [hrefusal]
    | some refusal =>
      obtain ⟨offence, -, rfl⟩ := Option.map_eq_some_iff.mp hrefusal
      simp [hrefusal]

/-- The gate refuses a source for a surrogate before it looks at anything else. -/
theorem moduleTree_eq_unpairedSurrogate_iff {source : Source} {line column : Nat} :
    moduleTree source = .error (.unpairedSurrogate line column) ↔
      source.firstSurrogate = some ⟨line, column⟩ := by
  unfold moduleTree
  cases source.firstSurrogate with
  | none => simp [moduleOfText_ne_unpairedSurrogate]
  | some p =>
    obtain ⟨line', column'⟩ := p
    simp

end Script

/-- An analysis passes the refusals of the gate on, and adds none. -/
theorem analyzeSource_eq_refused_iff {source : Script.Source} {refusal : Script.Refusal} :
    analyzeSource source = .error (.refused refusal) ↔
      Script.moduleTree source = .error refusal := by
  unfold analyzeSource
  cases Script.moduleTree source with
  | error refusal' => simp
  | ok root =>
    have hnot : analyzeModule (source.filterMap Script.CodePoint.char?)
        ≠ .error (.refused refusal) := by
      unfold analyzeModule
      cases hindices : Analysis.childIndices (source.filterMap Script.CodePoint.char?) with
      | ok indices => simp [Except.map]
      | error e =>
        obtain ⟨digits, rfl, -⟩ := Analysis.firstTooLong_of_childIndices hindices
        simp [Except.map]
    simp [hnot]

/-- **Surrogates come first.** A source with a surrogate is refused by the gate and by the analysis
with the place of its first surrogate, whatever else it holds. No other place is ever told, and a
source without surrogates is not refused for one. -/
theorem refused_at_first_surrogate (source : Script.Source) :
    ((∃ place, source.FirstSurrogateAt place) ↔ ∃ c ∈ source, c.isSurrogate = true)
      ∧ ∀ line column,
        (Script.moduleTree source = .error (.unpairedSurrogate line column) ↔
          source.FirstSurrogateAt ⟨line, column⟩)
        ∧ (analyzeSource source = .error (.refused (.unpairedSurrogate line column)) ↔
          source.FirstSurrogateAt ⟨line, column⟩) := by
  have hgate (line column : Nat) :
      Script.moduleTree source = .error (.unpairedSurrogate line column) ↔
        source.FirstSurrogateAt ⟨line, column⟩ :=
    Script.moduleTree_eq_unpairedSurrogate_iff.trans Script.Source.firstSurrogate_eq_some_iff
  refine ⟨⟨?_, Script.Source.exists_firstSurrogateAt⟩, fun line column => ⟨hgate line column, ?_⟩⟩
  · rintro ⟨place, hplace⟩
    exact Script.Source.exists_isSurrogate hplace.firstSurrogate_eq
  · exact analyzeSource_eq_refused_iff.trans (hgate line column)

/-- A stray bracket in front of it and an open one behind it do not matter. -/
example : analyzeSource [.scalar ')', .scalar '\n', .scalar 'a', .surrogate 0xdc00, .scalar '(']
    = .error (.refused (.unpairedSurrogate 2 2)) := by
  decide

end BlockAuthoring
