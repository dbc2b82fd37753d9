import BlockAuthoring.Script.Binding

/-!
# Redeclarations

One pass over the declarations of a scope, with the names seen so far in two sets, is compared
with a rule about pairs: two declarations clash if they declare one name and one of the two is
lexical, and a declaration is refused iff it clashes with an earlier one.
-/

namespace BlockAuthoring.Script

/-- The two declare one name, and one of them is lexical. -/
def Clash (e d : Declared) : Prop :=
  e.name.text = d.name.text ∧ (e.lexical = true ∨ d.lexical = true)

instance : DecidableRel Clash := fun e d => by
  unfold Clash
  infer_instance

/-- `L` and `O` are the names of the lexical and of the other declarations in `seen`. -/
structure NamesSeen (seen : List Declared) (L O : List (List Char)) : Prop where
  lexical : ∀ t, t ∈ L ↔ ∃ e ∈ seen, e.lexical = true ∧ e.name.text = t
  other : ∀ t, t ∈ O ↔ ∃ e ∈ seen, e.lexical = false ∧ e.name.text = t

namespace NamesSeen

variable {seen : List Declared} {L O : List (List Char)}

theorem nil : NamesSeen [] [] [] := ⟨by simp, by simp⟩

theorem exists_mem_snoc {P : Declared → Prop} {d : Declared} :
    (∃ e ∈ seen ++ [d], P e) ↔ (∃ e ∈ seen, P e) ∨ P d := by
  simp only [List.mem_append, List.mem_singleton, or_and_right, exists_or, exists_eq_left]

theorem addLexical (h : NamesSeen seen L O) {d : Declared} (hd : d.lexical = true) :
    NamesSeen (seen ++ [d]) (d.name.text :: L) O where
  lexical t := by
    rw [exists_mem_snoc, List.mem_cons, h.lexical, or_comm, @eq_comm _ t]
    simp only [hd, true_and]
  other t := by
    rw [exists_mem_snoc, h.other]
    simp only [hd, reduceCtorEq, false_and, or_false]

theorem addOther (h : NamesSeen seen L O) {d : Declared} (hd : d.lexical = false) :
    NamesSeen (seen ++ [d]) L (d.name.text :: O) where
  lexical t := by
    rw [exists_mem_snoc, h.lexical]
    simp only [hd, reduceCtorEq, false_and, or_false]
  other t := by
    rw [exists_mem_snoc, List.mem_cons, h.other, or_comm, @eq_comm _ t]
    simp only [hd, true_and]

/-- The test of the pass asks for a clash with a declaration seen before. -/
theorem refused_iff (h : NamesSeen seen L O) (d : Declared) :
    (L.contains d.name.text || (d.lexical && O.contains d.name.text)) = true ↔
      ∃ e ∈ seen, Clash e d := by
  simp only [Bool.or_eq_true, Bool.and_eq_true, List.contains_iff_mem, h.lexical, h.other, Clash]
  constructor
  · rintro (⟨e, he, hl, ht⟩ | ⟨hd, e, he, -, ht⟩)
    · exact ⟨e, he, ht, .inl hl⟩
    · exact ⟨e, he, ht, .inr hd⟩
  · rintro ⟨e, he, ht, hl | hd⟩
    · exact .inl ⟨e, he, hl, ht⟩
    · cases hl : e.lexical with
      | true => exact .inl ⟨e, he, hl, ht⟩
      | false => exact .inr ⟨hd, e, he, hl, ht⟩

end NamesSeen

/-- The pass over `rest`, when `seen` are the declarations before it: it reports those of `rest`
that clash with one of `seen` or with an earlier one of `rest`. -/
theorem redeclaredAfter_eq {seen : List Declared} {L O : List (List Char)}
    (h : NamesSeen seen L O) (rest : List Declared) :
    redeclaredAfter L O rest =
      (rest.zipIdx seen.length).filterMap fun (d, j) =>
        if ∃ e ∈ (seen ++ rest).take j, Clash e d then some d.name else none := by
  induction rest generalizing seen L O with
  | nil => rfl
  | cons d rest ih =>
    have hsplit : seen ++ d :: rest = (seen ++ [d]) ++ rest := by simp
    have hlater : (if d.lexical then redeclaredAfter (d.name.text :: L) O rest
        else redeclaredAfter L (d.name.text :: O) rest) =
          (rest.zipIdx (seen.length + 1)).filterMap fun (d', j) =>
            if ∃ e ∈ (seen ++ d :: rest).take j, Clash e d' then some d'.name else none := by
      rw [hsplit]
      cases hd : d.lexical with
      | true => simpa using ih (h.addLexical hd)
      | false => simpa using ih (h.addOther hd)
    have htake : (seen ++ d :: rest).take seen.length = seen := by simp
    rw [redeclaredAfter, List.zipIdx_cons, List.filterMap_cons]
    simp only [hlater, htake, h.refused_iff d]
    split <;> rfl

/-- The refused declarations of a scope in their order: those that clash with an earlier one. -/
theorem redeclared_eq (scope : Node) :
    scope.redeclared = scope.scopeDeclarations.zipIdx.filterMap fun (d, j) =>
      if ∃ e ∈ scope.scopeDeclarations.take j, Clash e d then some d.name else none :=
  redeclaredAfter_eq .nil scope.scopeDeclarations

/-- `n` is the name of a declaration that clashes with an earlier one of the list. -/
def Redeclares (declarations : List Declared) (n : Node) : Prop :=
  ∃ (i j : Nat) (e d : Declared), i < j ∧ declarations[i]? = some e
    ∧ declarations[j]? = some d ∧ Clash e d ∧ n = d.name

theorem mem_redeclared_iff (scope n : Node) :
    n ∈ scope.redeclared ↔ Redeclares scope.scopeDeclarations n := by
  simp only [redeclared_eq, List.mem_filterMap, Prod.exists, List.mem_zipIdx_iff_getElem?]
  constructor
  · rintro ⟨d, j, hd, hn⟩
    split at hn
    · rename_i hclash
      obtain ⟨e, he, hc⟩ := hclash
      obtain ⟨i, hi⟩ := List.mem_iff_getElem?.mp he
      rw [List.getElem?_take] at hi
      split at hi
      · rename_i hij
        exact ⟨i, j, e, d, hij, hi, hd, hc, (Option.some.inj hn).symm⟩
      · simp at hi
    · simp at hn
  · rintro ⟨i, j, e, d, hij, he, hd, hc, rfl⟩
    have hmem : e ∈ scope.scopeDeclarations.take j := by
      rw [List.mem_iff_getElem?]
      exact ⟨i, by rw [List.getElem?_take, if_pos hij, he]⟩
    exact ⟨d, j, hd, if_pos ⟨e, hmem, hc⟩⟩

end BlockAuthoring.Script
