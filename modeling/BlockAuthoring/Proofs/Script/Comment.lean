import BlockAuthoring.Script.Gate

/-!
# Scripts without statements

A script of which the gap in front of the first token leaves nothing has an empty tree. A line
comment is such a gap, so a script that is a single comment passes the gate, whatever the comment
says.
-/

namespace BlockAuthoring.Script

/-! ## Steps of a reader -/

namespace Reader

variable {α β : Type} {cursor behind : Cursor}

theorem bind_of_eq_some {x : Reader α} {a : α} (h : x cursor = some (a, behind))
    (f : α → Reader β) : (x >>= f) cursor = f a behind := by
  show (x cursor).bind (fun found => f found.1 found.2) = _
  rw [h]
  rfl

theorem manyUntil_of_stop {stop : Reader Unit} (h : stop cursor = some ((), behind))
    (item : Reader α) (bound : Nat) :
    manyUntil stop item (bound + 1) cursor = some ([], behind) := by
  rw [manyUntil]
  dsimp only
  rw [h]

theorem atEnd_of_gap {newline : Bool} {p : Position}
    (h : cursor.gap true = some ⟨newline, ⟨[], p⟩⟩) : atEnd cursor = some (true, cursor) := by
  have hgap : gap true cursor = some (⟨newline, ⟨[], p⟩⟩, cursor) := by
    rw [gap, h]
    rfl
  have hupcoming : upcoming true cursor = some ([], cursor) := bind_of_eq_some hgap _
  exact bind_of_eq_some hupcoming _

end Reader

open Reader

/-! ## The empty tree -/

/-- The tree of a script without statements. -/
def Node.emptyProgram : Node :=
  { kind := .program, role := .plain, start := .origin, stop := .origin, text := [], children := [] }

/-- Where only a gap comes, no statement is looked for. -/
theorem parse?_of_gap {text : List Char} {newline : Bool} {p : Position}
    (hhash : hashBang (.ofText text) = some ([], .ofText text))
    (hgap : (Cursor.ofText text).gap true = some ⟨newline, ⟨[], p⟩⟩) :
    parse? text = some .emptyProgram := by
  have hstop : (do require (← atEnd) : Reader Unit) (.ofText text) = some ((), .ofText text) :=
    bind_of_eq_some (atEnd_of_gap hgap) _
  obtain ⟨fuel, hfuel⟩ : ∃ fuel, enoughFuel text.length = fuel + 1 := ⟨8 * text.length + 15, rfl⟩
  have hprogram : program (enoughFuel text.length) (.ofText text)
      = some (.emptyProgram, .ofText text) := by
    rw [program, bind_of_eq_some hhash, hfuel, bind_of_eq_some (manyUntil_of_stop hstop _ _)]
    rfl
  rw [parse?, hprogram]
  rfl

/-! ## Comments -/

/-- A line comment goes on to the end of the text, if nothing ends it. -/
theorem Cursor.skipGap_lineComment (newline : Bool) {text : List Char}
    (h : ∀ c ∈ text, Lexis.endsComment c = false) (p : Position) :
    ∃ p', skipGap true .lineComment newline text p = some ⟨newline, ⟨[], p'⟩⟩ := by
  induction text generalizing p with
  | nil => exact ⟨p, rfl⟩
  | cons c rest ih =>
    obtain ⟨hc, hrest⟩ := List.forall_mem_cons.mp h
    have hstep : skipGap true .lineComment newline (c :: rest) p =
        if Lexis.endsComment c then
          skipGap true .between (newline || Lexis.isLineEnd c) rest (p.after c)
        else skipGap true .lineComment newline rest (p.after c) := rfl
    rw [hstep, if_neg (by simp [hc])]
    exact ih hrest _

/-- A script that is nothing but one comment passes the gate. -/
theorem moduleOfText_comment {text : List Char} (h : ∀ c ∈ text, Lexis.endsComment c = false) :
    moduleOfText ('/' :: '/' :: text) = .ok .emptyProgram := by
  obtain ⟨p, hgap⟩ : ∃ p, (Cursor.ofText ('/' :: '/' :: text)).gap true = some ⟨false, ⟨[], p⟩⟩ :=
    Cursor.skipGap_lineComment false h _
  rw [moduleOfText, parse?_of_gap rfl hgap]
  rfl

end BlockAuthoring.Script
