import BlockAuthoring.Command.Blocks
import BlockAuthoring.Proofs.Analysis.Writing
import BlockAuthoring.Proofs.Json.Printed
import BlockAuthoring.Proofs.Tool.Session
import Mathlib.Data.List.TakeWhile

/-!
# What can be printed

A listing can be printed if the names in it are texts that the console has codes for, and an
analysis or a schema if its numbers are not too long: their texts are ASCII. Names come from a folder
or from a service, and numbers from the index literals of the script that a command reads.
-/

namespace BlockAuthoring

/-! ## The console -/

namespace Console

variable {console : Console} {s t : List Char}

/-- The console has codes for all characters of the text. -/
def Encodes (console : Console) (text : List Char) : Prop := ∀ c ∈ text, console.encodes c = true

theorem encodes_append (hs : console.Encodes s) (ht : console.Encodes t) :
    console.Encodes (s ++ t) := List.forall_mem_append.mpr ⟨hs, ht⟩

/-- What is printable in ASCII has codes on every console. -/
theorem encodes_of_printed (h : Json.Printed s) : console.Encodes s := by
  intro c hc
  refine console.encodes_ascii c ?_
  rcases h c hc with ⟨-, hlt⟩ | rfl
  · exact Nat.lt_succ_of_lt hlt
  · decide

theorem fault?_eq_none {text : String} (h : console.Encodes text.toList) :
    console.fault? text = none := by
  have hall : text.toList.takeWhile console.encodes = text.toList := List.takeWhile_eq_self_iff.mpr h
  rw [fault?, hall, List.drop_length]
  rfl

end Console

theorem linesText_cons (text : String) (texts : List String) :
    linesText (text :: texts) = text ++ "\n" ++ linesText texts := by
  simp [linesText, String.join_cons]

/-- Texts that the console has codes for are all printed. -/
theorem Outcome.printing_map_ok {console : Console} {texts : List String}
    (h : ∀ text ∈ texts, console.Encodes text.toList) (before : String) :
    printing console before (texts.map .ok)
      = { exit := 0, output := before ++ linesText texts } := by
  induction texts generalizing before with
  | nil => rw [List.map_nil, printing, linesText, List.map_nil, String.join_nil, String.append_empty]
  | cons text texts ih =>
    rw [List.forall_mem_cons] at h
    rw [List.map_cons, printing, Console.fault?_eq_none h.1]
    dsimp only
    rw [ih h.2, linesText_cons, String.append_assoc, String.append_assoc, String.append_assoc]

namespace Command

variable {console : Console}

/-! ## Listings -/

theorem encodes_padRight {name : String} (h : console.Encodes name.toList) (width : Nat) :
    console.Encodes (padRight width name).toList := by
  rw [padRight, String.toList_append, String.toList_ofList]
  exact Console.encodes_append h (Console.encodes_of_printed (.replicate (by decide) _))

/-- The line of a block whose name is a text. -/
theorem exists_listLine {b : BlockInfo} {name : String} (hname : b.name = .string name)
    (h : console.Encodes name.toList) :
    ∃ line, listLine b = .ok line ∧ console.Encodes line.toList := by
  have hprinted (text : String)
      (htext : text.toList.all (fun c => decide (Json.IsPrintable c)) = true) :
      console.Encodes text.toList := Console.encodes_of_printed (.of_all htext)
  rw [listLine, hname]
  refine ⟨_, rfl, ?_⟩
  simp only [String.toList_append]
  refine Console.encodes_append (Console.encodes_append (Console.encodes_append
    (hprinted _ (by decide)) (encodes_padRight h 24)) (hprinted _ (by decide))) ?_
  cases b.hasCode <;> cases b.hasStyle <;> exact hprinted _ (by decide)

/-- If the console has codes for where the blocks come from and for their names, it prints them. -/
theorem exists_listingLines {l : BlockListing} (hsource : console.Encodes l.source.toList)
    (hnames : ∀ b ∈ l.blocks, ∃ name, b.name = .string name ∧ console.Encodes name.toList) :
    ∃ texts : List String, listingLines l = texts.map .ok
      ∧ ∀ text ∈ texts, console.Encodes text.toList := by
  have hblocks : ∀ blocks : List BlockInfo,
      (∀ b ∈ blocks, ∃ name, b.name = .string name ∧ console.Encodes name.toList) →
      ∃ texts : List String, blocks.map listLine = texts.map .ok
        ∧ ∀ text ∈ texts, console.Encodes text.toList := by
    intro blocks h
    induction blocks with
    | nil => exact ⟨[], rfl, nofun⟩
    | cons b blocks ih =>
      obtain ⟨⟨name, hname, hencoded⟩, hrest⟩ := List.forall_mem_cons.mp h
      obtain ⟨line, hline, hlineEncoded⟩ := exists_listLine hname hencoded
      obtain ⟨texts, htexts, htextsEncoded⟩ := ih hrest
      refine ⟨line :: texts, ?_, List.forall_mem_cons.mpr ⟨hlineEncoded, htextsEncoded⟩⟩
      rw [List.map_cons, List.map_cons, hline, htexts]
  obtain ⟨texts, htexts, hencoded⟩ := hblocks l.blocks hnames
  refine ⟨_ :: texts, by rw [listingLines, htexts, List.map_cons],
    List.forall_mem_cons.mpr ⟨?_, hencoded⟩⟩
  have hcount : Json.Printed (toString l.blocks.length).toList := by
    rw [Nat.toString_eq_repr, Nat.toList_repr]
    exact Json.printed_toDigits _
  simp only [String.toList_append]
  exact Console.encodes_append (Console.encodes_append (Console.encodes_append hsource
    (Console.encodes_of_printed (.of_all (by decide)))) (Console.encodes_of_printed hcount))
    (Console.encodes_of_printed (.of_all (by decide)))

/-! ## Values -/

/-- The text of a value is ASCII, whatever stands in it. -/
theorem encodes_pretty (v : Json) : console.Encodes v.pretty.toList := by
  rw [Json.pretty, String.toList_ofList]
  exact Console.encodes_of_printed (Json.printed_print 0 v)

end Command

end BlockAuthoring
