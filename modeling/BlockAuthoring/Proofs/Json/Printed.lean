import BlockAuthoring.Proofs.Json.Escape

/-!
# Printed values

Whatever a value is, its text is made of printable ASCII and line breaks: other characters stand as
escapes, and numbers are written with digits, signs, points and a few letters.
-/

namespace BlockAuthoring.Json

open Number

/-- The text is made of printable characters and line breaks. -/
def Printed (text : List Char) : Prop := ∀ c ∈ text, IsPrintable c ∨ c = '\n'

/-! ## Parts -/

namespace Printed

variable {s t text : List Char} {c : Char}

theorem of_all (h : text.all (fun c => decide (IsPrintable c)) = true) : Printed text :=
  fun c hc => .inl (of_decide_eq_true (List.all_eq_true.mp h c hc))

theorem cons (hc : IsPrintable c) (h : Printed text) : Printed (c :: text) :=
  List.forall_mem_cons.mpr ⟨.inl hc, h⟩

theorem append (hs : Printed s) (ht : Printed t) : Printed (s ++ t) :=
  List.forall_mem_append.mpr ⟨hs, ht⟩

theorem sublist (h : Printed text) (hs : s.Sublist text) : Printed s :=
  fun c hc => h c (hs.subset hc)

theorem replicate (hc : IsPrintable c) (count : Nat) : Printed (List.replicate count c) := by
  intro d hd
  rw [List.eq_of_mem_replicate hd]
  exact .inl hc

theorem lineBreak (level : Nat) : Printed (lineBreak level) :=
  List.forall_mem_cons.mpr ⟨.inr rfl, Printed.replicate (by decide) _⟩

theorem quoted (s : String) : Printed (quoted s) := fun c hc => .inl (printable_quoted s c hc)

end Printed

/-! ## Numbers -/

theorem isDigit_of_mem {n : Nat} {c : Char} (h : c ∈ Nat.toDigits 10 n) : c.isDigit = true :=
  Nat.isDigit_of_mem_toDigits (by decide) (by decide) h

/-- A sign, if need be, and the digits. -/
theorem toList_toString (n : Int) :
    (toString n).toList = (if n < 0 then ['-'] else []) ++ Nat.toDigits 10 n.natAbs := by
  cases n with
  | ofNat m =>
    rw [if_neg (by simp)]
    exact Nat.toList_repr
  | negSucc m =>
    rw [if_pos (Int.negSucc_lt_zero m)]
    show ("-" ++ Nat.repr (m + 1)).toList = _
    rw [String.toList_append, Nat.toList_repr]
    rfl

theorem printed_toDigits (n : Nat) : Printed (Nat.toDigits 10 n) := by
  intro c hc
  have hdigit := isDigit_of_mem hc
  simp only [Char.isDigit, Bool.and_eq_true, decide_eq_true_eq] at hdigit
  refine .inl ⟨?_, ?_⟩
  · exact Nat.le_trans (by decide) (UInt32.le_iff_toNat_le.mp hdigit.1)
  · exact Nat.lt_of_le_of_lt (UInt32.le_iff_toNat_le.mp hdigit.2) (by decide)

theorem printed_toString (n : Int) : Printed (toString n).toList := by
  rw [toList_toString]
  split
  · exact .append (.of_all (by decide)) (printed_toDigits _)
  · exact printed_toDigits _

theorem printed_positiveText (layout : Binary64.Layout) (significand : Nat) (exponent : Int) :
    Printed (Binary64.positiveText layout significand exponent) := by
  have hzeros (count : Nat) : Printed (List.replicate count '0') := .replicate (by decide) count
  unfold Binary64.positiveText
  dsimp only
  generalize (Binary64.stripZeros _ _ _).1 = d
  generalize (Binary64.stripZeros _ _ _).2 = power
  have hdigits := printed_toDigits d
  have hbehind (count : Nat) : Printed ('.' :: (Nat.toDigits 10 d).drop count) :=
    .cons (by decide) (hdigits.sublist (List.drop_sublist _ _))
  split
  · split
    · exact (hdigits.append (hzeros _)).append (.of_all (by decide))
    · split
      · exact .append (hdigits.sublist (List.take_sublist _ _)) (hbehind _)
      · exact .append (.append (.of_all (by decide)) (hzeros _)) hdigits
  · refine .append (.append (hdigits.sublist (List.take_sublist _ _)) ?_) ?_
    · split
      · exact nofun
      · exact hbehind 1
    · refine .cons (by decide) (.cons ?_ (.append (hzeros _) (printed_toDigits _)))
      split <;> decide

theorem printed_floatText (x : Binary64) : Printed (floatText x) := by
  cases x with
  | notANumber => exact .of_all (by decide)
  | infinite negative => cases negative <;> exact .of_all (by decide)
  | finite negative significand exponent =>
    show Printed (Binary64.text _).toList
    rw [Binary64.text, String.toList_ofList]
    have hbody : Printed (if significand = 0 then "0.0".toList
        else Binary64.positiveText Binary64.plainLayout significand exponent) := by
      split
      · exact .of_all (by decide)
      · exact printed_positiveText _ _ _
    cases negative with
    | true => exact .cons (by decide) hbody
    | false => exact hbody

/-! ## Values -/

mutual

/-- A value is written in ASCII. -/
theorem printed_print (level : Nat) : ∀ v : Json, Printed (print level v)
  | .null => .of_all (by rw [print]; decide)
  | .bool b => by cases b <;> exact .of_all (by rw [print]; decide)
  | .int n => printed_toString n
  | .float x => printed_floatText x
  | .string s => .quoted s
  | .array [] => .of_all (by rw [print]; decide)
  | .array (v :: rest) => by
    have hclose : Printed [']'] := .of_all (by decide)
    rw [print]
    exact (((((Printed.lineBreak _).cons (by decide)).append (printed_print _ v)).append
      (printed_printItems _ rest)).append (.lineBreak level)).append hclose
  | .object [] => .of_all (by rw [print]; decide)
  | .object ((k, v) :: rest) => by
    have hclose : Printed ['\x7d'] := .of_all (by decide)
    rw [print]
    exact ((((((Printed.lineBreak _).cons (by decide)).append (.quoted k)).append
      (((printed_print _ v).cons (by decide)).cons (by decide))).append
      (printed_printMembers _ rest)).append (.lineBreak level)).append hclose

theorem printed_printItems (level : Nat) : ∀ items, Printed (printItems level items)
  | [] => nofun
  | v :: rest => by
    rw [printItems]
    exact (((Printed.lineBreak level).cons (by decide)).append (printed_print level v)).append
      (printed_printItems level rest)

theorem printed_printMembers (level : Nat) : ∀ members, Printed (printMembers level members)
  | [] => nofun
  | (k, v) :: rest => by
    rw [printMembers]
    exact ((((Printed.lineBreak level).cons (by decide)).append (.quoted k)).append
      (((printed_print level v).cons (by decide)).cons (by decide))).append
      (printed_printMembers level rest)

end

end BlockAuthoring.Json
