import BlockAuthoring.Proofs.Disk.Path
import BlockAuthoring.Proofs.Text.Utf8
import BlockAuthoring.Source.Address
import Mathlib.Data.List.TakeWhile

/-!
# Addresses lead where they should

A path that is put behind the root of a service is found again in the address, with all escapes
resolved, as long as no character in it means something else in an address and no part of it is made
of dots.
-/

namespace BlockAuthoring.Address

open Text

/-! ## Escapes -/

theorem hexValue?_hexDigit {n : Nat} (h : n < 16) : hexValue? (hexDigit n) = some n := by
  have hall : ∀ n < 16, hexValue? (hexDigit n) = some n := by decide +kernel
  exact hall n h

theorem unescapedBytes_byteEscape (b : UInt8) (rest : List Char) :
    unescapedBytes (byteEscape b ++ rest) = b :: unescapedBytes rest := by
  have hb := b.toNat_lt
  have hbyte : UInt8.ofNat (16 * (b.toNat / 16) + b.toNat % 16) = b := by
    rw [Nat.div_add_mod, UInt8.ofNat_toNat]
  simp only [byteEscape, List.cons_append, List.nil_append]
  rw [unescapedBytes, hexValue?_hexDigit (by omega), hexValue?_hexDigit (by omega)]
  simp only [hbyte]

theorem unescapedBytes_escapes (bytes : List UInt8) (rest : List Char) :
    unescapedBytes (bytes.flatMap byteEscape ++ rest) = bytes ++ unescapedBytes rest := by
  induction bytes with
  | nil => rfl
  | cons b bytes ih =>
    rw [List.flatMap_cons, List.append_assoc, unescapedBytes_byteEscape, ih, List.cons_append]

theorem unescapedBytes_cons {c : Char} (hc : c ≠ '%') (rest : List Char) :
    unescapedBytes (c :: rest) = Utf8.encode [c] ++ unescapedBytes rest := by
  rw [unescapedBytes]
  intro a b more h
  exact absurd h hc

/-- Escapes are resolved to the bytes of the text, where no sign is taken for an escape. -/
theorem unescapedBytes_escapeExcept (isPlain : Char → Bool) {text : List Char} (h : '%' ∉ text) :
    unescapedBytes (escapeExcept isPlain text) = Utf8.encode text := by
  induction text with
  | nil => rfl
  | cons c text ih =>
    simp only [List.mem_cons, not_or] at h
    have htext := ih h.2
    rw [escapeExcept] at htext ⊢
    rw [List.flatMap_cons, Utf8.encode_cons]
    split
    · rw [List.singleton_append, unescapedBytes_cons (Ne.symm h.1), htext, Utf8.encode_cons]
      simp [Utf8.encode]
    · rw [escape, unescapedBytes_escapes, htext]
      simp [Utf8.encode]

/-! ## Dots -/

/-- No part of the path is made of dots only. -/
def Dotless (path : List Char) : Prop :=
  ∀ part ∈ Path.slashParts path, part ≠ ['.'] ∧ part ≠ ['.', '.']

theorem slashParts_append_slash (before path : List Char) :
    Path.slashParts (before ++ '/' :: path) = Path.slashParts before ++ Path.slashParts path := by
  induction before with
  | nil => rfl
  | cons c before ih =>
    by_cases hc : c = '/'
    · subst hc
      rw [List.cons_append, Path.slashParts, Path.slashParts, ih, List.cons_append]
    · obtain ⟨part, parts, hparts⟩ := List.exists_cons_of_ne_nil (Path.slashParts_ne_nil before)
      rw [hparts, List.cons_append] at ih
      rw [List.cons_append, Path.slashParts_cons hc ih, Path.slashParts_cons hc hparts,
        List.cons_append]

theorem foldl_pushPart {parts : List (List Char)}
    (h : ∀ part ∈ parts, part ≠ ['.'] ∧ part ≠ ['.', '.']) (before : List (List Char)) :
    parts.foldl pushPart before = before ++ parts := by
  induction parts generalizing before with
  | nil => simp
  | cons part parts ih =>
    rw [List.forall_mem_cons] at h
    rw [List.foldl_cons, ih h.2, pushPart, if_neg h.1.1, if_neg h.1.2, List.append_assoc,
      List.singleton_append]

/-- Joined with slashes, the parts of a text are the text. -/
theorem intercalate_slashParts (text : List Char) :
    ['/'].intercalate (Path.slashParts text) = text := by
  induction text with
  | nil => rfl
  | cons c text ih =>
    obtain ⟨part, parts, hparts⟩ := List.exists_cons_of_ne_nil (Path.slashParts_ne_nil text)
    by_cases hc : c = '/'
    · subst hc
      rw [Path.slashParts, hparts, List.intercalate_cons_cons, ← hparts, ih]
      rfl
    · rw [Path.slashParts_cons hc hparts]
      rw [hparts] at ih
      rw [← ih]
      cases parts with
      | nil => simp
      | cons next parts => simp [List.intercalate_cons_cons]

theorem intercalate_append {before parts : List (List Char)} (hbefore : before ≠ [])
    (hparts : parts ≠ []) :
    ['/'].intercalate (before ++ parts)
      = ['/'].intercalate before ++ '/' :: ['/'].intercalate parts := by
  induction before with
  | nil => exact absurd rfl hbefore
  | cons part before ih =>
    cases before with
    | nil =>
      obtain ⟨next, parts, rfl⟩ := List.exists_cons_of_ne_nil hparts
      simp [List.intercalate_cons_cons]
    | cons next before =>
      rw [List.cons_append, List.cons_append, List.intercalate_cons_cons, ← List.cons_append,
        ih (by simp), List.intercalate_cons_cons]
      simp

theorem mem_of_mem_slashParts {text part : List Char} (h : part ∈ Path.slashParts text) {c : Char}
    (hc : c ∈ part) : c ∈ text := by
  fun_induction Path.slashParts text generalizing part with
  | case1 => simp_all
  | case2 rest ih =>
    rcases List.mem_cons.mp h with rfl | h
    · cases hc
    · exact List.mem_cons_of_mem _ (ih h hc)
  | case3 d rest hd first parts hparts ih =>
    rcases List.mem_cons.mp h with rfl | h
    · rcases List.mem_cons.mp hc with rfl | hc
      · exact List.mem_cons_self
      · exact List.mem_cons_of_mem _ (ih (by simp [hparts]) hc)
    · exact List.mem_cons_of_mem _ (ih (by simp [hparts, h]) hc)
  | case4 d rest hd hparts ih => exact absurd hparts (Path.slashParts_ne_nil rest)

theorem mem_foldl_pushPart {parts before : List (List Char)} {part : List Char}
    (h : part ∈ parts.foldl pushPart before) : part ∈ before ∨ part ∈ parts := by
  induction parts generalizing before with
  | nil => exact .inl h
  | cons next parts ih =>
    rcases ih h with hpushed | hparts
    · unfold pushPart at hpushed
      split at hpushed
      · exact .inl hpushed
      · split at hpushed
        · split at hpushed
          · exact .inl hpushed
          · exact .inl (List.mem_of_mem_dropLast hpushed)
        · rcases List.mem_append.mp hpushed with hbefore | hnext
          · exact .inl hbefore
          · exact .inr (by simp [List.mem_singleton.mp hnext])
    · exact .inr (List.mem_cons_of_mem next hparts)

theorem mem_of_mem_intercalate {parts : List (List Char)} {c : Char}
    (h : c ∈ ['/'].intercalate parts) : c = '/' ∨ ∃ part ∈ parts, c ∈ part := by
  induction parts with
  | nil => cases h
  | cons part parts ih =>
    cases parts with
    | nil => exact .inr ⟨part, List.mem_cons_self, by simpa using h⟩
    | cons next parts =>
      rw [List.intercalate_cons_cons, List.mem_append, List.mem_append, List.mem_singleton] at h
      rcases h with (h | rfl) | h
      · exact .inr ⟨part, List.mem_cons_self, h⟩
      · exact .inl rfl
      · exact (ih h).imp_right fun ⟨q, hq, hc⟩ => ⟨q, List.mem_cons_of_mem _ hq, hc⟩

theorem mem_of_mem_withoutDots {path : List Char} {c : Char} (h : c ∈ withoutDots path) :
    c = '/' ∨ c ∈ path := by
  rcases mem_of_mem_intercalate h with rfl | ⟨part, hpart, hc⟩
  · exact .inl rfl
  · rcases mem_foldl_pushPart hpart with hnone | hpart
    · cases hnone
    · exact .inr (mem_of_mem_slashParts hpart hc)

/-- A path without dots is kept behind what stands before it. -/
theorem withoutDots_append (before : List Char) {path : List Char} (h : Dotless path) :
    withoutDots (before ++ '/' :: path) = withoutDots (before ++ ['/']) ++ path := by
  have hempty : Dotless [] := by simp [Dotless, Path.slashParts]
  have hparts := foldl_pushPart h ((Path.slashParts before).foldl pushPart [])
  have hroot := foldl_pushPart hempty ((Path.slashParts before).foldl pushPart [])
  rw [withoutDots, withoutDots, slashParts_append_slash, slashParts_append_slash, List.foldl_append,
    List.foldl_append, hparts, hroot]
  generalize (Path.slashParts before).foldl pushPart [] = pushed
  by_cases hpushed : pushed = []
  · subst hpushed
    rw [List.nil_append, List.nil_append, intercalate_slashParts, intercalate_slashParts,
      List.nil_append]
  · rw [intercalate_append hpushed (Path.slashParts_ne_nil path),
      intercalate_append hpushed (Path.slashParts_ne_nil []), intercalate_slashParts,
      intercalate_slashParts]
    simp

/-! ## Scheme and host -/

/-- What is taken off the front of a text ends before a character that stops it, whatever follows. -/
theorem takeWhile_append_stop {P : Char → Bool} {c : Char} (hc : P c = false)
    (front more : List Char) :
    (front ++ c :: more).takeWhile P = front.takeWhile P
      ∧ (front ++ c :: more).drop (front.takeWhile P).length
        = front.drop (front.takeWhile P).length ++ c :: more := by
  induction front with
  | nil => simp [hc]
  | cons d front ih =>
    cases hd : P d with
    | false => simp [hd]
    | true => simpa [hd] using ih

/-- A scheme stands before the first slash. -/
theorem scheme?_append_slash (front more : List Char) :
    scheme? (front ++ '/' :: more)
      = (scheme? front).map fun (scheme, rest) => (scheme, rest ++ '/' :: more) := by
  obtain ⟨htake, hdrop⟩ := takeWhile_append_stop
    (P := fun c => c.isAlphanum || c == '+' || c == '.' || c == '-') (c := '/') (by decide) front more
  rw [scheme?, scheme?]
  simp only [htake, hdrop]
  generalize front.takeWhile _ = name
  generalize front.drop _ = back
  cases name with
  | nil => rfl
  | cons first name =>
    cases back with
    | nil => rfl
    | cons c back =>
      by_cases hc : c = ':'
      · subst hc
        simp only [List.cons_append]
        split <;> rfl
      · simp [hc]

theorem suffix_of_scheme? {front scheme rest : List Char}
    (h : scheme? front = some (scheme, rest)) : rest <:+ front := by
  unfold scheme? at h
  dsimp only at h
  split at h
  · rename_i hdrop
    split at h <;> cases h
    exact (List.suffix_cons ':' rest).trans (hdrop ▸ List.drop_suffix _ _)
  · cases h

/-- The scheme of a text, which may be empty, and what follows it. -/
def splitScheme (text : List Char) : List Char × List Char :=
  ((scheme? text).map fun (s, r) => (s.map Char.toLower, r)).getD ([], text)

theorem splitScheme_append_slash (front more : List Char) :
    splitScheme (front ++ '/' :: more)
      = ((splitScheme front).1, (splitScheme front).2 ++ '/' :: more) := by
  rw [splitScheme, splitScheme, scheme?_append_slash]
  cases scheme? front <;> rfl

theorem suffix_splitScheme (text : List Char) : (splitScheme text).2 <:+ text := by
  rw [splitScheme]
  cases hscheme : scheme? text with
  | none => exact List.suffix_rfl
  | some found => exact suffix_of_scheme? hscheme

theorem splitOrigin_eq (text : List Char) :
    splitOrigin text =
      let scheme := (splitScheme text).1
      let before := if scheme = [] then [] else scheme ++ [':']
      match (splitScheme text).2 with
      | '/' :: '/' :: more =>
        let authority := more.takeWhile fun c => c != '/' && c != '?' && c != '#'
        (before ++ ['/', '/'] ++ hostOf scheme authority, more.drop authority.length)
      | _ => (before, (splitScheme text).2) := rfl

theorem suffix_splitOrigin (text : List Char) : (splitOrigin text).2 <:+ text := by
  have hrest := suffix_splitScheme text
  rw [splitOrigin_eq]
  dsimp only
  split
  · rename_i more hmore
    rw [hmore] at hrest
    exact (List.drop_suffix _ _).trans
      (((List.suffix_cons _ _).trans (List.suffix_cons _ _)).trans hrest)
  · exact hrest

theorem getLast?_ne_of_suffix {front rest : List Char} {c : Char} (hsuffix : rest <:+ front)
    (h : front.getLast? ≠ some c) : rest.getLast? ≠ some c := by
  obtain ⟨before, rfl⟩ := hsuffix
  cases rest with
  | nil => simp
  | cons d rest => simpa [List.getLast?_append] using h

/-- Two slashes in front of a text that goes on behind a slash stand in its first part already. -/
theorem exists_slashes_of_append {rest more : List Char} {c : Char} (hc : c ≠ '/')
    (hlast : rest.getLast? ≠ some '/') {behind : List Char}
    (h : rest ++ '/' :: c :: more = '/' :: '/' :: behind) :
    ∃ authority, rest = '/' :: '/' :: authority := by
  rcases rest with _ | ⟨a, _ | ⟨b, rest⟩⟩
  · simp only [List.nil_append, List.cons.injEq] at h
    exact absurd h.2.1 hc
  · simp only [List.cons_append, List.cons.injEq] at h
    exact absurd (by simp [h.1]) hlast
  · simp only [List.cons_append, List.cons.injEq] at h
    exact ⟨rest, by rw [h.1, h.2.1]⟩

/-- Behind a base that ends with no slash, neither the origin nor what stands before the path
depends on the path. -/
theorem exists_splitOrigin {front : List Char} (h : front.getLast? ≠ some '/') {c : Char}
    (hc : c ≠ '/') :
    ∃ origin behind, ∀ more,
      splitOrigin (front ++ '/' :: c :: more) = (origin, behind ++ '/' :: c :: more) := by
  have hlast := getLast?_ne_of_suffix (suffix_splitScheme front) h
  simp only [splitOrigin_eq, splitScheme_append_slash]
  generalize (splitScheme front).2 = rest at hlast
  generalize (splitScheme front).1 = scheme
  by_cases hhost : ∃ authority, rest = '/' :: '/' :: authority
  · obtain ⟨authority, rfl⟩ := hhost
    refine ⟨(if scheme = [] then [] else scheme ++ [':']) ++ ['/', '/']
        ++ hostOf scheme (authority.takeWhile fun c => c != '/' && c != '?' && c != '#'),
      authority.drop (authority.takeWhile fun c => c != '/' && c != '?' && c != '#').length,
      fun more => ?_⟩
    obtain ⟨htake, hdrop⟩ := takeWhile_append_stop
      (P := fun c => c != '/' && c != '?' && c != '#') (c := '/') (by decide) authority (c :: more)
    simp only [List.cons_append, htake, hdrop]
  · refine ⟨if scheme = [] then [] else scheme ++ [':'], rest, fun more => ?_⟩
    split
    · rename_i behind hbehind
      exact absurd (exists_slashes_of_append hc hlast hbehind) hhost
    · rfl

/-! ## Paths of addresses -/

/-- The path of the address that a text writes, before anything is escaped. -/
def pathOf (text : List Char) : List Char :=
  if (splitOrigin text).1 = [] then (splitOrigin text).2 else withoutDots (splitOrigin text).2

/-- A path without dots is kept behind a base and what stands between them. -/
theorem pathOf_append {front between path : List Char} (hfront : front.getLast? ≠ some '/')
    {c : Char} (hc : c ≠ '/') (hpath : Dotless path) :
    pathOf (front ++ '/' :: c :: (between ++ '/' :: path))
      = pathOf (front ++ '/' :: c :: (between ++ ['/'])) ++ path := by
  obtain ⟨origin, behind, hsplit⟩ := exists_splitOrigin hfront hc
  simp only [pathOf, hsplit]
  split
  · simp
  · have hdots := withoutDots_append (behind ++ '/' :: c :: between) hpath
    simpa using hdots

/-- A character that stands for itself in an address. -/
def IsPlain (c : Char) : Prop := 0x20 ≤ c.toNat ∧ c.toNat ≠ 0x7F ∧ c ∉ ['%', '?', '#']

instance : DecidablePred IsPlain := fun c => by
  unfold IsPlain
  infer_instance

/-- An address is refused for a control character in it. -/
theorem control?_eq_none_iff {text : List Char} :
    control? text = none ↔ ∀ c ∈ text, 0x20 ≤ c.toNat ∧ c.toNat ≠ 0x7F := by
  let isKept : Char → Bool := fun c => 0x20 ≤ c.toNat && c.toNat != 0x7F
  have hbehind : text.drop (text.takeWhile isKept).length = text.dropWhile isKept :=
    calc text.drop (text.takeWhile isKept).length
        = (text.takeWhile isKept ++ text.dropWhile isKept).drop (text.takeWhile isKept).length := by
          rw [List.takeWhile_append_dropWhile]
      _ = text.dropWhile isKept := List.drop_left
  show ((text.drop (text.takeWhile isKept).length).head?.map _) = none ↔ _
  rw [hbehind, Option.map_eq_none_iff, List.head?_eq_none_iff, List.dropWhile_eq_nil_iff]
  simp [isKept]

/-- The path of an address is found again, with all escapes resolved. -/
theorem plainPath_ofText {text : List Char} (h : ∀ c ∈ text, IsPlain c) (query : List Char) :
    (ofText text query).plainPath = some (String.ofList (pathOf text)) := by
  have hrest : ∀ c ∈ (splitOrigin text).2, IsPlain c :=
    fun c hc => h c ((suffix_splitOrigin text).mem hc)
  have hpath : (splitOrigin text).2.takeWhile (fun c => c != '?' && c != '#')
      = (splitOrigin text).2 := by
    rw [List.takeWhile_eq_self_iff]
    intro c hc
    have hnot := (hrest c hc).2.2
    simp only [List.mem_cons, List.not_mem_nil, or_false, not_or] at hnot
    simp [hnot]
  have hpercent : '%' ∉ pathOf text := by
    intro hmem
    have hplain : ¬ IsPlain '%' := by decide
    unfold pathOf at hmem
    split at hmem
    · exact hplain (hrest _ hmem)
    · rcases mem_of_mem_withoutDots hmem with heq | hmem
      · exact absurd heq (by decide)
      · exact hplain (hrest _ hmem)
  have hescaped : (ofText text query).path = escapeExcept isPathChar (pathOf text) := by
    simp only [ofText, hpath, pathOf]
  rw [plainPath, hescaped, unescapedBytes_escapeExcept _ hpercent, Utf8.decode_encode]
  rfl

end BlockAuthoring.Address
