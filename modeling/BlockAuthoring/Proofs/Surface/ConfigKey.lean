import Mathlib.Data.String.Basic
import BlockAuthoring.Proofs.Surface.Overlap
import BlockAuthoring.Surface.ConfigKey

/-!
# The keys a text reads

Eleven patterns look for keys, each in a scan of its own that goes on behind a match. Here the
places where a key stands are said as splits of the text, and `configKeys_of_text` ties the list of
keys to them: nothing is in it that stands nowhere, and no access is lost, because a match that runs
into a later access either needs a key that starts with a closing bracket, or stands directly in
front of the accessed object.
-/

namespace BlockAuthoring.Surface

open Text

/-! ## Where keys stand -/

/-- The names of the objects that hold a configuration. -/
def IsConfig (object : String) : Prop := object = "config" ∨ object = "blockConfig"

/-- The object is indexed by the key in quotes. -/
structure Indexed (text : List Char) (object : String) (quote : Char) (key : List Char) :
    Prop where
  nonempty : key ≠ []
  unquoted : quote ∉ key
  occurs : object.toList ++ '[' :: quote :: (key ++ [quote, ']']) <:+: text

/-- A letter, followed by letters, digits, underscores and hyphens as far as they go. -/
structure LongestKey (key after : List Char) : Prop where
  start : ∃ c more, key = c :: more ∧ isKeyStart c = true
  chars : ∀ c ∈ key, isKeyChar c = true
  stop : ∀ c ∈ after.head?, isKeyChar c = false

/-- Behind `front`, the key is read from the object by a dot. -/
def MemberAt (text front : List Char) (object : String) (key : List Char) : Prop :=
  ∃ after, LongestKey key after ∧ text = front ++ (object.toList ++ '.' :: (key ++ after))

/-- The object starts a name: nothing that belongs to a name or to a chain of names stands in front
of it. -/
def StartsName (front : List Char) : Prop :=
  ∀ c ∈ front.getLast?, isKeyChar c = false ∧ c ≠ '.'

/-- The key is read from a configuration. -/
inductive Accessed (text key : List Char) : Prop where
  | indexed (object : String) (hobject : IsConfig object) (quote : Char)
      (hquote : isQuote quote = true) (h : Indexed text object quote key)
  | member (object : String) (hobject : IsConfig object) (front : List Char)
      (h : MemberAt text front object key)

/-- What stands in front of a key that a name is compared with, and the quotes around the key. -/
def comparisons : List (String × Char) :=
  [("name === ", '\x27'), ("name === ", '"'), ("name.trim() === ", '\x27'),
   ("name !== ", '\x27'), ("name !== ", '"')]

/-- A name is compared with the key. -/
def Compared (text key : List Char) : Prop :=
  ∃ c ∈ comparisons, key ≠ [] ∧ c.2 ∉ key ∧ c.1.toList ++ c.2 :: (key ++ [c.2]) <:+: text

/-- Names are derived from the first column. -/
def DerivesNames (text : List Char) : Prop := "toClassName(cols[0].textContent)".toList <:+: text

/-- The key is not empty and not the remains of a call. -/
structure Plain (key : List Char) : Prop where
  nonempty : key ≠ []
  noOpening : '(' ∉ key
  noClosing : ')' ∉ key
  noReader : ¬ "readBlockConfig".toList <:+: key

/-- The list holds the keys of the text, and nothing else. -/
structure KeysOf (text : List Char) (keys : List String) : Prop where
  /-- The keys stand in the order of their characters, each once. -/
  ascending : keys.Pairwise (· < ·)
  plain : ∀ key ∈ keys, Plain key.toList
  indexed : ∀ object quote key, IsConfig object → isQuote quote = true →
    Indexed text object quote key → key.head? ≠ some ']' → Plain key → String.ofList key ∈ keys
  member : ∀ object front key, IsConfig object → MemberAt text front object key →
    StartsName front → Plain key → String.ofList key ∈ keys
  found : ∀ key ∈ keys, Accessed text key.toList ∨ (DerivesNames text ∧ Compared text key.toList)

/-! ## Keys in quotes -/

section Quotes

variable {before after : String} {quote : Char} {text : List Char}

theorem quoted_eq_some_iff (m : Match) :
    quoted before quote after text = some m ↔
      m.captured ≠ [] ∧ quote ∉ m.captured
        ∧ before.toList ++ quote :: (m.captured ++ quote :: after.toList) <+: text
        ∧ m.length = before.length + m.captured.length + after.length + 2 := by
  have hclosing : (quote.toString ++ after).toList = quote :: after.toList := by
    simp [Char.toString]
  have hchars : (∀ c ∈ m.captured, (c != quote) = true) ↔ quote ∉ m.captured := by
    simp only [bne_iff_ne]
    exact ⟨fun h hin => h quote hin rfl, fun h c hc heq => h (heq ▸ hc)⟩
  have hlength : (before.push quote).length + m.captured.length + (quote.toString ++ after).length
      = before.length + m.captured.length + after.length + 2 := by
    simp only [← String.length_toList, hclosing, String.toList_push, List.length_append,
      List.length_cons, List.length_nil]
    omega
  rw [quoted, run_eq_some_iff hclosing (by simp), hchars, hlength, hclosing, String.toList_push]
  simp only [List.append_assoc, List.cons_append, List.nil_append]

/-- What is captured in quotes stands in quotes. -/
theorem infix_of_mem_captures_quoted {key : List Char}
    (h : key ∈ (quoted before quote after).captures text) :
    key ≠ [] ∧ quote ∉ key
      ∧ before.toList ++ quote :: (key ++ quote :: after.toList) <:+: text := by
  obtain ⟨t, ht, hcaptured⟩ := Pattern.exists_of_mem_captures h
  obtain ⟨m, hm, rfl⟩ := Option.map_eq_some_iff.mp hcaptured
  obtain ⟨hne, hquote, hpre, -⟩ := (quoted_eq_some_iff m).mp hm
  exact ⟨hne, hquote, List.infix_iff_prefix_suffix.mpr ⟨t, hpre, ht⟩⟩

/-- An earlier match has ended in front of a key in quotes: it could run into it only up to the
quote that opens the key, and behind this quote its own closing would have to stand. -/
theorem reaches_quoted {b a : Char} {opening tail key rest front : List Char}
    (hbefore : before.toList = b :: opening) (hb : b ∉ opening ++ [quote])
    (hafter : after.toList = a :: tail) (hb' : b ∉ quote :: after.toList)
    (hquote : quote ∉ before.toList) (hkey : key ≠ []) (hhead : key.head? ≠ some a) :
    (quoted before quote after).Reaches front (before.toList ++ quote :: (key ++ rest)) := by
  intro t hne _ m hm
  obtain ⟨-, hrun, hpre, hlength⟩ := (quoted_eq_some_iff m).mp hm
  rw [hbefore] at hpre hquote
  by_contra hlong
  have hmatch : b :: ((opening ++ [quote]) ++ m.captured ++ quote :: after.toList)
      <+: t ++ b :: (opening ++ quote :: (key ++ rest)) := by simpa using hpre
  have hover : t.length
      < (b :: ((opening ++ [quote]) ++ m.captured ++ quote :: after.toList)).length := by
    simp only [← String.length_toList, hbefore, List.length_cons, List.length_append,
      List.length_nil] at hlength ⊢
    omega
  obtain ⟨first, last, hcaptured, -, more, hlast⟩ :=
    exists_split_of_overlap hb hb' hne hmatch hover
  -- The first quote behind the second start closes the match and opens the key.
  have hquote' : quote ∉ opening := fun hin => hquote (List.mem_cons_of_mem _ hin)
  have hlast' : quote ∉ last := by
    intro hin
    exact hrun (by simp [hcaptured, hin])
  rw [hafter, List.append_assoc, List.cons_append] at hlast
  obtain ⟨-, hbehind⟩ := append_cons_inj_of_not_mem hlast' hquote' hlast
  obtain ⟨c, key, rfl⟩ := List.exists_cons_of_ne_nil hkey
  rw [List.cons_append, List.cons_append, List.cons.injEq] at hbehind
  exact hhead (by rw [List.head?_cons, hbehind.1])

end Quotes

/-! ## Keys behind a dot -/

section Dots

variable {object : String} {text : List Char}

theorem isKeyChar_of_isKeyStart {c : Char} (h : isKeyStart c = true) : isKeyChar c = true := by
  have halpha : c.isAlpha = true := h
  simp [isKeyChar, Char.isAlphanum, halpha]

theorem longestKey_takeWhile {c : Char} (hc : isKeyStart c = true) (rest : List Char) :
    LongestKey (c :: rest.takeWhile isKeyChar) (rest.dropWhile isKeyChar) where
  start := ⟨c, _, rfl, hc⟩
  chars := by
    rw [List.forall_mem_cons]
    exact ⟨isKeyChar_of_isKeyStart hc, List.all_eq_true.mp List.all_takeWhile⟩
  stop d hd := by
    have hnot := List.head?_dropWhile_not isKeyChar rest
    rw [Option.mem_def.mp hd] at hnot
    simpa using hnot

theorem LongestKey.takeWhile {c : Char} {more after : List Char}
    (h : LongestKey (c :: more) after) : (more ++ after).takeWhile isKeyChar = more := by
  have hmore : ∀ d ∈ more, isKeyChar d = true := fun d hd => h.chars d (List.mem_cons_of_mem _ hd)
  rw [List.takeWhile_append_of_pos hmore]
  cases after with
  | nil => simp
  | cons d after =>
    have hd : isKeyChar d = false := h.stop d rfl
    simp [hd]

theorem dotted_eq_some_iff (m : Match) :
    dotted object text = some m ↔
      (∃ after, LongestKey m.captured after
          ∧ text = object.toList ++ '.' :: (m.captured ++ after))
        ∧ m.length = object.length + 1 + m.captured.length := by
  have hstep : dotted object text = some m ↔ ∃ c rest,
      behind (object.push '.') text = some (c :: rest) ∧ isKeyStart c = true
        ∧ ⟨object.length + 1 + (c :: rest.takeWhile isKeyChar).length,
          c :: rest.takeWhile isKeyChar⟩ = m := by
    unfold dotted
    cases behind (object.push '.') text with
    | none => simp
    | some rest =>
      cases rest with
      | nil => simp
      | cons c rest =>
        cases hc : isKeyStart c <;> simp [hc]
  simp only [hstep, behind_eq_some_iff, String.toList_push, List.append_assoc,
    List.singleton_append]
  constructor
  · rintro ⟨c, rest, rfl, hc, rfl⟩
    exact ⟨⟨_, longestKey_takeWhile hc rest, by simp⟩, rfl⟩
  · rintro ⟨⟨after, hkey, rfl⟩, hlength⟩
    obtain ⟨length, captured⟩ := m
    obtain ⟨c, more, rfl, hc⟩ := hkey.start
    exact ⟨c, more ++ after, rfl, hc, by rw [hkey.takeWhile, ← hlength]⟩

theorem exists_memberAt_of_mem_captures_dotted {key : List Char}
    (h : key ∈ (dotted object).captures text) : ∃ front, MemberAt text front object key := by
  obtain ⟨t, ⟨front, rfl⟩, hcaptured⟩ := Pattern.exists_of_mem_captures h
  obtain ⟨m, hm, rfl⟩ := Option.map_eq_some_iff.mp hcaptured
  obtain ⟨⟨after, hkey, rfl⟩, -⟩ := (dotted_eq_some_iff m).mp hm
  exact ⟨front, after, hkey, rfl⟩

/-- An earlier match has ended in front of an object that starts a name: otherwise its dot or its
key would stand directly in front of the object. -/
theorem reaches_dotted {b : Char} {opening rest front : List Char}
    (hobject : object.toList = b :: opening) (hb : b ∉ opening ++ ['.'])
    (hstarts : StartsName front) :
    (dotted object).Reaches front (object.toList ++ rest) := by
  rintro t hne ⟨before, rfl⟩ m hm
  obtain ⟨⟨after, hkey, htext⟩, hlength⟩ := (dotted_eq_some_iff m).mp hm
  by_contra hlong
  rw [hobject] at htext
  have hmatch : b :: ((opening ++ ['.']) ++ m.captured ++ []) <+: t ++ b :: (opening ++ rest) := by
    exact ⟨after, by simpa using htext.symm⟩
  have hover : t.length < (b :: ((opening ++ ['.']) ++ m.captured ++ [])).length := by
    simp only [← String.length_toList, hobject, List.length_cons, List.length_append,
      List.length_nil] at hlength ⊢
    omega
  obtain ⟨first, last, hcaptured, rfl, -⟩ :=
    exists_split_of_overlap hb (by simp) hne hmatch hover
  -- What stands in front of the object is the rest of the earlier match.
  cases hlast : first.getLast? with
  | none =>
    have hdot : '.' ∈ (before ++ b :: (opening ++ ['.'] ++ first)).getLast? := by
      rw [List.getLast?_eq_none_iff.mp hlast]
      simp [List.getLast?_append, List.getLast?_cons]
    exact (hstarts '.' hdot).2 rfl
  | some c =>
    have hc : c ∈ (before ++ b :: (opening ++ ['.'] ++ first)).getLast? := by
      simp [List.getLast?_append, List.getLast?_cons, hlast]
    have hin : c ∈ m.captured := by
      rw [hcaptured]
      exact List.mem_append_left _ (List.mem_of_getLast? hlast)
    exact absurd (hkey.chars c hin) (by simp [(hstarts c hc).1])

end Dots

/-! ## The keys that are found -/

variable {text : List Char}

theorem mem_accesses_iff (key : List Char) :
    key ∈ accessPatterns.flatMap (·.captures text) ↔
      ∃ object, IsConfig object
        ∧ ((∃ quote, isQuote quote = true
            ∧ key ∈ (quoted (object.push '[') quote "]").captures text)
          ∨ key ∈ (dotted object).captures text) := by
  have hobject (p : String → Prop) : (∃ object, IsConfig object ∧ p object) ↔
      p "config" ∨ p "blockConfig" := by
    simp [IsConfig, or_and_right, exists_or]
  have hquote (p : Char → Prop) : (∃ quote, isQuote quote = true ∧ p quote) ↔
      p '\x27' ∨ p '"' := by
    simp [isQuote, or_and_right, exists_or, or_comm]
  rw [hobject]
  simp only [hquote, accessPatterns, List.flatMap_cons, List.flatMap_nil, List.cons_append,
    List.nil_append, List.append_nil, List.mem_append, or_assoc]

theorem mem_comparisons_iff (key : List Char) :
    key ∈ comparisonPatterns.flatMap (·.captures text) ↔
      ∃ c ∈ comparisons, key ∈ (quoted c.1 c.2 "").captures text := by
  simp [comparisonPatterns, comparisons]

theorem accessed_of_mem {key : List Char} (h : key ∈ accessPatterns.flatMap (·.captures text)) :
    Accessed text key := by
  obtain ⟨object, hobject, ⟨quote, hquote, hkey⟩ | hkey⟩ := (mem_accesses_iff key).mp h
  · obtain ⟨hne, hunquoted, hin⟩ := infix_of_mem_captures_quoted hkey
    exact .indexed object hobject quote hquote ⟨hne, hunquoted, by simpa using hin⟩
  · obtain ⟨front, hfront⟩ := exists_memberAt_of_mem_captures_dotted hkey
    exact .member object hobject front hfront

theorem compared_of_mem {key : List Char}
    (h : key ∈ comparisonPatterns.flatMap (·.captures text)) : Compared text key := by
  obtain ⟨c, hc, hkey⟩ := (mem_comparisons_iff key).mp h
  exact ⟨c, hc, infix_of_mem_captures_quoted hkey⟩

theorem mem_of_indexed {object : String} {quote : Char} {key : List Char}
    (hobject : IsConfig object) (hquote : isQuote quote = true)
    (h : Indexed text object quote key) (hhead : key.head? ≠ some ']') :
    key ∈ accessPatterns.flatMap (·.captures text) := by
  obtain ⟨front, rest, htext⟩ := h.occurs
  have hsplit : text =
      front ++ ((object.push '[').toList ++ quote :: (key ++ quote :: ']' :: rest)) := by
    rw [← htext]
    simp
  have hquotes : quote = '"' ∨ quote = '\x27' := by simpa [isQuote] using hquote
  have hreaches : (quoted (object.push '[') quote "]").Reaches front
      ((object.push '[').toList ++ quote :: (key ++ quote :: ']' :: rest)) := by
    have hbracket : "]".toList = ']' :: [] := rfl
    have hconfig : ("config".push '[').toList = 'c' :: "onfig[".toList := rfl
    have hblockConfig : ("blockConfig".push '[').toList = 'b' :: "lockConfig[".toList := rfl
    rcases hobject with rfl | rfl
    · refine reaches_quoted hconfig ?_ hbracket ?_ ?_ h.nonempty hhead
        <;> rcases hquotes with rfl | rfl <;> decide
    · refine reaches_quoted hblockConfig ?_ hbracket ?_ ?_ h.nonempty hhead
        <;> rcases hquotes with rfl | rfl <;> decide
  have hmatch : quoted (object.push '[') quote "]"
      ((object.push '[').toList ++ quote :: (key ++ quote :: ']' :: rest))
        = some ⟨(object.push '[').length + key.length + "]".length + 2, key⟩ :=
    (quoted_eq_some_iff _).mpr ⟨h.nonempty, h.unquoted, ⟨rest, by simp⟩, rfl⟩
  refine (mem_accesses_iff key).mpr ⟨object, hobject, .inl ⟨quote, hquote, ?_⟩⟩
  rw [hsplit]
  exact Pattern.mem_captures_of_reaches (by simp) hmatch hreaches

theorem mem_of_memberAt {object : String} {front key : List Char} (hobject : IsConfig object)
    (h : MemberAt text front object key) (hstarts : StartsName front) :
    key ∈ accessPatterns.flatMap (·.captures text) := by
  obtain ⟨after, hkey, rfl⟩ := h
  have hreaches : (dotted object).Reaches front (object.toList ++ '.' :: (key ++ after)) := by
    have hconfig : "config".toList = 'c' :: "onfig".toList := rfl
    have hblockConfig : "blockConfig".toList = 'b' :: "lockConfig".toList := rfl
    rcases hobject with rfl | rfl
    · exact reaches_dotted hconfig (by decide) hstarts
    · exact reaches_dotted hblockConfig (by decide) hstarts
  have hmatch : dotted object (object.toList ++ '.' :: (key ++ after))
      = some ⟨object.length + 1 + key.length, key⟩ :=
    (dotted_eq_some_iff _).mpr ⟨⟨after, hkey, rfl⟩, rfl⟩
  refine (mem_accesses_iff key).mpr ⟨object, hobject, .inr ?_⟩
  exact Pattern.mem_captures_of_reaches (by simp) hmatch hreaches

/-! ## The list of keys -/

theorem mem_insertKey_iff (key k : String) (keys : List String) :
    k ∈ insertKey key keys ↔ k = key ∨ k ∈ keys := by
  induction keys with
  | nil => simp [insertKey]
  | cons first rest ih =>
    unfold insertKey
    split
    · exact List.mem_cons
    · split
      · rename_i heq
        simp [heq]
      · rw [List.mem_cons, ih, List.mem_cons, or_left_comm]

theorem pairwise_insertKey (key : String) {keys : List String} (h : keys.Pairwise (· < ·)) :
    (insertKey key keys).Pairwise (· < ·) := by
  induction keys with
  | nil => simp [insertKey]
  | cons first rest ih =>
    obtain ⟨hfirst, hrest⟩ := List.pairwise_cons.mp h
    unfold insertKey
    split
    · rename_i hlt
      refine List.pairwise_cons.mpr ⟨List.forall_mem_cons.mpr ⟨hlt, fun k hk => ?_⟩, h⟩
      exact lt_trans hlt (hfirst k hk)
    · split
      · exact h
      · rename_i hnot hne
        refine List.pairwise_cons.mpr ⟨fun k hk => ?_, ih hrest⟩
        rcases (mem_insertKey_iff key k rest).mp hk with rfl | hk
        · exact lt_of_le_of_ne (not_lt.mp hnot) (Ne.symm hne)
        · exact hfirst k hk

theorem isPlainKey_iff (key : List Char) : isPlainKey key = true ↔ Plain key := by
  have hreader : (word "readBlockConfig").occurs key = false ↔
      ¬ "readBlockConfig".toList <:+: key := by
    rw [← Bool.not_eq_true, word_occurs_iff]
  simp only [isPlainKey, Bool.and_eq_true, Bool.not_eq_true', List.isEmpty_eq_false_iff,
    List.contains_eq_mem, decide_eq_false_iff_not, hreader]
  exact ⟨fun ⟨⟨⟨h₁, h₂⟩, h₃⟩, h₄⟩ => ⟨h₁, h₂, h₃, h₄⟩,
    fun h => ⟨⟨⟨h.nonempty, h.noOpening⟩, h.noClosing⟩, h.noReader⟩⟩

theorem mem_configKeys_iff (k : String) :
    k ∈ configKeys text ↔ k.toList ∈ foundKeys text ∧ Plain k.toList := by
  have hfold : ∀ found : List (List Char),
      k ∈ found.foldr (fun key keys => insertKey (String.ofList key) keys) [] ↔
        k.toList ∈ found := by
    intro found
    induction found with
    | nil => simp
    | cons key rest ih =>
      rw [List.foldr_cons, mem_insertKey_iff, ih, List.mem_cons, ← String.toList_inj,
        String.toList_ofList]
  rw [configKeys, hfold, List.mem_filter, isPlainKey_iff]

theorem mem_foundKeys_iff (key : List Char) :
    key ∈ foundKeys text ↔ key ∈ accessPatterns.flatMap (·.captures text)
      ∨ (DerivesNames text ∧ key ∈ comparisonPatterns.flatMap (·.captures text)) := by
  have hderives : classNameDerivation.occurs text = true ↔ DerivesNames text :=
    word_occurs_iff _ _
  rw [foundKeys, List.mem_append, ← hderives]
  cases classNameDerivation.occurs text <;> simp

/-- **The keys of a text.** Whatever the text is, its keys are listed in the order of their
characters, each once; none is empty or the remains of a call; each is read from a configuration or,
where names are derived from the first column, compared with a name; and every plain key is listed
that is read from a configuration by an index or, where the object starts a name, by a dot. -/
theorem configKeys_of_text (text : List Char) : KeysOf text (configKeys text) where
  ascending := by
    unfold configKeys
    induction (foundKeys text).filter isPlainKey with
    | nil => exact .nil
    | cons key rest ih => exact pairwise_insertKey _ ih
  plain key hkey := ((mem_configKeys_iff key).mp hkey).2
  indexed object quote key hobject hquote h hhead hplain := by
    rw [mem_configKeys_iff, String.toList_ofList, mem_foundKeys_iff]
    exact ⟨.inl (mem_of_indexed hobject hquote h hhead), hplain⟩
  member object front key hobject h hstarts hplain := by
    rw [mem_configKeys_iff, String.toList_ofList, mem_foundKeys_iff]
    exact ⟨.inl (mem_of_memberAt hobject h hstarts), hplain⟩
  found key hkey := by
    rcases (mem_foundKeys_iff _).mp ((mem_configKeys_iff key).mp hkey).1 with h | ⟨hderives, h⟩
    · exact .inl (accessed_of_mem h)
    · exact .inr ⟨hderives, compared_of_mem h⟩

/-- Of two accesses that share a bracket or a dot only the first one is found. -/
example : configKeys "config['a config[']b']; config.config.c".toList = ["a config[", "config"] := by
  decide +kernel

end BlockAuthoring.Surface
