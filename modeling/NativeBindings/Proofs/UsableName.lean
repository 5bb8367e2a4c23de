import NativeBindings.Proofs.Word

/-!
# Names that the generated code can use

The language of the generated code, in its edition 2021, takes a word as a name unless it is the
lone underscore or a keyword, and takes a keyword in raw form. The table of keywords that names are
spelled by leaves some of them out, and the underscore goes through as it is. The names that are
missed in this way are listed, and every name that is not one of them is spelled so that it can be
used.
-/

namespace NativeBindings.Binding

/-- The strict and the reserved keywords of edition 2021. -/
def editionKeywords : List String :=
  ["as", "async", "await", "break", "const", "continue", "crate", "dyn", "else", "enum", "extern",
    "false", "fn", "for", "if", "impl", "in", "let", "loop", "match", "mod", "move", "mut", "pub",
    "ref", "return", "self", "Self", "static", "struct", "super", "trait", "true", "type", "unsafe",
    "use", "where", "while", "abstract", "become", "box", "do", "final", "macro", "override",
    "priv", "try", "typeof", "unsized", "virtual", "yield"]

/-- The words that are spelled as they are though they are no names: the lone underscore, and the
keywords that the table leaves out. -/
def missedNames : List String :=
  ["_", "abstract", "become", "final", "override"]

/-- Whether the generated code can use a name: a word after an optional raw prefix, not the lone
underscore, and no keyword without the prefix. -/
def isUsable (name : String) : Bool :=
  match name.toList with
  | 'r' :: '#' :: bare => isWordChars bare && bare ≠ ['_']
  | cs => isWordChars cs && cs ≠ ['_'] && name ∉ editionKeywords

/-- A keyword of the edition is in the table, reserved or missed. -/
theorem mem_of_mem_editionKeywords {name : String} (h : name ∈ editionKeywords) :
    name ∈ keywords ∨ name ∈ reservedWords ∨ name ∈ missedNames := by
  have hall : ∀ word ∈ editionKeywords,
      word ∈ keywords ∨ word ∈ reservedWords ∨ word ∈ missedNames := by decide
  exact hall name h

/-- A missed name cannot be used. -/
theorem not_isUsable_of_missed {name : String} (h : name ∈ missedNames) : ¬ isUsable name := by
  have hall : ∀ word ∈ missedNames, ¬ isUsable word := by decide
  exact hall name h

/-- A text of another name has other characters. -/
theorem toList_ne_underscore {name : String} (hne : name ≠ "_") : name.toList ≠ ['_'] := by
  intro heq
  exact hne (String.toList_injective (heq.trans (by decide)))

/-- A word can be used unless it is the lone underscore or a keyword. -/
theorem isUsable_of_word {name : String} (hword : isWordChars name.toList) (hne : name ≠ "_")
    (hkeyword : name ∉ editionKeywords) : isUsable name := by
  have hchars := toList_ne_underscore hne
  unfold isUsable
  split
  · next bare hraw =>
    have hhash : isWordPart '#' := isWordPart_of_mem hword (by rw [hraw]; simp)
    exact absurd hhash (by decide)
  · next =>
    simp only [hword, hchars, hkeyword, ne_eq, not_false_eq_true, decide_true, Bool.and_true]

/-- A word can be used in raw form unless it is the lone underscore. -/
theorem isUsable_raw {name : String} (hword : isWordChars name.toList) (hne : name ≠ "_") :
    isUsable ("r#" ++ name) := by
  have hchars := toList_ne_underscore hne
  have hraw : ("r#" ++ name).toList = 'r' :: '#' :: name.toList := by
    rw [String.toList_append]
    rfl
  unfold isUsable
  rw [hraw]
  simp only [hword, hchars, ne_eq, not_false_eq_true, decide_true, Bool.and_true]

/-- No keyword in raw form is a missed name. -/
theorem raw_notMem_missedNames (name : String) : "r#" ++ name ∉ missedNames := by
  have hhash : ∀ word ∈ missedNames, '#' ∉ word.toList := by decide
  intro h
  apply hhash _ h
  rw [String.toList_append]
  exact List.mem_append_left _ (by decide)

section

variable {name raw : String}

/-- A word has a spelling unless it is reserved: keywords in raw form, other words as they are. -/
theorem rawName?_eq_some_iff :
    rawName? name = some raw ↔
      name ∉ reservedWords ∧ raw = if name ∈ keywords then "r#" ++ name else name := by
  unfold rawName?
  by_cases hreserved : name ∈ reservedWords
  · simp [hreserved]
  · by_cases hkeyword : name ∈ keywords
    · simp [hreserved, hkeyword, eq_comm]
    · simp [hreserved, hkeyword, eq_comm]

/-- The spelling of a word is a missed name exactly if the word is. -/
theorem rawName?_mem_missedNames_iff (h : rawName? name = some raw) :
    raw ∈ missedNames ↔ name ∈ missedNames := by
  have hdisjoint : ∀ word ∈ missedNames, word ∉ keywords := by decide
  have hraw := (rawName?_eq_some_iff.mp h).2
  split at hraw
  · next hkeyword =>
    have hname : name ∉ missedNames := fun hmissed => hdisjoint name hmissed hkeyword
    rw [hraw]
    exact iff_of_false (raw_notMem_missedNames name) hname
  · rw [hraw]

/-- The spelling of a word can be used unless the word is missed. -/
theorem isUsable_of_rawName? (hword : isWordChars name.toList) (hmissed : name ∉ missedNames)
    (h : rawName? name = some raw) : isUsable raw := by
  obtain ⟨hreserved, hraw⟩ := rawName?_eq_some_iff.mp h
  have hne : name ≠ "_" := by
    intro heq
    rw [heq] at hmissed
    exact hmissed (by decide)
  split at hraw
  · rw [hraw]
    exact isUsable_raw hword hne
  · next hkeyword =>
    rw [hraw]
    refine isUsable_of_word hword hne fun hedition => ?_
    rcases mem_of_mem_editionKeywords hedition with h | h | h
    · exact hkeyword h
    · exact hreserved h
    · exact hmissed h

/-- The spelling of a word can be used, but for missed names. -/
theorem isUsable_or_missed_of_rawName? (hword : isWordChars name.toList)
    (h : rawName? name = some raw) : isUsable raw ∨ raw ∈ missedNames := by
  by_cases hmissed : name ∈ missedNames
  · exact Or.inr ((rawName?_mem_missedNames_iff h).mpr hmissed)
  · exact Or.inl (isUsable_of_rawName? hword hmissed h)

end

section

variable {javaName : String}

/-- A reserved word gets an underscore, any other snake name its spelling. -/
theorem nameFor_cases (javaName : String) :
    rawName? (snakeName javaName) = some (nameFor javaName) ∨
      snakeName javaName ∈ reservedWords ∧ nameFor javaName = snakeName javaName ++ "_" := by
  unfold nameFor
  cases hraw : rawName? (snakeName javaName) with
  | some raw => exact Or.inl rfl
  | none =>
    refine Or.inr ⟨?_, rfl⟩
    by_contra hreserved
    have hsome := rawName?_eq_some_iff.mpr ⟨hreserved, rfl⟩
    simp [hraw] at hsome

example : nameFor "Self" = "self_" ∧ nameFor "Match" = "r#match" ∧
    nameFor "override" = "override" := by decide

/-- The name for a Java name is missed exactly if its snake name is. -/
theorem nameFor_mem_missedNames_iff :
    nameFor javaName ∈ missedNames ↔ snakeName javaName ∈ missedNames := by
  have hall : ∀ word ∈ reservedWords, word ∉ missedNames ∧ word ++ "_" ∉ missedNames := by decide
  rcases nameFor_cases javaName with h | ⟨hreserved, h⟩
  · exact rawName?_mem_missedNames_iff h
  · obtain ⟨hword, hunderscored⟩ := hall _ hreserved
    rw [h]
    exact iff_of_false hunderscored hword

/-- The name for a Java name can be used if its snake name is a word that is not missed. -/
theorem isUsable_nameFor (hword : isWordChars (snakeName javaName).toList)
    (hmissed : snakeName javaName ∉ missedNames) : isUsable (nameFor javaName) := by
  have hall : ∀ word ∈ reservedWords, isUsable (word ++ "_") := by decide
  rcases nameFor_cases javaName with h | ⟨hreserved, h⟩
  · exact isUsable_of_rawName? hword hmissed h
  · rw [h]
    exact hall _ hreserved

/-- The name for a Java name can be used, but for missed names. -/
theorem isUsable_or_missed_nameFor (hword : isWordChars (snakeName javaName).toList) :
    isUsable (nameFor javaName) ∨ nameFor javaName ∈ missedNames := by
  by_cases hmissed : snakeName javaName ∈ missedNames
  · exact Or.inr (nameFor_mem_missedNames_iff.mpr hmissed)
  · exact Or.inl (isUsable_nameFor hword hmissed)

end

/-- A word with an underscore and another character can be used: no keyword holds an underscore. -/
theorem isUsable_of_underscore {name : String} (hword : isWordChars name.toList)
    (hunderscore : '_' ∈ name.toList) (hlength : name.toList.length ≠ 1) : isUsable name := by
  have hall : ∀ word ∈ editionKeywords, '_' ∉ word.toList := by decide
  refine isUsable_of_word hword ?_ fun hkeyword => hall name hkeyword hunderscore
  intro heq
  rw [heq] at hlength
  exact hlength (by decide)

/-- A word with a capital J in front can be used: no keyword begins so. -/
theorem isUsable_of_capital {name : String} {rest : List Char} (hname : name.toList = 'J' :: rest)
    (hrest : ∀ c ∈ rest, isWordPart c) : isUsable name := by
  have hall : ∀ word ∈ "_" :: editionKeywords, word.toList.head? ≠ some 'J' := by decide
  have hhead : name.toList.head? = some 'J' := by
    rw [hname, List.head?_cons]
  have hword : isWordChars name.toList := by
    rw [hname]
    exact isWordChars_cons (by decide) hrest
  refine isUsable_of_word hword ?_ fun hkeyword => ?_
  · intro heq
    rw [heq] at hhead
    exact hall "_" List.mem_cons_self hhead
  · exact hall name (List.mem_cons_of_mem _ hkeyword) hhead

/-- No name is both usable and missed. -/
theorem notMem_missedNames_of_usable {name : String} (h : isUsable name) : name ∉ missedNames :=
  fun hmissed => not_isUsable_of_missed hmissed h

end NativeBindings.Binding
