import NativeBindings.Binding.Spelling
import NativeBindings.Proofs.QualifiedName

/-!
# Words of the generated code

Over ASCII, an identifier without dollar signs is a word: a letter or an underscore, then letters,
digits and underscores. Snake case writes capitals as small letters and dollar signs as underscores,
so it turns every ASCII identifier into a word.
-/

namespace NativeBindings

/-- Whether a text is all ASCII. -/
def Text.isAscii (text : String) : Bool :=
  text.toList.all fun c => c.toNat < 128

/-- An ASCII letter or an underscore. -/
def isWordStart (c : Char) : Bool :=
  c = '_' || c.isAlpha

/-- An ASCII letter, a digit or an underscore. -/
def isWordPart (c : Char) : Bool :=
  c = '_' || c.isAlphanum

/-- Whether characters form a word. -/
def isWordChars : List Char → Bool
  | [] => false
  | first :: rest => isWordStart first && rest.all isWordPart

/-- Every character of an ASCII text is ASCII. -/
theorem Text.isAscii_iff {text : String} : isAscii text ↔ ∀ c ∈ text.toList, c.toNat < 128 := by
  rw [isAscii, List.all_eq_true]
  simp only [decide_eq_true_eq]

/-- A word is one opening character and a run of further ones. -/
theorem isWordChars_iff {cs : List Char} :
    isWordChars cs ↔ ∃ first rest,
      cs = first :: rest ∧ isWordStart first ∧ ∀ c ∈ rest, isWordPart c := by
  cases cs with
  | nil => simp [isWordChars]
  | cons first rest => simp [isWordChars]

/-- A character that opens a word may also stand later in it. -/
theorem isWordPart_of_start {c : Char} (h : isWordStart c) : isWordPart c := by
  simp only [isWordStart, isWordPart, Char.isAlphanum, Bool.or_eq_true] at h ⊢
  rcases h with h | h
  · exact Or.inl h
  · exact Or.inr (Or.inl h)

/-- The underscore may stand in a word. -/
theorem isWordPart_underscore : isWordPart '_' := by
  decide

/-- Every character of a word is a word character. -/
theorem isWordPart_of_mem {cs : List Char} (hcs : isWordChars cs) {c : Char} (hc : c ∈ cs) :
    isWordPart c := by
  obtain ⟨first, rest, rfl, hfirst, hrest⟩ := isWordChars_iff.mp hcs
  rcases List.mem_cons.mp hc with rfl | hc
  · exact isWordPart_of_start hfirst
  · exact hrest c hc

/-- Word characters behind an opening one form a word. -/
theorem isWordChars_cons {first : Char} {rest : List Char} (hfirst : isWordStart first)
    (hrest : ∀ c ∈ rest, isWordPart c) : isWordChars (first :: rest) :=
  isWordChars_iff.mpr ⟨first, rest, rfl, hfirst, hrest⟩

/-- Word characters may follow a word. -/
theorem isWordChars_append {word rest : List Char} (hword : isWordChars word)
    (hrest : ∀ c ∈ rest, isWordPart c) : isWordChars (word ++ rest) := by
  obtain ⟨first, tail, rfl, hfirst, htail⟩ := isWordChars_iff.mp hword
  refine isWordChars_cons hfirst fun c hc => ?_
  rcases List.mem_append.mp hc with hc | hc
  · exact htail c hc
  · exact hrest c hc

/-- Over ASCII, what opens an identifier opens a word, unless it is a dollar sign. -/
theorem isWordStart_of_identifierStart {c : Char} (hc : isIdentifierStart c)
    (hascii : c.toNat < 128) (hdollar : c ≠ '$') : isWordStart c := by
  simp only [isIdentifierStart, Unicode.isAlphabetic, hascii, hdollar, if_true, decide_false,
    Bool.or_false] at hc
  exact hc

/-- Over ASCII, an identifier character is a word character, unless it is a dollar sign. -/
theorem isWordPart_of_identifierPart {c : Char} (hc : isIdentifierPart c) (hascii : c.toNat < 128)
    (hdollar : c ≠ '$') : isWordPart c := by
  simp only [isIdentifierPart, Unicode.isAlphanumeric, Unicode.isAlphabetic, Unicode.isNumeric,
    hascii, hdollar, if_true, decide_false, Bool.or_false] at hc
  exact hc

/-- An ASCII identifier without dollar signs is a word. -/
theorem isWordChars_of_identifier {name : String} (hname : isIdentifier name)
    (hascii : Text.isAscii name) (hdollar : '$' ∉ name.toList) : isWordChars name.toList := by
  have hcode := Text.isAscii_iff.mp hascii
  obtain ⟨first, rest, hchars, hfirst, hrest⟩ := isIdentifierChars_iff.mp hname
  rw [hchars] at hcode hdollar ⊢
  have hne : ∀ c ∈ first :: rest, c ≠ '$' := fun c hc heq => hdollar (heq ▸ hc)
  refine isWordChars_cons ?_ fun c hc => ?_
  · exact isWordStart_of_identifierStart hfirst (hcode first List.mem_cons_self)
      (hne first List.mem_cons_self)
  · have hmem := List.mem_cons_of_mem first hc
    exact isWordPart_of_identifierPart (hrest c hc) (hcode c hmem) (hne c hmem)

/-- Word characters are ASCII. -/
theorem toNat_lt_of_isWordPart {c : Char} (hc : isWordPart c) : c.toNat < 128 := by
  simp only [isWordPart, Bool.or_eq_true, decide_eq_true_eq] at hc
  rcases hc with rfl | hc
  · decide
  · exact toNat_lt_of_isAlphanum hc

/-- The small form of a character that opens a word opens one. -/
theorem isWordStart_toLower {c : Char} (hc : isWordStart c) : isWordStart c.toLower := by
  have hcodes : ∀ code < 128, isWordStart (Char.ofNat code) →
      isWordStart (Char.ofNat code).toLower := by decide
  have hsmall := hcodes c.toNat (toNat_lt_of_isWordPart (isWordPart_of_start hc))
  rw [Char.ofNat_toNat] at hsmall
  exact hsmall hc

/-- The small form of a word character is a word character. -/
theorem isWordPart_toLower {c : Char} (hc : isWordPart c) : isWordPart c.toLower := by
  have hcodes : ∀ code < 128, isWordPart (Char.ofNat code) →
      isWordPart (Char.ofNat code).toLower := by decide
  have hsmall := hcodes c.toNat (toNat_lt_of_isWordPart hc)
  rw [Char.ofNat_toNat] at hsmall
  exact hsmall hc

/-- Over ASCII, the small form of a character is a single one. -/
theorem lowercase_of_ascii {c : Char} (hascii : c.toNat < 128) :
    Unicode.lowercase c = [c.toLower] :=
  if_pos hascii

/-- Over ASCII, a character that is no capital is its own small form. -/
theorem lowercase_of_not_isUpper {c : Char} (hascii : c.toNat < 128) (hc : c.isUpper = false) :
    Unicode.lowercase c = [c] := by
  have hsmall : c.toLower = c := dif_neg (of_decide_eq_false hc)
  rw [lowercase_of_ascii hascii, hsmall]

namespace Binding

open Text (isAscii substitute)

/-- The characters of a snake name. -/
theorem toList_snakeName (name : String) :
    (snakeName name).toList = substitute '$' '_' (snakeChars name.toList) := by
  rw [snakeName, snakeCase, String.toList_ofList, String.toList_ofList]

/-- With an underscore for every dollar sign, the small form of a character that opens an ASCII
identifier opens a word. -/
theorem isWordStart_snake {c : Char} (hc : isIdentifierStart c) (hascii : c.toNat < 128) :
    isWordStart (if c.toLower = '$' then '_' else c.toLower) := by
  split
  · decide
  · next hne =>
    have hdollar : c ≠ '$' := by
      intro heq
      rw [heq] at hne
      exact hne (by decide)
    exact isWordStart_toLower (isWordStart_of_identifierStart hc hascii hdollar)

/-- A further character of an ASCII identifier gives word characters and dollar signs. -/
theorem isWordPart_of_mem_snake {c d : Char} (hc : isIdentifierPart c) (hascii : c.toNat < 128)
    (hd : d ∈ if Unicode.isUppercase c then '_' :: Unicode.lowercase c else [c])
    (hdollar : d ≠ '$') : isWordPart d := by
  rw [lowercase_of_ascii hascii] at hd
  split at hd
  · rcases List.mem_cons.mp hd with heq | hd
    · rw [heq]
      exact isWordPart_underscore
    · have hlower := List.mem_singleton.mp hd
      subst hlower
      have hne : c ≠ '$' := by
        intro heq
        rw [heq] at hdollar
        exact hdollar (by decide)
      exact isWordPart_toLower (isWordPart_of_identifierPart hc hascii hne)
  · have hsame := List.mem_singleton.mp hd
    subst hsame
    exact isWordPart_of_identifierPart hc hascii hdollar

/-- The snake name of an ASCII identifier is a word. -/
theorem isWordChars_snakeName {name : String} (hname : isIdentifier name)
    (hascii : isAscii name) : isWordChars (snakeName name).toList := by
  have hcode := Text.isAscii_iff.mp hascii
  obtain ⟨first, rest, hchars, hfirst, hrest⟩ := isIdentifierChars_iff.mp hname
  rw [hchars] at hcode
  have hfirstCode := hcode first List.mem_cons_self
  rw [toList_snakeName, hchars, snakeChars, lowercase_of_ascii hfirstCode, List.singleton_append]
  refine isWordChars_cons (isWordStart_snake hfirst hfirstCode) ?_
  intro d hd
  rcases Text.mem_substitute.mp hd with ⟨hmem, hdollar⟩ | ⟨-, rfl⟩
  · obtain ⟨c, hc, hdc⟩ := List.mem_flatMap.mp hmem
    have hcCode := hcode c (List.mem_cons_of_mem first hc)
    exact isWordPart_of_mem_snake (hrest c hc) hcCode hdc hdollar
  · exact isWordPart_underscore

end Binding

end NativeBindings
