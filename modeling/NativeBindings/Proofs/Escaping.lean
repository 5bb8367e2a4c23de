import NativeBindings.Symbol
import NativeBindings.Proofs.QualifiedName
import NativeBindings.Proofs.WellFormedType

/-!
# Escapes and their inverse

Escaping loses two things: a dot and a slash both become a lone underscore, and a lone underscore
in front of an escape digit reads as an escape. A text without either is restored exactly. The
descriptors of well-formed types and the qualified names written with slashes are such texts,
because no segment of a name begins with a digit. Escaping is therefore injective on qualified
names.
-/

namespace NativeBindings.Symbol

open Text (substitute)

/-- The digits that follow the underscore of an escape. -/
def escapeDigits : List Char :=
  ['1', '2', '3']

/-- A text that unescaping restores: it has no dot, and no slash stands before an escape digit. -/
structure IsRestorable (cs : List Char) : Prop where
  no_dot : '.' ∉ cs
  after_slash : cs.IsChain fun a b => a = '/' → b ∉ escapeDigits

/-- The escape of a descriptor begins with the escape of its first character. -/
theorem escapeDescriptorChars_cons (c : Char) (cs : List Char) :
    escapeDescriptorChars (c :: cs) =
      escapeChar (if c = '/' then '.' else c) ++ escapeDescriptorChars cs := by
  simp [escapeDescriptorChars, escapeChars, substitute]

/-- A character is escaped by an underscore and a digit, or is a dot and leaves an underscore
alone, or stands for itself. -/
theorem escapeChar_cases (c : Char) :
    (∃ digit ∈ escapeDigits, escapeChar c = ['_', digit]) ∨ (c = '.' ∧ escapeChar c = ['_']) ∨
      (c ∉ ['_', ';', '[', '.'] ∧ escapeChar c = [c]) := by
  unfold escapeChar
  split
  · exact Or.inl ⟨'1', by simp [escapeDigits], rfl⟩
  · next hunderscore =>
    split
    · exact Or.inl ⟨'2', by simp [escapeDigits], rfl⟩
    · next hsemicolon =>
      split
      · exact Or.inl ⟨'3', by simp [escapeDigits], rfl⟩
      · next hbracket =>
        split
        · next hdot => exact Or.inr (Or.inl ⟨hdot, rfl⟩)
        · next hdot =>
          exact Or.inr (Or.inr ⟨by simp [hunderscore, hsemicolon, hbracket, hdot], rfl⟩)

/-- What an escape holds are underscores, digits, and those characters that stand for themselves. -/
theorem mem_of_mem_escapeChars {cs : List Char} {d : Char} (h : d ∈ escapeChars cs) :
    d = '_' ∨ d ∈ escapeDigits ∨ d ∉ ['_', ';', '[', '.'] ∧ d ∈ cs := by
  obtain ⟨c, hc, hd⟩ := List.mem_flatMap.mp h
  rcases escapeChar_cases c with ⟨digit, hdigit, hescape⟩ | ⟨-, hescape⟩ | ⟨hplain, hescape⟩
  · rw [hescape] at hd
    rcases List.mem_cons.mp hd with hd | hd
    · exact Or.inl hd
    · obtain rfl := List.mem_singleton.mp hd
      exact Or.inr (Or.inl hdigit)
  · rw [hescape] at hd
    exact Or.inl (List.mem_singleton.mp hd)
  · rw [hescape] at hd
    obtain rfl := List.mem_singleton.mp hd
    exact Or.inr (Or.inr ⟨hplain, hc⟩)

/-- A character without an escape stays in an escaped text. -/
theorem mem_escapeChars {cs : List Char} {c : Char} (hc : c ∈ cs)
    (hplain : c ∉ ['_', ';', '[', '.']) : c ∈ escapeChars cs := by
  simp only [List.mem_cons, List.not_mem_nil, or_false, not_or] at hplain
  refine List.mem_flatMap.mpr ⟨c, hc, ?_⟩
  simp [escapeChar, hplain]

/-- The escape of a character begins with an underscore or with the character itself. -/
theorem head?_escapeChar (c : Char) : (escapeChar c).head? = some '_' ∨ escapeChar c = [c] := by
  rcases escapeChar_cases c with ⟨digit, -, h⟩ | ⟨-, h⟩ | ⟨-, h⟩
  · exact Or.inl (by rw [h]; rfl)
  · exact Or.inl (by rw [h]; rfl)
  · exact Or.inr h

/-- An escaped descriptor begins with an underscore, or like the descriptor. -/
theorem head?_escapeDescriptorChars {cs : List Char} {first : Char}
    (h : first ∈ (escapeDescriptorChars cs).head?) : first = '_' ∨ first ∈ cs.head? := by
  cases cs with
  | nil => simp [escapeDescriptorChars, escapeChars, substitute] at h
  | cons c cs =>
    rw [escapeDescriptorChars_cons] at h
    by_cases hslash : c = '/'
    · subst hslash
      left
      simpa [escapeChar, eq_comm] using h
    · rw [if_neg hslash] at h
      rcases head?_escapeChar c with hhead | hself
      · left
        simpa [List.head?_append, hhead, eq_comm] using h
      · right
        simpa [hself] using h

/-- Outside escapes every character but the underscore stands for itself. -/
theorem unescapeChars_cons {c : Char} (hc : c ≠ '_') (rest : List Char) :
    unescapeChars (c :: rest) = c :: unescapeChars rest := by
  rw [unescapeChars.eq_def]
  split <;> simp_all

/-- An underscore that no escape digit follows stands for a slash. -/
theorem unescapeChars_underscore {rest : List Char} (h : ∀ d ∈ rest.head?, d ∉ escapeDigits) :
    unescapeChars ('_' :: rest) = '/' :: unescapeChars rest := by
  have hdigit : ∀ d ∈ escapeDigits, ∀ tail, rest ≠ d :: tail := by
    intro d hd tail heq
    rw [heq] at h
    exact h d rfl hd
  rw [unescapeChars]
  · rfl
  · exact fun tail _ => hdigit '1' (by decide) tail
  · exact fun tail _ => hdigit '2' (by decide) tail
  · exact fun tail _ => hdigit '3' (by decide) tail

/-- A character that is neither a dot nor a slash comes back from its escape. -/
theorem unescapeChars_escapeDescriptorChars_cons {c : Char} (hdot : c ≠ '.') (hslash : c ≠ '/')
    (cs : List Char) :
    unescapeChars (escapeDescriptorChars (c :: cs)) =
      c :: unescapeChars (escapeDescriptorChars cs) := by
  rw [escapeDescriptorChars_cons, if_neg hslash]
  unfold escapeChar
  split
  · next hunderscore => simp [unescapeChars, hunderscore]
  · next hunderscore =>
    split
    · next hsemicolon => simp [unescapeChars, hsemicolon]
    · split
      · next hbracket => simp [unescapeChars, hbracket]
      · exact unescapeChars_cons hunderscore _

/-- A slash leaves a lone underscore and comes back if that does not turn into an escape. -/
theorem unescapeChars_escapeDescriptorChars_slash {cs : List Char}
    (h : ∀ d ∈ cs.head?, d ∉ escapeDigits) :
    unescapeChars (escapeDescriptorChars ('/' :: cs)) =
      '/' :: unescapeChars (escapeDescriptorChars cs) := by
  have hhead : ∀ d ∈ (escapeDescriptorChars cs).head?, d ∉ escapeDigits := by
    intro d hd
    rcases head?_escapeDescriptorChars hd with rfl | hd
    · decide
    · exact h d hd
  simpa [escapeDescriptorChars_cons, escapeChar] using unescapeChars_underscore hhead

/-- Unescaping restores a text whose slashes and dots are not lost in its escape. -/
theorem unescapeChars_escapeDescriptorChars {cs : List Char} (h : IsRestorable cs) :
    unescapeChars (escapeDescriptorChars cs) = cs := by
  obtain ⟨hdot, hslash⟩ := h
  induction cs with
  | nil => rfl
  | cons c cs ih =>
    simp only [List.mem_cons, not_or] at hdot
    rw [List.isChain_cons] at hslash
    have hrest := ih hdot.2 hslash.2
    by_cases hc : c = '/'
    · subst hc
      rw [unescapeChars_escapeDescriptorChars_slash fun d hd => hslash.1 d hd rfl, hrest]
    · rw [unescapeChars_escapeDescriptorChars_cons (Ne.symm hdot.1) hc, hrest]

namespace IsRestorable

/-- A character that is neither dot nor slash may stand in front of a restorable text. -/
theorem cons {c : Char} {cs : List Char} (h : IsRestorable cs) (hdot : c ≠ '.') (hslash : c ≠ '/') :
    IsRestorable (c :: cs) where
  no_dot := by simp [Ne.symm hdot, h.no_dot]
  after_slash := h.after_slash.cons fun _ _ heq => absurd heq hslash

/-- Restorable texts may stand side by side if the second begins with no escape digit. -/
theorem append {front back : List Char} (hfront : IsRestorable front) (hback : IsRestorable back)
    (hhead : ∀ d ∈ back.head?, d ∉ escapeDigits) : IsRestorable (front ++ back) where
  no_dot := by simp [hfront.no_dot, hback.no_dot]
  after_slash := hfront.after_slash.append hback.after_slash fun _ _ d hd _ => hhead d hd

end IsRestorable

/-- No escape digit opens an identifier. -/
theorem notMem_escapeDigits {c : Char} (hc : isIdentifierStart c) : c ∉ escapeDigits := by
  intro hmem
  simp only [escapeDigits, List.mem_cons, List.not_mem_nil, or_false] at hmem
  rcases hmem with rfl | rfl | rfl <;> exact absurd hc (by decide)

/-- A qualified name written with slashes is restorable: a segment follows each slash. -/
theorem isRestorable_slashed {name : List Char} (hname : isQualifiedChars name) :
    IsRestorable (substitute '.' '/' name) where
  no_dot := by simp [Text.mem_substitute]
  after_slash := by
    rw [substitute, List.isChain_map]
    refine (isChain_of_isQualifiedChars hname).imp_of_mem_imp ?_
    intro a b ha _ hstart hfa
    have hdot : a = '.' := by
      by_contra hne
      rw [if_neg hne] at hfa
      exact slash_notMem hname (hfa ▸ ha)
    have hb := hstart hdot
    have hne : b ≠ '.' := by
      intro heq
      rw [heq] at hb
      exact absurd hb (by decide)
    rw [if_neg hne]
    exact notMem_escapeDigits hb

/-- A descriptor of a well-formed type may stand in front of a restorable text. -/
theorem isRestorable_descriptorChars_append {type : JavaType} (htype : type.isWellFormed)
    {cs : List Char} (h : IsRestorable cs) : IsRestorable (type.descriptorChars ++ cs) := by
  induction type with
  | primitive kind => cases kind <;> exact h.cons (by decide) (by decide)
  | array element ih =>
    simp only [JavaType.isWellFormed, Bool.and_eq_true] at htype
    exact (ih htype.2).cons (by decide) (by decide)
  | object name =>
    simp only [JavaType.descriptorChars, List.cons_append, List.append_assoc, List.nil_append]
    refine IsRestorable.cons ?_ (by decide) (by decide)
    refine (isRestorable_slashed htype).append (h.cons (by decide) (by decide)) ?_
    simp [escapeDigits]

/-- The descriptors of well-formed types are restorable. -/
theorem isRestorable_descriptorsChars {types : List JavaType}
    (htypes : ∀ type ∈ types, type.isWellFormed) : IsRestorable (descriptorsChars types) := by
  induction types with
  | nil => exact ⟨by simp [descriptorsChars], List.isChain_nil⟩
  | cons type types ih =>
    exact isRestorable_descriptorChars_append (htypes type List.mem_cons_self)
      (ih fun t ht => htypes t (List.mem_cons_of_mem type ht))

/-- A name without slashes escapes like the descriptor that writes its dots as slashes. -/
theorem escapeDescriptorChars_slashed {name : List Char} (h : '/' ∉ name) :
    escapeDescriptorChars (substitute '.' '/' name) = escapeChars name := by
  rw [escapeDescriptorChars, Text.substitute_substitute h]

/-- Different qualified names have different escapes: unescaping tells the name with slashes. -/
theorem escapeChars_injOn {a b : List Char} (ha : isQualifiedChars a) (hb : isQualifiedChars b)
    (h : escapeChars a = escapeChars b) : a = b := by
  have haslash := slash_notMem ha
  have hbslash := slash_notMem hb
  have hslashed : substitute '.' '/' a = substitute '.' '/' b := by
    rw [← unescapeChars_escapeDescriptorChars (isRestorable_slashed ha),
      ← unescapeChars_escapeDescriptorChars (isRestorable_slashed hb),
      escapeDescriptorChars_slashed haslash, escapeDescriptorChars_slashed hbslash, h]
  rw [← Text.substitute_substitute haslash, hslashed, Text.substitute_substitute hbslash]

end NativeBindings.Symbol
