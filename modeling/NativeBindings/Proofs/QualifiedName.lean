import Mathlib.Data.List.Chain
import NativeBindings.Identifier
import NativeBindings.Proofs.Lists
import NativeBindings.Text

/-!
# The shape of identifiers and qualified names

A qualified name is read here segment by segment: an induction principle follows its dots, and the
few facts about single characters that the other modules rely on are derived once. No separator of
the symbol and descriptor formats is an identifier character, and no digit opens an identifier.
-/

namespace NativeBindings

namespace Text

/-- The characters of a substituted text. -/
theorem mem_substitute {old new c : Char} {cs : List Char} :
    c ∈ substitute old new cs ↔ (c ∈ cs ∧ c ≠ old) ∨ (old ∈ cs ∧ c = new) := by
  simp only [substitute, List.mem_map]
  constructor
  · intro hparts
    obtain ⟨x, hx, rfl⟩ := hparts
    by_cases hold : x = old
    · subst hold
      simp [hx]
    · simp [hx, hold]
  · intro hparts
    obtain ⟨hc, hne⟩ | ⟨hold, rfl⟩ := hparts
    · exact ⟨c, hc, if_neg hne⟩
    · exact ⟨old, hold, if_pos rfl⟩

/-- A text without the character to replace stays as it is. -/
theorem substitute_of_notMem {old new : Char} {cs : List Char} (h : old ∉ cs) :
    substitute old new cs = cs := by
  refine (List.map_congr_left fun c hc => if_neg ?_).trans (List.map_id' cs)
  rintro rfl
  exact h hc

/-- Of two characters, the one that is replaced in the end may stand for the other before. -/
theorem substitute_substitute_back (old new : Char) (cs : List Char) :
    substitute old new (substitute new old cs) = substitute old new cs := by
  rw [substitute, substitute, substitute, List.map_map]
  refine List.map_congr_left fun c _ => ?_
  by_cases hnew : c = new
  · simp [hnew]
  · simp [hnew]

/-- Putting a character back in the place of its stand-in restores a text without the stand-in. -/
theorem substitute_substitute {old new : Char} {cs : List Char} (h : new ∉ cs) :
    substitute new old (substitute old new cs) = cs := by
  rw [substitute_substitute_back, substitute_of_notMem h]

end Text

/-- A character that opens an identifier may also stand later in it. -/
theorem isIdentifierPart_of_start {c : Char} (h : isIdentifierStart c) : isIdentifierPart c := by
  simp only [isIdentifierStart, isIdentifierPart, Unicode.isAlphanumeric, Bool.or_eq_true] at h ⊢
  rcases h with h | h
  · exact Or.inl h
  · exact Or.inr (Or.inl h)

/-- ASCII letters and digits are ASCII. -/
theorem toNat_lt_of_isAlphanum {c : Char} (h : c.isAlphanum) : c.toNat < 128 := by
  have hlast : ∀ last : Char, last.toNat < 128 → c.val ≤ last.val → c.toNat < 128 :=
    fun last hascii hle => Nat.lt_of_le_of_lt (UInt32.le_iff_toNat_le.mp hle) hascii
  rcases Bool.or_eq_true_iff.mp h with hletter | hdigit
  · rcases Bool.or_eq_true_iff.mp hletter with hupper | hlower
    · exact hlast 'Z' (by decide) (of_decide_eq_true hupper).2
    · exact hlast 'z' (by decide) (of_decide_eq_true (Bool.and_eq_true_iff.mp hlower).2)
  · exact hlast '9' (by decide) (of_decide_eq_true (Bool.and_eq_true_iff.mp hdigit).2)

/-- A decimal digit is ASCII. -/
theorem toNat_lt_of_isDigit {c : Char} (h : c.isDigit) : c.toNat < 128 :=
  toNat_lt_of_isAlphanum (by simp [Char.isAlphanum, h])

/-- A digit is no capital. -/
theorem isUpper_eq_false_of_isDigit {d : Char} (hd : d.isDigit) : d.isUpper = false := by
  have hnine : d.val ≤ '9'.val := of_decide_eq_true (Bool.and_eq_true_iff.mp hd).2
  refine decide_eq_false fun hupper => ?_
  exact absurd (UInt32.le_trans hupper.1 hnine) (by decide)

/-- A decimal digit may stand in an identifier after the first character. -/
theorem isIdentifierPart_of_isDigit {c : Char} (h : c.isDigit) : isIdentifierPart c := by
  have hascii := toNat_lt_of_isDigit h
  simp [isIdentifierPart, Unicode.isAlphanumeric, Unicode.isNumeric, hascii, h]

/-- A number is written in decimal digits. -/
theorem isDigit_of_mem_toString {n : Nat} {c : Char} (hc : c ∈ (toString n).toList) :
    c.isDigit := by
  rw [Nat.toString_eq_repr, Nat.toList_repr] at hc
  exact Nat.isDigit_of_mem_toDigits (by decide) (by decide) hc

/-- An identifier is one opening character and a run of further ones. -/
theorem isIdentifierChars_iff {cs : List Char} :
    isIdentifierChars cs ↔ ∃ first rest,
      cs = first :: rest ∧ isIdentifierStart first ∧ ∀ c ∈ rest, isIdentifierPart c := by
  cases cs with
  | nil => simp [isIdentifierChars]
  | cons first rest =>
    simp only [isIdentifierChars, Bool.and_eq_true, List.all_eq_true]
    constructor
    · intro h
      exact ⟨first, rest, rfl, h.1, h.2⟩
    · intro hparts
      obtain ⟨_, _, ⟨rfl, rfl⟩, hfirst, hrest⟩ := hparts
      exact ⟨hfirst, hrest⟩

/-- Every character of an identifier is an identifier character. -/
theorem isIdentifierPart_of_mem {cs : List Char} (hcs : isIdentifierChars cs) {c : Char}
    (hc : c ∈ cs) : isIdentifierPart c := by
  obtain ⟨first, rest, rfl, hfirst, hrest⟩ := isIdentifierChars_iff.mp hcs
  rcases List.mem_cons.mp hc with rfl | hc
  · exact isIdentifierPart_of_start hfirst
  · exact hrest c hc

/-- A character that is no identifier character stands in no identifier. -/
theorem notMem_of_isIdentifierChars {cs : List Char} (hcs : isIdentifierChars cs) {c : Char}
    (hc : isIdentifierPart c = false) : c ∉ cs := by
  intro hmem
  simp [isIdentifierPart_of_mem hcs hmem] at hc

/-- No identifier holds a dot, so a name splits at its dots into its segments. -/
theorem dot_notMem {cs : List Char} (hcs : isIdentifierChars cs) : '.' ∉ cs :=
  notMem_of_isIdentifierChars hcs (by decide)

/-- A dot joins two qualified names to a qualified name, and nothing else does. -/
theorem isQualifiedChars_append_dot (front back : List Char) :
    isQualifiedChars (front ++ '.' :: back) =
      (isQualifiedChars front && isQualifiedChars back) := by
  simp only [isQualifiedChars, List.splitOn_append_cons_self, List.all_append]

/-- An identifier is a qualified name with one segment. -/
theorem isQualifiedChars_of_identifier {cs : List Char} (hcs : isIdentifierChars cs) :
    isQualifiedChars cs := by
  simp [isQualifiedChars, List.splitOn_eq_singleton (dot_notMem hcs), hcs]

/-- An identifier in front of a qualified name gives a qualified name. -/
theorem isQualifiedChars_dotted {segment rest : List Char} (hsegment : isIdentifierChars segment)
    (hrest : isQualifiedChars rest) : isQualifiedChars (segment ++ '.' :: rest) := by
  rw [isQualifiedChars_append_dot, isQualifiedChars_of_identifier hsegment, hrest]
  rfl

/-- Induction along the dots of a qualified name: one segment alone, or one in front of a qualified
name. -/
@[elab_as_elim]
theorem isQualifiedChars_induction {motive : (name : List Char) → isQualifiedChars name → Prop}
    (identifier : ∀ (segment : List Char) (hsegment : isIdentifierChars segment),
      motive segment (isQualifiedChars_of_identifier hsegment))
    (dotted : ∀ (segment rest : List Char) (hsegment : isIdentifierChars segment)
      (hrest : isQualifiedChars rest), motive rest hrest →
        motive (segment ++ '.' :: rest) (isQualifiedChars_dotted hsegment hrest))
    (name : List Char) (hname : isQualifiedChars name) : motive name hname := by
  have hsegments : ∀ segments : List (List Char), segments ≠ [] →
      (∀ segment ∈ segments, isIdentifierChars segment) →
      ∃ hjoined, motive (['.'].intercalate segments) hjoined := by
    intro segments
    induction segments with
    | nil => intro hne; contradiction
    | cons segment segments ih =>
      intro _ hall
      have hsegment := hall segment List.mem_cons_self
      cases segments with
      | nil =>
        simp only [List.intercalate_singleton]
        exact ⟨isQualifiedChars_of_identifier hsegment, identifier segment hsegment⟩
      | cons next segments =>
        obtain ⟨hrest, hmotive⟩ :=
          ih (by simp) fun s hs => hall s (List.mem_cons_of_mem segment hs)
        simp only [List.intercalate_cons_cons, List.append_assoc, List.singleton_append]
        exact ⟨isQualifiedChars_dotted hsegment hrest, dotted segment _ hsegment hrest hmotive⟩
  obtain ⟨hjoined, hmotive⟩ := hsegments (name.splitOn '.') (List.splitOn_ne_nil _ _)
    (by simpa [isQualifiedChars] using hname)
  simpa only [List.intercalate_splitOn] using hmotive

/-- A qualified name begins like an identifier. -/
theorem isQualifiedChars_cons {name : List Char} (hname : isQualifiedChars name) :
    ∃ first rest, name = first :: rest ∧ isIdentifierStart first := by
  induction name, hname using isQualifiedChars_induction with
  | identifier segment hsegment =>
    obtain ⟨first, rest, rfl, hfirst, -⟩ := isIdentifierChars_iff.mp hsegment
    exact ⟨first, rest, rfl, hfirst⟩
  | dotted segment rest hsegment _ _ =>
    obtain ⟨first, tail, rfl, hfirst, -⟩ := isIdentifierChars_iff.mp hsegment
    exact ⟨first, tail ++ '.' :: rest, rfl, hfirst⟩

/-- A character of a qualified name is an identifier character or a dot. -/
theorem isIdentifierPart_or_dot {name : List Char} (hname : isQualifiedChars name) {c : Char}
    (hc : c ∈ name) : isIdentifierPart c ∨ c = '.' := by
  induction name, hname using isQualifiedChars_induction with
  | identifier segment hsegment => exact Or.inl (isIdentifierPart_of_mem hsegment hc)
  | dotted segment rest hsegment _ ih =>
    rcases List.mem_append.mp hc with hc | hc
    · exact Or.inl (isIdentifierPart_of_mem hsegment hc)
    · rcases List.mem_cons.mp hc with rfl | hc
      · exact Or.inr rfl
      · exact ih hc

/-- A character that is neither an identifier character nor a dot stands in no qualified name. -/
theorem notMem_of_isQualifiedChars {name : List Char} (hname : isQualifiedChars name) {c : Char}
    (hpart : isIdentifierPart c = false) (hdot : c ≠ '.') : c ∉ name := by
  intro hc
  rcases isIdentifierPart_or_dot hname hc with h | h
  · simp [h] at hpart
  · exact hdot h

/-- No qualified name holds a slash, so slashes may stand for its dots. -/
theorem slash_notMem {name : List Char} (hname : isQualifiedChars name) : '/' ∉ name :=
  notMem_of_isQualifiedChars hname (by decide) (by decide)

/-- No qualified name holds a semicolon, so one may end it. -/
theorem semicolon_notMem {name : List Char} (hname : isQualifiedChars name) : ';' ∉ name :=
  notMem_of_isQualifiedChars hname (by decide) (by decide)

/-- What follows a dot of a qualified name opens an identifier. -/
theorem isChain_of_isQualifiedChars {name : List Char} (hname : isQualifiedChars name) :
    name.IsChain fun a b => a = '.' → isIdentifierStart b := by
  induction name, hname using isQualifiedChars_induction with
  | identifier segment hsegment => exact isChain_of_notMem (dot_notMem hsegment)
  | dotted segment rest hsegment hrest ih =>
    obtain ⟨first, tail, rfl, hfirst⟩ := isQualifiedChars_cons hrest
    rw [List.isChain_append]
    refine ⟨isChain_of_notMem (dot_notMem hsegment), ih.cons_cons fun _ => hfirst, ?_⟩
    intro a ha b _ heq
    rw [heq] at ha
    exact absurd (List.mem_of_getLast? ha) (dot_notMem hsegment)

end NativeBindings
