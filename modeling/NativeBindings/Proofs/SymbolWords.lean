import NativeBindings.Proofs.SymbolDecoding
import NativeBindings.Proofs.Word

/-!
# Symbols are words

The symbol of a method whose names are ASCII holds word characters and dollar signs only: escaping
leaves letters and digits as they are and writes every separator with an underscore. The same holds
of the escaped parameter types, which are a part of the symbol. Escaping keeps dollar signs and
brings none in, so those of a symbol are those of the names that it is made of.
-/

namespace NativeBindings

open Text (isAscii substitute)

/-- Whether the class names of a type are ASCII. -/
def JavaType.isAscii : JavaType → Bool
  | primitive _ => true
  | array element => element.isAscii
  | object name => Text.isAscii name

/-- A method that is named in ASCII, with its parameters and their types. -/
structure NativeMethod.IsAscii (method : NativeMethod) : Prop where
  name : isAscii method.name
  paramNames : ∀ param ∈ method.params, isAscii param.name
  paramTypes : ∀ type ∈ method.paramTypes, type.isAscii

/-- A class that is named in ASCII, with its methods. -/
structure NativeClass.IsAscii (c : NativeClass) : Prop where
  name : isAscii c.name.qualified
  methods : ∀ method ∈ c.methods, method.IsAscii

instance (method : NativeMethod) : Decidable method.IsAscii :=
  decidable_of_iff
    (isAscii method.name ∧ (∀ param ∈ method.params, isAscii param.name) ∧
      ∀ type ∈ method.paramTypes, type.isAscii)
    ⟨fun ⟨hname, hparams, htypes⟩ => ⟨hname, hparams, htypes⟩,
      fun h => ⟨h.name, h.paramNames, h.paramTypes⟩⟩

instance (c : NativeClass) : Decidable c.IsAscii :=
  decidable_of_iff (isAscii c.name.qualified ∧ ∀ method ∈ c.methods, method.IsAscii)
    ⟨fun ⟨hname, hmethods⟩ => ⟨hname, hmethods⟩, fun h => ⟨h.name, h.methods⟩⟩

namespace Symbol

/-- An ASCII character that a symbol is made from: one of an identifier or a separator. -/
def isSource (c : Char) : Bool :=
  c.toNat < 128 && (isIdentifierPart c || c = '.' || c = ';' || c = '[')

/-- An ASCII identifier character is one that symbols are made from. -/
theorem isSource_of_identifierPart {c : Char} (hc : isIdentifierPart c) (hascii : c.toNat < 128) :
    isSource c := by
  simp only [isSource, hascii, hc, decide_true, Bool.true_or, Bool.true_and]

/-- An escaped text holds word characters and dollar signs only. -/
theorem isWordPart_of_mem_escapeChars {cs : List Char} (hcs : ∀ c ∈ cs, isSource c) {d : Char}
    (hd : d ∈ escapeChars cs) (hdollar : d ≠ '$') : isWordPart d := by
  rcases mem_of_mem_escapeChars hd with heq | hdigit | ⟨hplain, hmem⟩
  · rw [heq]
    exact isWordPart_underscore
  · have hdigits : escapeDigits.all isWordPart := by decide
    exact List.all_eq_true.mp hdigits d hdigit
  · have hsource := hcs d hmem
    simp only [List.mem_cons, List.not_mem_nil, or_false, not_or] at hplain
    obtain ⟨-, hsemicolon, hbracket, hdot⟩ := hplain
    simp only [isSource, hsemicolon, hbracket, hdot, decide_false, Bool.or_false,
      Bool.and_eq_true, decide_eq_true_eq] at hsource
    exact isWordPart_of_identifierPart hsource.2 hsource.1 hdollar

/-- Symbols are made from the characters of ASCII qualified names. -/
theorem isSource_of_mem_qualified {name : List Char} (hname : isQualifiedChars name)
    (hascii : ∀ c ∈ name, c.toNat < 128) {c : Char} (hc : c ∈ name) : isSource c := by
  rcases isIdentifierPart_or_dot hname hc with hpart | hdot
  · exact isSource_of_identifierPart hpart (hascii c hc)
  · rw [hdot]
    decide

/-- Symbols are made from the characters of descriptors in ASCII, whose slashes become dots. -/
theorem isSource_of_mem_descriptorChars {type : JavaType} (hwell : type.isWellFormed)
    (hascii : type.isAscii) {c : Char} (hc : c ∈ type.descriptorChars) : c = '/' ∨ isSource c := by
  induction type with
  | primitive kind =>
    right
    rw [List.mem_singleton.mp hc]
    cases kind <;> decide
  | array element ih =>
    simp only [JavaType.isWellFormed, Bool.and_eq_true] at hwell
    rcases List.mem_cons.mp hc with heq | hc
    · right
      rw [heq]
      decide
    · exact ih hwell.2 hascii hc
  | object name =>
    rcases List.mem_cons.mp hc with heq | hc
    · right
      rw [heq]
      decide
    · rcases List.mem_append.mp hc with hname | hend
      · rcases Text.mem_substitute.mp hname with ⟨hmem, -⟩ | ⟨-, hslash⟩
        · right
          exact isSource_of_mem_qualified hwell (Text.isAscii_iff.mp hascii) hmem
        · exact Or.inl hslash
      · right
        rw [List.mem_singleton.mp hend]
        decide

/-- The escape of parameter types in ASCII holds word characters and dollar signs only. -/
theorem isWordPart_of_mem_escapeDescriptorChars {params : List JavaType}
    (hwell : ∀ type ∈ params, type.isWellFormed) (hascii : ∀ type ∈ params, type.isAscii)
    {d : Char} (hd : d ∈ escapeDescriptorChars (descriptorsChars params)) (hdollar : d ≠ '$') :
    isWordPart d := by
  refine isWordPart_of_mem_escapeChars (fun c hc => ?_) hd hdollar
  rcases Text.mem_substitute.mp hc with ⟨hmem, hslash⟩ | ⟨-, hdot⟩
  · obtain ⟨type, htype, hctype⟩ := List.mem_flatMap.mp hmem
    rcases isSource_of_mem_descriptorChars (hwell type htype) (hascii type htype) hctype with h | h
    · contradiction
    · exact h
  · rw [hdot]
    decide

/-- The symbol of a method that is named in ASCII holds word characters and dollar signs only. -/
theorem isWordPart_of_mem_symbol {method : NativeMethod} (hwell : method.IsWellFormed)
    (howner : isAscii method.owner.qualified) (hascii : method.IsAscii) {d : Char}
    (hd : d ∈ method.symbol.toList) (hdollar : d ≠ '$') : isWordPart d := by
  have hopening : "Java_".toList.all isWordPart := by decide
  have hname : ∀ {name : String}, isQualifiedName name → isAscii name →
      d ∈ escapeChars name.toList → isWordPart d := by
    intro name hqualified hcode hmem
    refine isWordPart_of_mem_escapeChars (fun c hc => ?_) hmem hdollar
    exact isSource_of_mem_qualified hqualified (Text.isAscii_iff.mp hcode) hc
  rw [toList_symbol] at hd
  simp only [List.mem_append, List.mem_cons] at hd
  rcases hd with ((hjava | hclass) | rfl | hmethod) | hsuffix
  · exact List.all_eq_true.mp hopening d hjava
  · exact hname hwell.owner howner hclass
  · exact isWordPart_underscore
  · exact hname (isQualifiedChars_of_identifier hwell.name) hascii.name hmethod
  · split at hsuffix
    · simp only [List.mem_cons] at hsuffix
      rcases hsuffix with rfl | rfl | hsuffix
      · exact isWordPart_underscore
      · exact isWordPart_underscore
      · exact isWordPart_of_mem_escapeDescriptorChars hwell.paramTypes hascii.paramTypes hsuffix
          hdollar
    · simp at hsuffix

/-- A symbol begins with a capital J. -/
theorem exists_symbol_cons (method : NativeMethod) :
    ∃ rest, method.symbol.toList = 'J' :: rest := by
  rw [NativeMethod.symbol, exported, String.toList_ofList, exportChars_eq]
  exact ⟨_, rfl⟩

end Symbol

/-! ### Dollar signs -/

/-- A dollar sign in a descriptor is one in the name of the innermost class. -/
theorem JavaType.dollar_mem_descriptorChars_iff {type : JavaType} :
    '$' ∈ type.descriptorChars ↔ ∃ name, type.base = .object name ∧ '$' ∈ name.toList := by
  induction type with
  | primitive kind =>
    have hletter : '$' ≠ kind.letter := by cases kind <;> decide
    simp [descriptorChars, base, hletter]
  | array element ih =>
    rw [descriptorChars, base, List.mem_cons, ih]
    exact or_iff_right (by decide)
  | object name => simp [descriptorChars, base, Text.mem_substitute]

namespace Symbol

/-- Escaping keeps dollar signs and brings none in. -/
theorem dollar_mem_escapeChars_iff {cs : List Char} : '$' ∈ escapeChars cs ↔ '$' ∈ cs := by
  constructor
  · intro h
    rcases mem_of_mem_escapeChars h with heq | hdigit | ⟨-, hmem⟩
    · exact absurd heq (by decide)
    · exact absurd hdigit (by decide)
    · exact hmem
  · intro h
    exact mem_escapeChars h (by decide)

/-- A dollar sign in a symbol is one in the name of the class, in the name of the method or, if the
method is overloaded, in the name of a class among its parameters. -/
theorem dollar_mem_symbol_iff {method : NativeMethod} :
    '$' ∈ method.symbol.toList ↔
      '$' ∈ method.owner.qualified.toList ∨ '$' ∈ method.name.toList ∨
        method.isOverloaded ∧ ∃ param ∈ method.params, ∃ name,
          param.type.base = .object name ∧ '$' ∈ name.toList := by
  have hsuffix : '$' ∈ (if method.isOverloaded then
        '_' :: '_' :: escapeDescriptorChars (descriptorsChars method.paramTypes) else []) ↔
      method.isOverloaded ∧ ∃ param ∈ method.params, ∃ name,
        param.type.base = .object name ∧ '$' ∈ name.toList := by
    cases method.isOverloaded with
    | false => simp
    | true =>
      simp [escapeDescriptorChars, dollar_mem_escapeChars_iff, Text.mem_substitute,
        descriptorsChars, NativeMethod.paramTypes, JavaType.dollar_mem_descriptorChars_iff]
  rw [toList_symbol, List.mem_append, List.mem_append, List.mem_append, List.mem_cons,
    dollar_mem_escapeChars_iff, dollar_mem_escapeChars_iff, hsuffix]
  simp [or_assoc]

end Symbol

end NativeBindings
