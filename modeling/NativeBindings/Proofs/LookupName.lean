import NativeBindings.Proofs.ModuleChecks
import NativeBindings.Proofs.NativeSurface
import NativeBindings.Proofs.SymbolWords

/-!
# The names that methods are looked up by

The virtual machine looks for a native method under a name that is written one UTF-16 code unit at a
time. ASCII letters and digits stand for themselves, separators have escapes of their own, and every
other unit is written as a number. Symbols have no such numbers: a letter outside ASCII stays in
them as it is. The symbol of a method is therefore the name that it is looked up by exactly if all
names that the symbol is made of are ASCII.
-/

namespace NativeBindings

namespace Lookup

/-- The UTF-16 code units of a character. -/
def units (c : Char) : List Nat :=
  if c.toNat < 0x10000 then [c.toNat]
  else [0xD800 + (c.toNat - 0x10000) / 0x400, 0xDC00 + (c.toNat - 0x10000) % 0x400]

/-- A code unit as four hexadecimal digits. -/
def hexDigits (unit : Nat) : List Char :=
  [unit / 0x1000, unit / 0x100, unit / 0x10, unit].map fun shifted => Nat.digitChar (shifted % 16)

/-- How a code unit is written in a name that is looked up. The halves of a character that takes two
units are no characters of their own, so they are written as numbers. -/
def escapeUnit (unit : Nat) : List Char :=
  let c := Char.ofNat unit
  if c = '.' ∨ c = '/' then ['_']
  else if c = '_' then ['_', '1']
  else if c = ';' then ['_', '2']
  else if c = '[' then ['_', '3']
  else if c.isAlphanum then [c]
  else '_' :: '0' :: hexDigits unit

/-- How a character is written in a name that is looked up. -/
def escapeChar (c : Char) : List Char :=
  (units c).flatMap escapeUnit

/-- How a text is written in a name that is looked up. -/
def escape (text : String) : String :=
  String.ofList (text.toList.flatMap escapeChar)

/-- The name that a method of a class is looked up by. A method with a namesake among the native
methods of the class is told apart by its parameters. -/
def name (decl : ClassDecl) (method : NativeMethod) : String :=
  "Java_" ++ escape decl.name ++ "_" ++ escape method.name ++
    if decl.HasNamesake method.name method.position then
      "__" ++ escape (String.join (method.paramTypes.map JavaType.descriptor))
    else ""

/-- A letter outside ASCII takes a number, or two if it takes two units. -/
example : escape "a.Ünï_x𝒳" = "a__000dcn_000ef_1x_0d835_0dcb3" := by decide

/-- Every unit is written in ASCII. -/
theorem toNat_lt_of_mem_escapeUnit {unit : Nat} {d : Char} (hd : d ∈ escapeUnit unit) :
    d.toNat < 128 := by
  have hdigits : ∀ digit < 16, (Nat.digitChar digit).toNat < 128 := by decide
  have hescapes : ∀ escape ∈ [['_'], ['_', '1'], ['_', '2'], ['_', '3'], ['_', '0']],
      ∀ d ∈ escape, d.toNat < 128 := by simp
  unfold escapeUnit at hd
  dsimp only at hd
  split_ifs at hd with _ _ _ _ halphanum
  · exact hescapes ['_'] (by decide) d hd
  · exact hescapes ['_', '1'] (by decide) d hd
  · exact hescapes ['_', '2'] (by decide) d hd
  · exact hescapes ['_', '3'] (by decide) d hd
  · rw [List.mem_singleton.mp hd]
    exact toNat_lt_of_isAlphanum halphanum
  · rcases List.mem_append.mp (show d ∈ ['_', '0'] ++ hexDigits unit from hd) with hd | hd
    · exact hescapes ['_', '0'] (by decide) d hd
    · obtain ⟨shifted, -, rfl⟩ := List.mem_map.mp hd
      exact hdigits _ (Nat.mod_lt _ (by decide))

/-- Every text is written in ASCII. -/
theorem isAscii_escape (text : String) : Text.isAscii (escape text) := by
  rw [Text.isAscii_iff, escape, String.toList_ofList]
  intro d hd
  obtain ⟨c, -, hd⟩ := List.mem_flatMap.mp hd
  obtain ⟨unit, -, hd⟩ := List.mem_flatMap.mp hd
  exact toNat_lt_of_mem_escapeUnit hd

/-- Texts next to each other are ASCII if each is. -/
theorem isAscii_append {front back : String} :
    Text.isAscii (front ++ back) ↔ Text.isAscii front ∧ Text.isAscii back := by
  simp only [Text.isAscii_iff, String.toList_append, List.mem_append, or_imp, forall_and]

/-- Methods are looked up by ASCII names. -/
theorem isAscii_name (decl : ClassDecl) (method : NativeMethod) :
    Text.isAscii (name decl method) := by
  have hfixed : ∀ text ∈ ["Java_", "_", "__", ""], Text.isAscii text := by decide
  have hsuffix : Text.isAscii (if decl.HasNamesake method.name method.position then
      "__" ++ escape (String.join (method.paramTypes.map JavaType.descriptor)) else "") := by
    split
    · exact isAscii_append.mpr ⟨hfixed "__" (by simp), isAscii_escape _⟩
    · exact hfixed "" (by simp)
  refine isAscii_append.mpr ⟨isAscii_append.mpr ⟨isAscii_append.mpr ⟨isAscii_append.mpr
    ⟨hfixed "Java_" (by simp), isAscii_escape _⟩, hfixed "_" (by simp)⟩, isAscii_escape _⟩, hsuffix⟩

/-- In a symbol and in the name that is looked up, an ASCII character is written alike, unless it is
a dollar sign. A slash is written like a dot. -/
theorem escapeChar_eq {c : Char} (hc : c = '/' ∨ Symbol.isSource c) (hdollar : c ≠ '$') :
    escapeChar c = Symbol.escapeChar (if c = '/' then '.' else c) := by
  by_cases hseparator : c = '.' ∨ c = '/' ∨ c = '_' ∨ c = ';' ∨ c = '['
  · rcases hseparator with rfl | rfl | rfl | rfl | rfl <;> decide
  · simp only [not_or] at hseparator
    obtain ⟨hdot, hslash, hunderscore, hsemicolon, hbracket⟩ := hseparator
    have hsource := hc.resolve_left hslash
    simp only [Symbol.isSource, hdot, hsemicolon, hbracket, decide_false, Bool.or_false,
      Bool.and_eq_true, decide_eq_true_eq] at hsource
    have hword := isWordPart_of_identifierPart hsource.2 hsource.1 hdollar
    have halphanum : c.isAlphanum := by simpa [isWordPart, hunderscore] using hword
    have hunit : units c = [c.toNat] := if_pos (hsource.1.trans (by decide))
    rw [if_neg hslash, escapeChar, hunit, List.flatMap_singleton, escapeUnit, Char.ofNat_toNat]
    simp only [hdot, hslash, hunderscore, hsemicolon, hbracket, halphanum, or_self, if_false,
      if_true, Symbol.escapeChar]

/-- A text whose escape is ASCII is ASCII. -/
theorem toNat_lt_of_escapeChars {cs : List Char}
    (h : ∀ d ∈ Symbol.escapeChars cs, d.toNat < 128) : ∀ c ∈ cs, c.toNat < 128 := by
  have hescaped : ∀ c ∈ ['_', ';', '[', '.'], c.toNat < 128 := by simp
  intro c hc
  by_cases hplain : c ∈ ['_', ';', '[', '.']
  · exact hescaped c hplain
  · exact h c (Symbol.mem_escapeChars hc hplain)

/-- A type is named in ASCII if its descriptor is. -/
theorem isAscii_of_descriptorChars {type : JavaType}
    (h : ∀ d ∈ type.descriptorChars, d.toNat < 128) : type.isAscii := by
  induction type with
  | primitive kind => rfl
  | array element ih => exact ih fun d hd => h d (List.mem_cons_of_mem _ hd)
  | object name =>
    refine Text.isAscii_iff.mpr fun c hc => ?_
    by_cases hdot : c = '.'
    · rw [hdot]
      decide
    · have hmem : c ∈ Text.substitute '.' '/' name.toList :=
        Text.mem_substitute.mpr (Or.inl ⟨hc, hdot⟩)
      exact h c (List.mem_cons_of_mem _ (List.mem_append_left _ hmem))

/-- The names that a symbol is made of are ASCII. -/
structure NamedInAscii (method : NativeMethod) : Prop where
  owner : Text.isAscii method.owner.qualified
  name : Text.isAscii method.name
  paramTypes : method.isOverloaded → ∀ type ∈ method.paramTypes, type.isAscii

/-- A symbol in ASCII is made of names in ASCII. -/
theorem namedInAscii_of_symbol {method : NativeMethod} (h : Text.isAscii method.symbol) :
    NamedInAscii method := by
  rw [Text.isAscii_iff, Symbol.toList_symbol] at h
  simp only [List.forall_mem_append, List.forall_mem_cons] at h
  obtain ⟨⟨⟨-, howner⟩, -, hname⟩, hsuffix⟩ := h
  refine ⟨Text.isAscii_iff.mpr (toNat_lt_of_escapeChars howner),
    Text.isAscii_iff.mpr (toNat_lt_of_escapeChars hname), fun hoverloaded type htype => ?_⟩
  rw [if_pos hoverloaded] at hsuffix
  simp only [List.forall_mem_cons] at hsuffix
  have hdescriptors := toNat_lt_of_escapeChars hsuffix.2.2
  refine isAscii_of_descriptorChars fun d hd => ?_
  by_cases hslash : d = '/'
  · rw [hslash]
    decide
  · have hmem : d ∈ descriptorsChars method.paramTypes := List.mem_flatMap.mpr ⟨type, htype, hd⟩
    exact hdescriptors d (Text.mem_substitute.mpr (Or.inl ⟨hmem, hslash⟩))

/-- A text of characters that are written alike is written alike. -/
theorem toList_escape {text : String}
    (h : ∀ c ∈ text.toList, (c = '/' ∨ Symbol.isSource c) ∧ c ≠ '$') :
    (escape text).toList = Symbol.escapeDescriptorChars text.toList := by
  rw [escape, String.toList_ofList, Symbol.escapeDescriptorChars, Symbol.escapeChars,
    Text.substitute, List.flatMap_map]
  exact List.flatMap_congr fun c hc => escapeChar_eq (h c hc).1 (h c hc).2

/-- A qualified name in ASCII without a dollar sign is written alike. -/
theorem toList_escape_qualified {text : String} (hname : isQualifiedName text)
    (hascii : Text.isAscii text) (hdollar : '$' ∉ text.toList) :
    (escape text).toList = Symbol.escapeChars text.toList := by
  have hsame : Text.substitute '/' '.' text.toList = text.toList :=
    Text.substitute_of_notMem (slash_notMem hname)
  rw [toList_escape, Symbol.escapeDescriptorChars, hsame]
  intro c hc
  exact ⟨Or.inr (Symbol.isSource_of_mem_qualified hname (Text.isAscii_iff.mp hascii) hc),
    fun heq => hdollar (heq ▸ hc)⟩

end Lookup

section

open Lookup Binding

variable {decl : ClassDecl} {c : NativeClass} {method : NativeMethod}

/-- A method that is named in ASCII has the symbol that it is looked up by, unless a dollar sign is
in it. -/
theorem symbol_eq_name (hresolve : decl.resolve = .ok c) (hmethod : method ∈ c.methods)
    (hdollar : '$' ∉ method.symbol.toList) (hascii : NamedInAscii method) :
    method.symbol = Lookup.name decl method := by
  have hwell := ClassDecl.isWellFormed_of_resolve hresolve hmethod
  have howner : method.owner.qualified = decl.name := by
    rw [ClassDecl.owner_of_resolve hresolve hmethod, ClassDecl.name_of_resolve hresolve]
    rfl
  rw [Symbol.dollar_mem_symbol_iff, not_or, not_or] at hdollar
  obtain ⟨hownerDollar, hnameDollar, hparamsDollar⟩ := hdollar
  have hownerEscape := toList_escape_qualified hwell.owner hascii.owner hownerDollar
  have hnameEscape := toList_escape_qualified (isQualifiedChars_of_identifier hwell.name)
    hascii.name hnameDollar
  have hsuffix : method.isOverloaded →
      (escape (String.join (method.paramTypes.map JavaType.descriptor))).toList =
        Symbol.escapeDescriptorChars (descriptorsChars method.paramTypes) := by
    intro hoverloaded
    rw [toList_escape, JavaType.toList_join_descriptor]
    rw [JavaType.toList_join_descriptor]
    intro d hd
    obtain ⟨type, htype, hdtype⟩ := List.mem_flatMap.mp hd
    refine ⟨Symbol.isSource_of_mem_descriptorChars (hwell.paramTypes type htype)
      (hascii.paramTypes hoverloaded type htype) hdtype, ?_⟩
    rintro rfl
    obtain ⟨param, hparam, rfl⟩ := List.mem_map.mp htype
    exact hparamsDollar
      ⟨hoverloaded, param, hparam, JavaType.dollar_mem_descriptorChars_iff.mp hdtype⟩
  apply String.toList_injective
  rw [Symbol.toList_symbol, hownerEscape.symm, hnameEscape.symm, Lookup.name, howner]
  have hnamesake := ClassDecl.isOverloaded_iff_hasNamesake hresolve hmethod
  have hjoint : "_".toList = ['_'] := by decide
  have hseparator : "__".toList = ['_', '_'] := by decide
  by_cases hoverloaded : method.isOverloaded
  · rw [if_pos hoverloaded, if_pos (hnamesake.mp hoverloaded), ← hsuffix hoverloaded]
    simp only [String.toList_append, hjoint, hseparator, List.append_assoc, List.cons_append,
      List.nil_append]
  · rw [if_neg hoverloaded, if_neg (mt hnamesake.mpr hoverloaded)]
    simp only [String.toList_append, hjoint, String.toList_empty, List.append_assoc,
      List.cons_append, List.nil_append]

/-- The exported symbol of a method of a rendered class is the name that the method is looked up by
exactly if the class, the method and, for an overloaded method, the classes of its parameters are
named in ASCII. -/
theorem symbol_eq_name_iff {options : Options} {text : String} (hresolve : decl.resolve = .ok c)
    (hrender : options.render c = .ok text) (hmethod : method ∈ c.methods) :
    method.symbol = Lookup.name decl method ↔ NamedInAscii method := by
  obtain ⟨-, hforms, -⟩ := checkClass_eq_ok_iff.mp (checkClass_of_render hrender)
  constructor
  · intro hsymbol
    refine namedInAscii_of_symbol ?_
    rw [hsymbol]
    exact isAscii_name decl method
  · exact symbol_eq_name hresolve hmethod (hforms method hmethod).1

end

/-- A class with a method whose name has an accent. -/
def accentedDecl : ClassDecl where
  name := "a.B"
  methods := [{ name := "é" }, { name := "e_" }]

/-- Its method without an accent. -/
def plainMethod : NativeMethod where
  owner := ⟨"a.B"⟩
  name := "e_"
  params := []
  returns := .void
  isStatic := false
  isOverloaded := false
  position := 1

/-- Its method with an accent. -/
def accentedMethod : NativeMethod where
  owner := ⟨"a.B"⟩
  name := "é"
  params := []
  returns := .void
  isStatic := false
  isOverloaded := false
  position := 0

/-- The native methods of that class. -/
def accentedClass : NativeClass where
  name := ⟨"a.B"⟩
  methods := [plainMethod, accentedMethod]

set_option maxRecDepth 4000 in
/-- A class is rendered although one of its methods is not found under its symbol. -/
theorem symbol_eq_name_iff_accented :
    accentedDecl.resolve = .ok accentedClass ∧
      (∃ text, Binding.Options.render {} accentedClass = .ok text) ∧
      plainMethod.symbol = Lookup.name accentedDecl plainMethod ∧
      accentedMethod.symbol ≠ Lookup.name accentedDecl accentedMethod ∧
      accentedMethod.symbol = "Java_a_B_é" ∧
      Lookup.name accentedDecl accentedMethod = "Java_a_B__000e9" := by
  have hresolve : accentedDecl.resolve = .ok accentedClass := by
    rw [ClassDecl.resolve, ClassDecl.natives_eq_insertionSort]
    decide +kernel
  have hrender : ∃ text, Binding.Options.render {} accentedClass = .ok text := by
    have hcheck : Binding.checkClass accentedClass = .ok () := by rfl
    exact Binding.exists_render_iff.mpr ⟨hcheck, by decide⟩
  refine ⟨hresolve, hrender, ?_, ?_, by decide, by decide⟩
  · obtain ⟨text, htext⟩ := hrender
    refine (symbol_eq_name_iff hresolve htext List.mem_cons_self).mpr ⟨by decide, by decide, ?_⟩
    intro hoverloaded
    contradiction
  · obtain ⟨text, htext⟩ := hrender
    have hmethod : accentedMethod ∈ accentedClass.methods :=
      List.mem_cons_of_mem _ List.mem_cons_self
    intro hsymbol
    exact absurd ((symbol_eq_name_iff hresolve htext hmethod).mp hsymbol).name (by decide)

end NativeBindings
