-- `Char.toNat_ofNat` comes with the whole of Mathlib only, through Batteries.
import Mathlib
import NativeBindings.Proofs.GeneratedNames

/-!
# Names hold no punctuation

The lines of a module are held together by line breaks, blanks, parentheses, commas and colons. No
identifier holds one of these, whatever script it is written in, and neither spelling a name in
snake case nor escaping it brings one in. So no name of a module does.
-/

namespace NativeBindings

open Text (substitute)

/-- What separates the parts of a line, and one line from the next. -/
def punctuation : List Char :=
  ['\n', ' ', '(', ')', ',', ':']

/-- Whether a text holds no punctuation. -/
def isUnpunctuated (text : String) : Bool :=
  text.toList.all (· ∉ punctuation)

/-- No character of such a text is punctuation. -/
theorem isUnpunctuated_iff {text : String} :
    isUnpunctuated text ↔ ∀ c ∈ text.toList, c ∉ punctuation := by
  rw [isUnpunctuated, List.all_eq_true]
  simp only [decide_eq_true_eq]

/-- A separator stands in no such text. -/
theorem notMem_of_isUnpunctuated {text : String} (h : isUnpunctuated text) {mark : Char}
    (hmark : mark ∈ punctuation) : mark ∉ text.toList :=
  fun hmem => isUnpunctuated_iff.mp h mark hmem hmark

/-- Texts without punctuation may be joined. -/
theorem isUnpunctuated_append {text rest : String} (htext : isUnpunctuated text)
    (hrest : isUnpunctuated rest) : isUnpunctuated (text ++ rest) := by
  rw [isUnpunctuated, String.toList_append, List.all_append, Bool.and_eq_true]
  exact ⟨htext, hrest⟩

/-- What holds of no separator holds of no punctuation. -/
theorem notMem_punctuation_of {p : Char → Bool} (hmarks : punctuation.all fun mark => !p mark)
    {c : Char} (hc : p c) : c ∉ punctuation := by
  intro hmem
  have hmark := List.all_eq_true.mp hmarks c hmem
  rw [hc] at hmark
  contradiction

/-- No character of an identifier is punctuation. -/
theorem notMem_punctuation_of_identifierPart {c : Char} (h : isIdentifierPart c) :
    c ∉ punctuation :=
  notMem_punctuation_of (by decide) h

/-- No word character is punctuation. -/
theorem notMem_punctuation_of_wordPart {c : Char} (h : isWordPart c) : c ∉ punctuation :=
  notMem_punctuation_of (by decide) h

/-- An identifier holds no punctuation. -/
theorem isUnpunctuated_of_isIdentifier {name : String} (h : isIdentifier name) :
    isUnpunctuated name :=
  isUnpunctuated_iff.mpr fun _ hc =>
    notMem_punctuation_of_identifierPart (isIdentifierPart_of_mem h hc)

/-- A decimal number holds no punctuation. -/
theorem isUnpunctuated_toString (n : Nat) : isUnpunctuated (toString n) :=
  isUnpunctuated_iff.mpr fun _ hc =>
    notMem_punctuation_of_identifierPart (isIdentifierPart_of_isDigit (isDigit_of_mem_toString hc))

/-! ### Snake case -/

/-- A code beyond all punctuation. -/
theorem ofNat_notMem_punctuation {code : Nat} (h : 59 ≤ code) : Char.ofNat code ∉ punctuation := by
  have hcode : (Char.ofNat code).toNat = 0 ∨ 59 ≤ (Char.ofNat code).toNat := by
    rw [Char.toNat_ofNat]
    split
    · exact Or.inr h
    · exact Or.inl rfl
  refine notMem_punctuation_of (p := fun c => c.toNat = 0 || 59 ≤ c.toNat) (by decide) ?_
  simpa using hcode

/-- The small forms of capitals beyond ASCII are letters, which come after all punctuation. -/
theorem le_shifted {run : Unicode.CaseRun} (hrun : run ∈ Unicode.upperCaseRuns) {code : Nat}
    (hcode : run.contains code) : 59 ≤ ((code : Int) + run.shift).toNat := by
  have hruns : ∀ run ∈ Unicode.upperCaseRuns, 59 ≤ (run.first : Int) + run.shift := by
    decide +kernel
  have hfirst : run.first ≤ code := by
    simp only [Unicode.CaseRun.contains, Bool.and_eq_true, decide_eq_true_eq] at hcode
    exact hcode.1.1
  have hshift := hruns run hrun
  omega

/-- The small form of a character brings in no punctuation. -/
theorem notMem_punctuation_of_mem_lowercase {c d : Char} (hc : c ∉ punctuation)
    (hd : d ∈ Unicode.lowercase c) : d ∉ punctuation := by
  by_cases hascii : c.toNat < 128
  · cases hupper : c.isUpper with
    | true =>
      have hword : isWordPart c := by simp [isWordPart, Char.isAlphanum, Char.isAlpha, hupper]
      rw [lowercase_of_ascii hascii, List.mem_singleton] at hd
      rw [hd]
      exact notMem_punctuation_of_wordPart (isWordPart_toLower hword)
    | false =>
      rw [lowercase_of_not_isUpper hascii hupper, List.mem_singleton] at hd
      rwa [hd]
  · rw [Unicode.lowercase, if_neg hascii] at hd
    split at hd
    · have hdotted : ['i', '\u0307'].all (· ∉ punctuation) := by decide
      exact of_decide_eq_true (List.all_eq_true.mp hdotted d hd)
    · split at hd
      · next run hfound =>
        obtain rfl := List.mem_singleton.mp hd
        have hcontains : run.contains c.toNat := by
          unfold Unicode.upperCaseRun? at hfound
          simpa using List.find?_some hfound
        exact ofNat_notMem_punctuation (le_shifted (List.mem_of_find?_eq_some hfound) hcontains)
      · obtain rfl := List.mem_singleton.mp hd
        exact hc

namespace Binding

/-- A name in snake case holds no punctuation. -/
theorem isUnpunctuated_snakeName {name : String} (h : isUnpunctuated name) :
    isUnpunctuated (snakeName name) := by
  have hunderscore : '_' ∉ punctuation := by decide
  have hsnake : ∀ d ∈ snakeChars name.toList, d ∉ punctuation := by
    rw [isUnpunctuated_iff] at h
    cases hchars : name.toList with
    | nil => simp [snakeChars]
    | cons first rest =>
      rw [hchars, List.forall_mem_cons] at h
      rw [snakeChars, List.forall_mem_append]
      refine ⟨fun d hd => notMem_punctuation_of_mem_lowercase h.1 hd, fun d hd => ?_⟩
      obtain ⟨c, hc, hdc⟩ := List.mem_flatMap.mp hd
      split at hdc
      · rcases List.mem_cons.mp hdc with rfl | hdc
        · exact hunderscore
        · exact notMem_punctuation_of_mem_lowercase (h.2 c hc) hdc
      · obtain rfl := List.mem_singleton.mp hdc
        exact h.2 d hc
  rw [isUnpunctuated_iff, toList_snakeName]
  intro d hd
  rcases Text.mem_substitute.mp hd with ⟨hmem, -⟩ | ⟨-, rfl⟩
  · exact hsnake d hmem
  · exact hunderscore

/-- The spelling of a name holds no punctuation. -/
theorem isUnpunctuated_rawName? {name raw : String} (h : isUnpunctuated name)
    (hraw : rawName? name = some raw) : isUnpunctuated raw := by
  rw [(rawName?_eq_some_iff.mp hraw).2]
  split
  · exact isUnpunctuated_append (by decide) h
  · exact h

/-- The name for a Java name holds no punctuation. -/
theorem isUnpunctuated_nameFor {name : String} (h : isUnpunctuated name) :
    isUnpunctuated (nameFor name) := by
  have hsnake := isUnpunctuated_snakeName h
  rcases nameFor_cases name with hraw | ⟨-, hname⟩
  · exact isUnpunctuated_rawName? hsnake hraw
  · rw [hname]
    exact isUnpunctuated_append hsnake (by decide)

/-- The names proposed for a parameter hold no punctuation. -/
theorem isUnpunctuated_candidate {declared : String} (h : isUnpunctuated declared) (number : Nat) :
    isUnpunctuated (candidate declared number) := by
  cases number with
  | zero => exact isUnpunctuated_nameFor h
  | succ number =>
    refine isUnpunctuated_nameFor (isUnpunctuated_append (isUnpunctuated_append h (by decide)) ?_)
    exact isUnpunctuated_toString (number + 1)

/-- The names of the parameters of a function hold no punctuation. -/
theorem isUnpunctuated_of_mem_moduleParams {method : NativeMethod}
    (hnames : ∀ param ∈ method.params, isIdentifier param.name) {name : String}
    (h : name ∈ (moduleParams method).map (·.name)) : isUnpunctuated name := by
  rcases mem_moduleParams_cases h with hreceiver | ⟨param, hparam, number, rfl⟩
  · have hreceivers : isUnpunctuated "env" ∧ isUnpunctuated "clazz" ∧ isUnpunctuated "this" := by
      decide
    obtain ⟨henv, hclazz, hthis⟩ := hreceivers
    rcases List.mem_cons.mp hreceiver with rfl | hreceiver
    · exact henv
    · rw [List.mem_singleton.mp hreceiver]
      split
      · exact hclazz
      · exact hthis
  · exact isUnpunctuated_candidate (isUnpunctuated_of_isIdentifier (hnames param hparam)) number

end Binding

/-! ### Symbols -/

namespace Symbol

/-- A qualified name holds no punctuation. -/
theorem notMem_punctuation_of_mem_qualified {name : List Char} (hname : isQualifiedChars name) :
    ∀ c ∈ name, c ∉ punctuation := by
  intro c hc
  rcases isIdentifierPart_or_dot hname hc with hpart | rfl
  · exact notMem_punctuation_of_identifierPart hpart
  · decide

/-- A descriptor holds no punctuation. -/
theorem notMem_punctuation_of_mem_descriptorChars {type : JavaType} (hwell : type.isWellFormed) :
    ∀ c ∈ type.descriptorChars, c ∉ punctuation := by
  intro c hc
  rcases JavaType.mem_of_mem_descriptorChars hwell hc with hmark | hpart
  · have hmarks : JavaType.descriptorMarks.all (· ∉ punctuation) := by decide
    exact of_decide_eq_true (List.all_eq_true.mp hmarks c hmark)
  · exact notMem_punctuation_of_identifierPart hpart

/-- Escaping brings in no punctuation. -/
theorem notMem_punctuation_of_mem_escapeChars {cs : List Char} (hcs : ∀ c ∈ cs, c ∉ punctuation) :
    ∀ d ∈ escapeChars cs, d ∉ punctuation := by
  intro d hd
  rcases mem_of_mem_escapeChars hd with rfl | hdigit | ⟨-, hmem⟩
  · decide
  · have hdigits : escapeDigits.all (· ∉ punctuation) := by decide
    exact of_decide_eq_true (List.all_eq_true.mp hdigits d hdigit)
  · exact hcs d hmem

/-- The symbol of a method holds no punctuation. -/
theorem isUnpunctuated_symbol {method : NativeMethod} (hwell : method.IsWellFormed) :
    isUnpunctuated method.symbol := by
  have hname := notMem_punctuation_of_mem_qualified
    (isQualifiedChars_lookupName hwell.owner hwell.name)
  have hparams :
      ∀ c ∈ substitute '/' '.' (descriptorsChars method.paramTypes), c ∉ punctuation := by
    intro c hc
    rcases Text.mem_substitute.mp hc with ⟨hmem, -⟩ | ⟨-, rfl⟩
    · obtain ⟨type, htype, hctype⟩ := List.mem_flatMap.mp hmem
      exact notMem_punctuation_of_mem_descriptorChars (hwell.paramTypes type htype) c hctype
    · decide
  rw [isUnpunctuated_iff, NativeMethod.symbol, exported, String.toList_ofList, exportChars_eq,
    List.forall_mem_append]
  refine ⟨notMem_punctuation_of_mem_escapeChars hname, ?_⟩
  split
  · rw [List.forall_mem_cons, List.forall_mem_cons]
    exact ⟨by decide, by decide, notMem_punctuation_of_mem_escapeChars hparams⟩
  · simp

end Symbol

/-! ### Modules -/

namespace Binding

section

variable {decl : ClassDecl} {c : NativeClass}

/-- The name of a trait method holds no punctuation. -/
theorem isUnpunctuated_traitMethodName (hresolve : decl.resolve = .ok c) {method : NativeMethod}
    (hmethod : method ∈ c.methods) : isUnpunctuated (traitMethodName method) := by
  have hwell := ClassDecl.isWellFormed_of_resolve hresolve hmethod
  have hname := isUnpunctuated_of_isIdentifier hwell.name
  rcases traitMethodName_cases hresolve hmethod with ⟨-, heq⟩ | ⟨-, suffix, hsuffix, heq⟩
  · rw [heq]
    exact isUnpunctuated_nameFor hname
  · have hsymbol := isUnpunctuated_iff.mp (Symbol.isUnpunctuated_symbol hwell)
    rw [heq]
    refine isUnpunctuated_append
      (isUnpunctuated_append (isUnpunctuated_snakeName hname) (by decide)) ?_
    exact isUnpunctuated_iff.mpr fun d hd => hsymbol d (hsuffix d hd)

/-- The simple name of a class holds no punctuation. -/
theorem isUnpunctuated_simple (hresolve : decl.resolve = .ok c) :
    isUnpunctuated c.name.simple := by
  obtain ⟨hname, hqualified⟩ :=
    ClassDecl.resolveName_eq_ok (ClassDecl.resolve_eq_ok_iff.mp hresolve).1
  rw [isUnpunctuated_iff, ClassName.simple, String.toList_ofList]
  intro d hd
  obtain ⟨hlast, -⟩ := mem_of_mem_lastSegment hd
  obtain ⟨hmem, -⟩ := mem_of_mem_lastSegment hlast
  rw [hname] at hmem
  exact Symbol.notMem_punctuation_of_mem_qualified hqualified d hmem

/-- No name of a module holds punctuation. -/
theorem isUnpunctuated_of_mem_names (hresolve : decl.resolve = .ok c) {implModule : String}
    (hmodule : isIdentifier implModule) {m : Module} (hm : moduleOf implModule c = .ok m) :
    ∀ name ∈ m.names, isUnpunctuated name := by
  obtain ⟨-, himpl, htrait, -⟩ := moduleOf_eq_ok_iff.mp hm
  have htraitName : isUnpunctuated m.traitName := by
    rw [htrait]
    exact isUnpunctuated_append (by decide) (isUnpunctuated_simple hresolve)
  refine (forall_mem_names_iff hm).mpr
    ⟨isUnpunctuated_rawName? (isUnpunctuated_of_isIdentifier hmodule) himpl, htraitName,
      isUnpunctuated_append htraitName (by decide), fun method hmethod => ?_⟩
  have hwell := ClassDecl.isWellFormed_of_resolve hresolve hmethod
  exact ⟨isUnpunctuated_traitMethodName hresolve hmethod, Symbol.isUnpunctuated_symbol hwell,
    fun _ => isUnpunctuated_of_mem_moduleParams hwell.paramNames⟩

end

end Binding

end NativeBindings
