import NativeBindings.Proofs.Escaping

/-!
# What escaping and unescaping undo

Escaping and unescaping undo each other wherever they can. A descriptor comes back from its escape
unless it holds a dot, which comes back as a slash, or a slash in front of an escape digit, which is
read together with it. A text comes back from what it unescapes to unless it holds a character that
no escape holds. An escape is also what replacing one character after the other in the whole text
gives, provided that underscores are replaced before dots leave any.
-/

namespace NativeBindings.Symbol

open Text (substitute)

/-! ### Replacements in turn -/

/-- Write a text in the place of every occurrence of a character. -/
def replaceEach (old : Char) (new : String) (cs : List Char) : List Char :=
  cs.flatMap fun c => if c = old then new.toList else [c]

/-- Make replacements one after the other, each in the whole text. -/
def replaceInTurn (replacements : List (Char × String)) (cs : List Char) : List Char :=
  replacements.foldl (fun text replacement => replaceEach replacement.1 replacement.2 text) cs

/-- The replacements that escape a descriptor, in their order. -/
def descriptorReplacements : List (Char × String) :=
  [('/', "."), ('_', "_1"), (';', "_2"), ('[', "_3"), ('.', "_")]

/-- The characters that are replaced in a descriptor. -/
theorem mem_replaced_iff {c : Char} : c ∈ descriptorReplacements.map Prod.fst ↔
    c = '/' ∨ c = '_' ∨ c = ';' ∨ c = '[' ∨ c = '.' := by
  simp [descriptorReplacements]

/-- Replacements in the whole text go character by character, whatever the earlier ones bring in. -/
theorem replaceInTurn_eq_flatMap (replacements : List (Char × String)) (cs : List Char) :
    replaceInTurn replacements cs = cs.flatMap fun c => replaceInTurn replacements [c] := by
  induction replacements generalizing cs with
  | nil => simp [replaceInTurn]
  | cons replacement replacements ih =>
    have hstep : ∀ text, replaceInTurn (replacement :: replacements) text =
        replaceInTurn replacements (replaceEach replacement.1 replacement.2 text) :=
      fun text => rfl
    calc
      replaceInTurn (replacement :: replacements) cs
        = (replaceEach replacement.1 replacement.2 cs).flatMap
            fun c => replaceInTurn replacements [c] := by rw [hstep, ih]
      _ = cs.flatMap fun c => (replaceEach replacement.1 replacement.2 [c]).flatMap
            fun d => replaceInTurn replacements [d] := by
          simp [replaceEach, List.flatMap_assoc]
      _ = cs.flatMap fun c => replaceInTurn (replacement :: replacements) [c] := by
          simp only [hstep, ← ih]

/-- A character without a replacement stands for itself in an escaped descriptor. -/
theorem escapeDescriptorChars_cons_plain {c : Char}
    (hc : c ∉ descriptorReplacements.map Prod.fst) (cs : List Char) :
    escapeDescriptorChars (c :: cs) = c :: escapeDescriptorChars cs := by
  simp only [mem_replaced_iff, not_or] at hc
  simp [escapeDescriptorChars_cons, escapeChar, hc]

/-- The replacements in turn escape a descriptor. -/
theorem replaceInTurn_eq_escapeDescriptorChars (cs : List Char) :
    replaceInTurn descriptorReplacements cs = escapeDescriptorChars cs := by
  have hsingle : ∀ c, replaceInTurn descriptorReplacements [c] = escapeDescriptorChars [c] := by
    intro c
    by_cases hc : c ∈ descriptorReplacements.map Prod.fst
    · rcases mem_replaced_iff.mp hc with rfl | rfl | rfl | rfl | rfl <;> rfl
    · rw [escapeDescriptorChars_cons_plain hc]
      simp only [mem_replaced_iff, not_or] at hc
      simp [replaceInTurn, descriptorReplacements, replaceEach, escapeDescriptorChars, escapeChars,
        substitute, hc]
  rw [replaceInTurn_eq_flatMap]
  simp only [hsingle]
  simp [escapeDescriptorChars, escapeChars, substitute, List.flatMap_map]

/-- Dots that are replaced before underscores would be escaped twice. -/
example : escape "p._q" = "p__1q" ∧
    replaceInTurn [('.', "_"), ('_', "_1")] "p._q".toList = "p_1_1q".toList := by
  decide

/-! ### Characters that are lost -/

/-- Neither a dot nor a slash stands in an escape, and no character that only escapes stand for. -/
theorem notMem_escapeDescriptorChars {c : Char} (hc : c ∈ [';', '[', '.', '/']) (cs : List Char) :
    c ∉ escapeDescriptorChars cs := by
  have hmarks : ∀ mark ∈ [';', '[', '.', '/'], mark ≠ '_' ∧ mark ∉ escapeDigits ∧
      (mark ∉ ['_', ';', '[', '.'] → mark = '/') := by
    simp [escapeDigits]
  obtain ⟨hunderscore, hdigit, hslash⟩ := hmarks c hc
  intro hmem
  rcases mem_of_mem_escapeChars hmem with h | h | ⟨hplain, hsource⟩
  · exact hunderscore h
  · exact hdigit h
  · obtain rfl := hslash hplain
    simp [Text.mem_substitute] at hsource

/-- Unescaping brings in no dot. -/
theorem dot_notMem_unescapeChars {cs : List Char} (h : '.' ∉ cs) : '.' ∉ unescapeChars cs := by
  fun_induction unescapeChars cs with
  | case1 => simp
  | case2 rest ih | case3 rest ih | case4 rest ih => simp_all
  | case5 c rest _ _ _ ih =>
    simp only [List.mem_cons, not_or] at h ⊢
    refine ⟨?_, ih h.2⟩
    split
    · decide
    · exact h.1

/-- An underscore and an escape digit are read as one character, which is no slash. -/
theorem head?_unescapeChars_escape {digit : Char} (hdigit : digit ∈ escapeDigits)
    (rest : List Char) : (unescapeChars ('_' :: digit :: rest)).head? ≠ some '/' := by
  simp only [escapeDigits, List.mem_cons, List.not_mem_nil, or_false] at hdigit
  rcases hdigit with rfl | rfl | rfl <;> simp [unescapeChars]

/-- Only restorable texts come back from their escapes. -/
theorem isRestorable_of_unescapeChars {cs : List Char}
    (h : unescapeChars (escapeDescriptorChars cs) = cs) : IsRestorable cs := by
  have hdot : '.' ∉ cs := by
    rw [← h]
    exact dot_notMem_unescapeChars (notMem_escapeDescriptorChars (by decide) cs)
  induction cs with
  | nil => exact ⟨hdot, List.isChain_nil⟩
  | cons c cs ih =>
    simp only [List.mem_cons, not_or] at hdot
    by_cases hslash : c = '/'
    · subst hslash
      have hnext : ∀ d ∈ cs.head?, d ∉ escapeDigits := by
        -- A digit behind the slash would be read together with the underscore.
        intro d hd hdigit
        obtain ⟨rest, rfl⟩ := List.head?_eq_some_iff.mp hd
        have hplain : ∀ digit ∈ escapeDigits, digit ∉ descriptorReplacements.map Prod.fst := by
          simp [escapeDigits, mem_replaced_iff]
        have hescape : escapeDescriptorChars ('/' :: d :: rest) =
            '_' :: d :: escapeDescriptorChars rest := by
          rw [escapeDescriptorChars_cons, escapeDescriptorChars_cons_plain (hplain d hdigit)]
          rfl
        apply head?_unescapeChars_escape hdigit (escapeDescriptorChars rest)
        rw [← hescape, h, List.head?_cons]
      rw [unescapeChars_escapeDescriptorChars_slash hnext] at h
      have hrest := ih (List.cons.inj h).2 hdot.2
      exact ⟨by simp [hdot.2], hrest.after_slash.cons fun d hd _ => hnext d hd⟩
    · rw [unescapeChars_escapeDescriptorChars_cons (Ne.symm hdot.1) hslash] at h
      exact (ih (List.cons.inj h).2 hdot.2).cons (Ne.symm hdot.1) hslash

/-- A text is restorable if it holds no dot, and no slash next to an escape digit. -/
theorem isRestorable_iff {cs : List Char} :
    IsRestorable cs ↔ '.' ∉ cs ∧ ∀ digit ∈ escapeDigits, ¬ ['/', digit] <:+: cs := by
  constructor
  · intro h
    refine ⟨h.no_dot, fun digit hdigit hinfix => ?_⟩
    have hpair := List.IsChain.infix h.after_slash hinfix
    exact List.isChain_pair.mp hpair rfl hdigit
  · intro h
    refine ⟨h.1, List.isChain_iff_forall_rel_of_append_cons_cons.mpr ?_⟩
    rintro a b front back rfl rfl hdigit
    exact h.2 b hdigit ⟨front, back, by simp⟩

/-- Escaping restores a text without the characters that no escape holds. -/
theorem escapeDescriptorChars_unescapeChars {cs : List Char}
    (h : ∀ c ∈ [';', '[', '.', '/'], c ∉ cs) :
    escapeDescriptorChars (unescapeChars cs) = cs := by
  fun_induction unescapeChars cs with
  | case1 => rfl
  | case2 rest ih | case3 rest ih | case4 rest ih =>
    have hrest := ih fun c hc hmem => h c hc (by simp [hmem])
    simp [escapeDescriptorChars_cons, escapeChar, hrest]
  | case5 c rest _ _ _ ih =>
    have hrest := ih fun c hc hmem => h c hc (by simp [hmem])
    split
    · next hunderscore => simp [escapeDescriptorChars_cons, escapeChar, hunderscore, hrest]
    · next hunderscore =>
      have hmarks : ∀ mark ∈ [';', '[', '.', '/'], c ≠ mark := by
        rintro mark hmark rfl
        exact h c hmark List.mem_cons_self
      rw [escapeDescriptorChars_cons_plain, hrest]
      simp [mem_replaced_iff, hunderscore, hmarks]

/-- A descriptor is escaped by five replacements in turn. It comes back from its escape exactly if
it holds no dot, and no slash next to an escape digit. A text comes back from what it unescapes to
exactly if it holds no semicolon, no opening bracket, no dot and no slash. -/
theorem escapes_undone_iff :
    (∀ s : String,
      (escapeDescriptor s).toList = replaceInTurn descriptorReplacements s.toList) ∧
      (∀ s : String, unescape (escapeDescriptor s) = s ↔
        '.' ∉ s.toList ∧ ∀ digit ∈ ['1', '2', '3'], ¬ ['/', digit] <:+: s.toList) ∧
      ∀ x : String, escapeDescriptor (unescape x) = x ↔
        ∀ c ∈ [';', '[', '.', '/'], c ∉ x.toList := by
  refine ⟨fun s => ?_, fun s => ?_, fun x => ?_⟩
  · rw [replaceInTurn_eq_escapeDescriptorChars, escapeDescriptor, String.toList_ofList]
  · rw [← String.toList_inj, unescape, escapeDescriptor, String.toList_ofList,
      String.toList_ofList]
    change _ ↔ '.' ∉ s.toList ∧ ∀ digit ∈ escapeDigits, ¬ ['/', digit] <:+: s.toList
    rw [← isRestorable_iff]
    exact ⟨isRestorable_of_unescapeChars, unescapeChars_escapeDescriptorChars⟩
  · rw [← String.toList_inj, unescape, escapeDescriptor, String.toList_ofList,
      String.toList_ofList]
    constructor
    · intro h c hc
      rw [← h]
      exact notMem_escapeDescriptorChars hc _
    · exact escapeDescriptorChars_unescapeChars

/-- A segment that begins with an escape digit is lost, and one that begins with an underscore is
not. Two underscores before an escape digit are a slash and an escape. -/
theorem escapes_undone_iff_digit :
    unescape (escapeDescriptor "Lp/1q;") ≠ "Lp/1q;" ∧
      unescape (escapeDescriptor "[Lp/_1q;") = "[Lp/_1q;" ∧
      escapeDescriptor (unescape "Lp__1q_2") = "Lp__1q_2" := by
  obtain ⟨-, hescaped, hunescaped⟩ := escapes_undone_iff
  refine ⟨fun h => ?_, (hescaped _).mpr ⟨by decide, ?_⟩, (hunescaped _).mpr (by simp)⟩
  · exact ((hescaped _).mp h).2 '1' (by decide) ⟨"Lp".toList, "q;".toList, rfl⟩
  · intro digit hdigit hinfix
    obtain rfl : digit = '_' := by simpa [List.infix_cons_iff] using hinfix
    exact absurd hdigit (by decide)

end NativeBindings.Symbol
