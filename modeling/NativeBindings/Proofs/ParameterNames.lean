import NativeBindings.Binding.Module
import NativeBindings.Proofs.NumberedSearch
import NativeBindings.Proofs.UsableName

/-!
# Names of parameters

Every parameter of a generated function after the first two gets one of the names proposed for it,
the first at first and then the first with a number. The names proposed all differ, so the one with
the least number that is not used yet is found, and the first of all is used by some parameter at
least. A name with a number is never missed by the table of keywords, since no missed name holds a
digit. So a function has a parameter with a missed name exactly if the name declared for some
parameter is missed.
-/

namespace NativeBindings.Binding

open Text (isAscii)

/-! ### The names proposed -/

/-- Whether a name holds a decimal digit. -/
def hasDigit (name : String) : Bool :=
  name.toList.any Char.isDigit

/-- A numbered name holds a digit. -/
theorem hasDigit_numbered (name : String) (number : Nat) :
    hasDigit (name ++ "_" ++ toString number) := by
  have hne : (toString number).toList ≠ [] := by
    rw [Nat.toString_eq_repr, Nat.toList_repr]
    exact Nat.toDigits_ne_nil
  obtain ⟨d, hd⟩ := List.exists_mem_of_ne_nil _ hne
  refine List.any_eq_true.mpr ⟨d, ?_, isDigit_of_mem_toString hd⟩
  rw [String.toList_append]
  exact List.mem_append_right _ hd

/-- What stands behind a name without a capital is left as it is by snake case. -/
theorem snakeChars_append (cs : List Char) {tail : List Char}
    (htail : ∀ c ∈ tail, c.toNat < 128 ∧ c.isUpper = false) :
    snakeChars (cs ++ tail) = snakeChars cs ++ tail := by
  have hlower : ∀ c ∈ tail, Unicode.lowercase c = [c] := by
    intro c hc
    exact lowercase_of_not_isUpper (htail c hc).1 (htail c hc).2
  have hplain : ∀ rest : List Char, (∀ c ∈ rest, c ∈ tail) →
      rest.flatMap (fun c => if Unicode.isUppercase c then '_' :: Unicode.lowercase c else [c]) =
        rest := by
    intro rest hrest
    refine (List.flatMap_congr fun c hc => ?_).trans (List.flatMap_singleton' rest)
    simp [Unicode.isUppercase, htail c (hrest c hc)]
  cases cs with
  | nil =>
    cases tail with
    | nil => rfl
    | cons first rest =>
      change snakeChars (first :: rest) = first :: rest
      rw [snakeChars, hlower first List.mem_cons_self,
        hplain rest fun c hc => List.mem_cons_of_mem first hc, List.singleton_append]
  | cons first rest =>
    rw [List.cons_append, snakeChars, snakeChars, List.flatMap_append, hplain tail fun c hc => hc,
      List.append_assoc]

/-- A number behind a name is left as it is by snake case. -/
theorem snakeName_numbered (declared : String) (number : Nat) :
    snakeName (declared ++ "_" ++ toString number) =
      snakeName declared ++ "_" ++ toString number := by
  have htail : ∀ c ∈ '_' :: (toString number).toList, c.toNat < 128 ∧ c.isUpper = false := by
    intro c hc
    rcases List.mem_cons.mp hc with rfl | hc
    · decide
    · have hdigit := isDigit_of_mem_toString hc
      exact ⟨toNat_lt_of_isDigit hdigit, isUpper_eq_false_of_isDigit hdigit⟩
  have hdollar : '$' ∉ '_' :: (toString number).toList := by
    intro hmem
    rcases List.mem_cons.mp hmem with heq | hmem
    · exact absurd heq (by decide)
    · exact absurd (isDigit_of_mem_toString hmem) (by decide)
  have hchars : ∀ name : String, (name ++ "_" ++ toString number).toList =
      name.toList ++ '_' :: (toString number).toList := by
    intro name
    simp
  apply String.toList_injective
  rw [hchars, toList_snakeName, toList_snakeName, hchars, snakeChars_append _ htail,
    Text.substitute, List.map_append]
  congr 1
  exact Text.substitute_of_notMem hdollar

/-- The name for a Java name is its snake name, if a digit stands in either. -/
theorem nameFor_eq_snakeName {name : String}
    (h : hasDigit (nameFor name) ∨ hasDigit (snakeName name)) : nameFor name = snakeName name := by
  have hkeywords : ∀ word ∈ keywords, hasDigit ("r#" ++ word) = false ∧ hasDigit word = false := by
    decide
  have hreserved :
      ∀ word ∈ reservedWords, hasDigit (word ++ "_") = false ∧ hasDigit word = false := by
    decide
  rcases nameFor_cases name with hraw | ⟨hmem, hname⟩
  · have hname := (rawName?_eq_some_iff.mp hraw).2
    split at hname
    · next hmem =>
      rw [hname] at h
      simp [hkeywords _ hmem] at h
    · exact hname
  · rw [hname] at h
    simp [hreserved _ hmem] at h

/-- A name proposed with a number is the snake name with the number. -/
theorem candidate_succ (declared : String) (number : Nat) :
    candidate declared (number + 1) = snakeName declared ++ "_" ++ toString (number + 1) := by
  have hsnake := snakeName_numbered declared (number + 1)
  rw [candidate, nameFor_eq_snakeName, hsnake]
  right
  rw [hsnake]
  exact hasDigit_numbered _ _

/-- A name proposed with a number is never missed. -/
theorem candidate_succ_notMem_missedNames (declared : String) (number : Nat) :
    candidate declared (number + 1) ∉ missedNames := by
  have hall : ∀ word ∈ missedNames, hasDigit word = false := by decide
  intro hmissed
  have hdigit := hasDigit_numbered (snakeName declared) (number + 1)
  rw [← candidate_succ, hall _ hmissed] at hdigit
  exact Bool.false_ne_true hdigit

/-- The names proposed for a parameter all differ. -/
theorem candidate_injective (declared : String) : Function.Injective (candidate declared) := by
  have hzero : ∀ number, candidate declared 0 ≠ candidate declared (number + 1) := by
    intro number h
    rw [candidate_succ] at h
    have hdigit : hasDigit (candidate declared 0) := h ▸ hasDigit_numbered _ _
    have hname : candidate declared 0 = snakeName declared := nameFor_eq_snakeName (Or.inl hdigit)
    -- The number makes the name longer.
    have hlength := congrArg String.length (hname.symm.trans h)
    have hunderscore : "_".length = 1 := rfl
    rw [String.length_append, String.length_append, hunderscore] at hlength
    omega
  intro a b h
  cases a with
  | zero =>
    cases b with
    | zero => rfl
    | succ b => exact absurd h (hzero b)
  | succ a =>
    cases b with
    | zero => exact absurd h.symm (hzero a)
    | succ b =>
      rw [candidate_succ, candidate_succ] at h
      exact append_toString_injective _ h

/-! ### The names given -/

/-- The name found for a parameter is the one proposed with the least number that is not used
yet. -/
theorem exists_freeName_eq (used : List String) (declared : String) :
    ∃ number, freeName used declared = candidate declared number ∧
      IsLeast {k | candidate declared k ∉ used} number := by
  obtain ⟨bound, hbound, hfree⟩ := exists_notMem_of_injective (candidate_injective declared) used
  obtain ⟨number, hfound, hleast⟩ := find?_candidates (candidate declared) (· ∉ used)
    ⟨bound, hbound, decide_eq_true hfree⟩
  refine ⟨number, ?_, by simpa using hleast⟩
  rw [freeName, hfound, Option.getD_some]

/-- The name found for a parameter is not used yet. -/
theorem freeName_notMem (used : List String) (declared : String) :
    freeName used declared ∉ used := by
  obtain ⟨number, hname, hleast⟩ := exists_freeName_eq used declared
  rw [hname]
  exact hleast.1

/-- The first name proposed is used already or found. -/
theorem freeName_eq_nameFor {used : List String} {declared : String}
    (h : nameFor declared ∉ used) : freeName used declared = nameFor declared := by
  obtain ⟨number, hname, hleast⟩ := exists_freeName_eq used declared
  have hzero : number = 0 := Nat.le_zero.mp (hleast.2 h)
  rw [hname, hzero, candidate]

section

variable {used : List String} {params : List (Param NativeType)}

/-- Every name given to a parameter was proposed for one. -/
theorem exists_candidate_of_mem {name : String}
    (h : name ∈ (renameParams used params).map (·.name)) :
    ∃ declared ∈ params.map (·.name), ∃ number, name = candidate declared number := by
  induction params generalizing used with
  | nil => simp [renameParams] at h
  | cons param params ih =>
    rw [renameParams, List.map_cons] at h
    rw [List.map_cons]
    rcases List.mem_cons.mp h with hfirst | hrest
    · obtain ⟨number, hnumber, -⟩ := exists_freeName_eq used param.name
      exact ⟨param.name, List.mem_cons_self, number, hfirst.trans hnumber⟩
    · obtain ⟨declared, hdeclared, hnumber⟩ := ih hrest
      exact ⟨declared, List.mem_cons_of_mem _ hdeclared, hnumber⟩

/-- The first name proposed for a parameter is used: by that parameter, or else by an earlier
one. -/
theorem nameFor_mem_renameParams {declared : String} (h : declared ∈ params.map (·.name)) :
    nameFor declared ∈ used ++ (renameParams used params).map (·.name) := by
  induction params generalizing used with
  | nil => simp at h
  | cons first params ih =>
    rw [renameParams, List.map_cons, ← List.singleton_append, ← List.append_assoc]
    rw [List.map_cons] at h
    rcases List.mem_cons.mp h with hfirst | hrest
    · -- Either an earlier parameter has taken the name, or this one gets it.
      subst hfirst
      by_cases hused : nameFor first.name ∈ used
      · exact List.mem_append_left _ (List.mem_append_left _ hused)
      · have hname := freeName_eq_nameFor hused
        refine List.mem_append_left _ (List.mem_append_right _ ?_)
        simp only [hname, List.mem_singleton]
    · exact ih hrest

end

/-- Every name proposed for a parameter can be used, but for missed names. -/
theorem isUsable_or_missed_candidate {declared : String} (hname : isIdentifier declared)
    (hascii : isAscii declared) (number : Nat) :
    isUsable (candidate declared number) ∨ candidate declared number ∈ missedNames := by
  have hsnake := isWordChars_snakeName hname hascii
  cases number with
  | zero => exact isUsable_or_missed_nameFor hsnake
  | succ number =>
    left
    have hchars : (candidate declared (number + 1)).toList =
        (snakeName declared).toList ++ '_' :: (toString (number + 1)).toList := by
      rw [candidate_succ]
      simp
    have htail : ∀ c ∈ '_' :: (toString (number + 1)).toList, isWordPart c := by
      intro c hc
      rcases List.mem_cons.mp hc with rfl | hc
      · exact isWordPart_underscore
      · have hdigit : c.isDigit := isDigit_of_mem_toString hc
        simp [isWordPart, Char.isAlphanum, hdigit]
    refine isUsable_of_underscore ?_ ?_ ?_
    · rw [hchars]
      exact isWordChars_append hsnake htail
    · simp [hchars]
    · obtain ⟨first, rest, hcons, -⟩ := isWordChars_iff.mp hsnake
      simp [hchars, hcons]

/-- The names of the environment and of the receiver. -/
def receiverNames (method : NativeMethod) : List String :=
  ["env", if method.isStatic then "clazz" else "this"]

/-- The names of the receivers can be used, and none of them is missed. -/
theorem isUsable_of_mem_receiverNames {method : NativeMethod} {name : String}
    (h : name ∈ receiverNames method) : isUsable name := by
  have hall : isUsable "env" ∧ isUsable "clazz" ∧ isUsable "this" := by decide
  obtain ⟨henv, hclazz, hthis⟩ := hall
  rcases List.mem_cons.mp h with heq | h
  · rw [heq]
    exact henv
  · rw [List.mem_singleton.mp h]
    split
    · exact hclazz
    · exact hthis

/-- New names leave the types of parameters as they are. -/
theorem map_type_renameParams (used : List String) (params : List (Param NativeType)) :
    (renameParams used params).map (·.type) = params.map (·.type) := by
  induction params generalizing used with
  | nil => rfl
  | cons param params ih => rw [renameParams, List.map_cons, List.map_cons, ih]

/-- The declared parameters with their native types. -/
def declaredParams (method : NativeMethod) : List (Param NativeType) :=
  method.params.map fun param => ⟨param.name, param.type.nativeType⟩

/-- Declared parameters keep their names. -/
theorem map_name_declaredParams (method : NativeMethod) :
    (declaredParams method).map (·.name) = method.params.map (·.name) := by
  rw [declaredParams, List.map_map]
  rfl

/-- The parameters of a function are the receivers, and the declared ones under new names. -/
theorem map_name_moduleParams (method : NativeMethod) :
    (moduleParams method).map (·.name) = receiverNames method ++
      (renameParams (receiverNames method) (declaredParams method)).map (·.name) := by
  unfold moduleParams NativeMethod.signature receiverNames declaredParams
  cases method.isStatic with
  | true => simp
  | false => simp

/-- The parameters of a function have the types of the native signature. -/
theorem map_type_moduleParams (method : NativeMethod) :
    (moduleParams method).map (·.type) = method.signature.map (·.type) := by
  rw [moduleParams, List.map_append, map_type_renameParams, ← List.map_append,
    List.take_append_drop]

section

variable {method : NativeMethod}

/-- A parameter of a function has the name of a receiver, or one proposed for a declared name. -/
theorem mem_moduleParams_cases {name : String} (h : name ∈ (moduleParams method).map (·.name)) :
    name ∈ receiverNames method ∨
      ∃ param ∈ method.params, ∃ number, name = candidate param.name number := by
  rw [map_name_moduleParams] at h
  rcases List.mem_append.mp h with hreceiver | hrenamed
  · exact Or.inl hreceiver
  · obtain ⟨declared, hdeclared, number, hnumber⟩ := exists_candidate_of_mem hrenamed
    rw [map_name_declaredParams] at hdeclared
    obtain ⟨param, hparam, hname⟩ := List.mem_map.mp hdeclared
    exact Or.inr ⟨param, hparam, number, by rw [hname, hnumber]⟩

/-- The parameters of a function have names that can be used, but for missed names. -/
theorem isUsable_or_missed_of_mem_moduleParams
    (hnames : ∀ param ∈ method.params, isIdentifier param.name)
    (hascii : ∀ param ∈ method.params, isAscii param.name) {name : String}
    (h : name ∈ (moduleParams method).map (·.name)) : isUsable name ∨ name ∈ missedNames := by
  rcases mem_moduleParams_cases h with hreceiver | ⟨param, hparam, number, hnumber⟩
  · exact Or.inl (isUsable_of_mem_receiverNames hreceiver)
  · rw [hnumber]
    exact isUsable_or_missed_candidate (hnames param hparam) (hascii param hparam) number

/-- No parameter of a function has a missed name exactly if no declared parameter does. -/
theorem moduleParams_notMem_missedNames_iff :
    (∀ name ∈ (moduleParams method).map (·.name), name ∉ missedNames) ↔
      ∀ param ∈ method.params, snakeName param.name ∉ missedNames := by
  constructor
  · intro h param hparam
    have hdeclared : param.name ∈ (declaredParams method).map (·.name) := by
      rw [map_name_declaredParams]
      exact List.mem_map.mpr ⟨param, hparam, rfl⟩
    have hused : nameFor param.name ∈ (moduleParams method).map (·.name) := by
      rw [map_name_moduleParams]
      exact nameFor_mem_renameParams hdeclared
    have hmissed := h (nameFor param.name) hused
    rwa [nameFor_mem_missedNames_iff] at hmissed
  · intro h name hname
    rcases mem_moduleParams_cases hname with hreceiver | ⟨param, hparam, number, hnumber⟩
    · exact notMem_missedNames_of_usable (isUsable_of_mem_receiverNames hreceiver)
    · rw [hnumber]
      cases number with
      | zero =>
        rw [candidate, nameFor_mem_missedNames_iff]
        exact h param hparam
      | succ number => exact candidate_succ_notMem_missedNames param.name number

end

end NativeBindings.Binding
