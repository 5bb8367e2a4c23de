import NativeBindings.Proofs.ParameterNames

/-!
# Fresh names of parameters

Parameters get their names one after the other, and each name is free at its turn. The names in use
grow by what has been given away, so a name with a number is out of reach of a later parameter that
is declared with that very name. Whatever is declared, the names of a function all differ in the
end, and nothing but the names has changed.
-/

namespace NativeBindings.Binding

/-- The name at a position is the one with the least number, of those proposed for a declared name,
that no earlier position has. The search for it ends, and ends with no other name. -/
def IsFirstFree (names : List String) (position : Nat) (declared : String) : Prop :=
  ∃ number, names[position]? = some (candidate declared number) ∧
    IsLeast {k | candidate declared k ∉ names.take position} number ∧
    ∀ name, SearchEnds (candidate declared) (names.take position) 0 name ↔
      name = candidate declared number

/-- What is found for a declared name at the end of some names is the first that is free there. -/
theorem isFirstFree_freeName (used : List String) (declared : String) (later : List String) :
    IsFirstFree (used ++ freeName used declared :: later) used.length declared := by
  obtain ⟨number, hname, hleast⟩ := exists_freeName_eq used declared
  have hearlier : (used ++ freeName used declared :: later).take used.length = used :=
    List.take_left
  refine ⟨number, ?_, ?_, fun name => ?_⟩
  · rw [List.getElem?_append_right le_rfl, Nat.sub_self, List.getElem?_cons_zero, hname]
  · rw [hearlier]
    exact hleast
  · rw [hearlier]
    exact searchEnds_iff hleast

/-- One parameter after the other gets the first name that is free at its position. -/
theorem isFirstFree_renameParams (used : List String) {params : List (Param NativeType)} {i : Nat}
    {declared : String} (h : (params.map (·.name))[i]? = some declared) :
    IsFirstFree (used ++ (renameParams used params).map (·.name)) (used.length + i) declared := by
  -- What is in use grows by the name of each parameter that is passed.
  induction params generalizing used i with
  | nil => simp at h
  | cons first params ih =>
    rw [renameParams, List.map_cons]
    cases i with
    | zero =>
      obtain rfl : first.name = declared := by simpa using h
      exact isFirstFree_freeName used first.name _
    | succ i =>
      have hrest := ih (used ++ [freeName used first.name]) (by simpa using h)
      rwa [List.append_assoc, List.singleton_append, List.length_append, List.length_singleton,
        Nat.add_assoc, Nat.add_comm 1 i] at hrest

/-- Names given to parameters differ from each other and from those in use. -/
theorem nodup_renameParams {used : List String} (h : used.Nodup)
    (params : List (Param NativeType)) :
    (used ++ (renameParams used params).map (·.name)).Nodup := by
  induction params generalizing used with
  | nil => simpa [renameParams] using h
  | cons first params ih =>
    have hrest := ih (h.concat (freeName_notMem used first.name))
    rwa [List.concat_eq_append, List.append_assoc, List.singleton_append] at hrest

/-- The environment and the receiver have different names. -/
theorem nodup_receiverNames (method : NativeMethod) : (receiverNames method).Nodup := by
  unfold receiverNames
  cases method.isStatic with
  | true => decide
  | false => decide

/-- The parameters of a generated function are those of the native signature, with the same types in
the same order, under names that all differ. The environment and the receiver keep theirs. Every
other parameter has the first name proposed for it that no parameter before it has, and the search
for this name ends. -/
theorem moduleParams_fresh (method : NativeMethod) :
    (moduleParams method).length = method.signature.length ∧
      (moduleParams method).map (·.type) = method.signature.map (·.type) ∧
      (moduleParams method).take 2 = method.signature.take 2 ∧
      ((moduleParams method).map (·.name)).take 2 = receiverNames method ∧
      ((moduleParams method).map (·.name)).Nodup ∧
      ∀ i param, method.params[i]? = some param →
        IsFirstFree ((moduleParams method).map (·.name)) (2 + i) param.name := by
  have htypes := map_type_moduleParams method
  have hnames := map_name_moduleParams method
  have hreceivers : (receiverNames method).length = 2 := rfl
  refine ⟨?_, htypes, ?_, ?_, ?_, fun i param hparam => ?_⟩
  · simpa using congrArg List.length htypes
  · rw [moduleParams, List.take_append_of_le_length (by simp [NativeMethod.signature]),
      List.take_take, Nat.min_self]
  · rw [hnames, ← hreceivers, List.take_left]
  · rw [hnames]
    exact nodup_renameParams (nodup_receiverNames method) (declaredParams method)
  · rw [hnames, ← hreceivers]
    have hdeclared : ((declaredParams method).map (·.name))[i]? = some param.name := by
      rw [map_name_declaredParams, List.getElem?_map, hparam, Option.map_some]
    exact isFirstFree_renameParams (receiverNames method) hdeclared

/-- A name with a number is taken from the parameter that declares it. -/
example : (renameParams ["env", "this"] [⟨"foo_bar", .int⟩, ⟨"fooBar", .int⟩, ⟨"foo_bar_1", .int⟩,
    ⟨"this", .int⟩]).map (·.name) = ["foo_bar", "foo_bar_1", "foo_bar_1_1", "this_1"] := by
  decide

end NativeBindings.Binding
