import NativeBindings.NativeClass
import NativeBindings.Proofs.QualifiedName
import NativeBindings.Proofs.WellFormedType

/-!
# What resolution gives

Each step of resolving a class is described once, by when it succeeds and with what. A resolved
method belongs to a class with a qualified name, its own name and those of its parameters are
identifiers, and its types are well formed. The modules on symbols and on generated code start
from these facts and open no resolution again.
-/

namespace NativeBindings

namespace ParamDecl

/-- A parameter keeps an identifier as its name, and is numbered if it has none. -/
theorem resolveName_eq_ok_iff {param : ParamDecl} {position : Nat} {name : String} :
    param.resolveName position = .ok name ↔
      (param.name = "" ∧ name = "arg" ++ toString position) ∨
        (param.name ≠ "" ∧ isIdentifier param.name ∧ name = param.name) := by
  unfold resolveName
  split
  · next hempty =>
    simp only [hempty, Except.ok.injEq, true_and, ne_eq, not_true_eq_false, false_and, or_false]
    exact eq_comm
  · next hempty =>
    split
    · next hname =>
      simp only [hempty, hname, Except.ok.injEq, false_and, ne_eq, not_false_eq_true, true_and,
        false_or]
      exact eq_comm
    · next hname => simp [hempty, hname]

/-- The name of a resolved parameter is an identifier, also one that was numbered. -/
theorem isIdentifier_resolveName {param : ParamDecl} {position : Nat} {name : String}
    (h : param.resolveName position = .ok name) : isIdentifier name := by
  rcases resolveName_eq_ok_iff.mp h with ⟨-, rfl⟩ | ⟨-, hname, rfl⟩
  · refine isIdentifierChars_iff.mpr ⟨'a', 'r' :: 'g' :: (toString position).toList, ?_, ?_, ?_⟩
    · simp
    · decide
    · intro c hc
      rcases List.mem_cons.mp hc with rfl | hc
      · decide
      · rcases List.mem_cons.mp hc with rfl | hc
        · decide
        · exact isIdentifierPart_of_isDigit (isDigit_of_mem_toString hc)
  · exact hname

/-- A parameter resolves if its name and its type do. -/
theorem resolve_eq_ok_iff {param : ParamDecl} {position : Nat} {resolved : Param JavaType} :
    param.resolve position = .ok resolved ↔
      param.resolveName position = .ok resolved.name ∧
        JavaType.parse param.type = .ok resolved.type := by
  unfold resolve
  simp only [bind_eq_ok_iff, mapError_eq_ok_iff]
  constructor
  · intro hparts
    obtain ⟨name, hname, type, htype, h⟩ := hparts
    obtain rfl := Except.ok.inj h
    exact ⟨hname, htype⟩
  · intro hparts
    obtain ⟨hname, htype⟩ := hparts
    exact ⟨resolved.name, hname, resolved.type, htype, rfl⟩

end ParamDecl

/-- A method resolves if its name is an identifier and its parameters and its return type resolve;
all else is taken over. -/
theorem MethodDecl.resolve_eq_ok_iff {method : MethodDecl} {owner : ClassName} {overloaded : Bool}
    {position : Nat} {resolved : NativeMethod} :
    method.resolve owner overloaded position = .ok resolved ↔
      isIdentifier method.name ∧
        List.Forall₂ (fun entry param => entry.1.resolve entry.2 = .ok param)
          method.params.zipIdx resolved.params ∧
        JavaType.parse method.returns = .ok resolved.returns ∧
        resolved.owner = owner ∧ resolved.name = method.name ∧
        resolved.isStatic = method.isStatic ∧ resolved.isOverloaded = overloaded ∧
        resolved.position = position := by
  unfold MethodDecl.resolve
  by_cases hname : isIdentifier method.name
  · simp only [hname, Bool.not_true, Bool.false_eq_true, if_false, bind_eq_ok_iff, mapM_eq_ok_iff,
       mapError_eq_ok_iff, true_and]
    constructor
    · intro hparts
      obtain ⟨params, hparams, returns, hreturns, h⟩ := hparts
      obtain rfl := Except.ok.inj h
      exact ⟨hparams, hreturns, rfl, rfl, rfl, rfl, rfl⟩
    · obtain ⟨owner', name, params, returns, isStatic, isOverloaded, position'⟩ := resolved
      intro hparts
      obtain ⟨hparams, hreturns, rfl, rfl, rfl, rfl, rfl⟩ := hparts
      exact ⟨params, hparams, returns, hreturns, rfl⟩
  · simp [hname, throw, throwThe, MonadExceptOf.throw, bind, Except.bind]

/-- The parameter types of a resolved method are those that the declared ones read as. -/
theorem MethodDecl.map_parse_params {method : MethodDecl} {owner : ClassName} {overloaded : Bool}
    {position : Nat} {resolved : NativeMethod}
    (h : method.resolve owner overloaded position = .ok resolved) :
    method.params.map (fun param => JavaType.parse param.type) =
      resolved.paramTypes.map Except.ok := by
  have hread : ∀ {entries : List (ParamDecl × Nat)} {params : List (Param JavaType)},
      List.Forall₂ (fun entry param => entry.1.resolve entry.2 = .ok param) entries params →
        (entries.map Prod.fst).map (fun param => JavaType.parse param.type) =
          (params.map (·.type)).map Except.ok := by
    intro entries params hrelated
    induction hrelated with
    | nil => rfl
    | cons hhead _ ih =>
      simp only [List.map_cons, ih, (ParamDecl.resolve_eq_ok_iff.mp hhead).2]
  have hparams := hread (MethodDecl.resolve_eq_ok_iff.mp h).2.1
  rwa [List.zipIdx_map_fst] at hparams

namespace ClassDecl

/-- The native methods of a class stand at their positions in the declaration. -/
theorem mem_natives {decl : ClassDecl} {method : MethodDecl} {position : Nat} :
    (method, position) ∈ decl.natives ↔
      decl.methods[position]? = some method ∧ method.isNative := by
  rw [natives, List.mem_mergeSort, List.mem_filter, List.mem_zipIdx_iff_getElem?]

/-- A class that resolves keeps its declared name, which is a qualified name. -/
theorem resolveName_eq_ok {decl : ClassDecl} {name : ClassName} (h : decl.resolveName = .ok name) :
    name = decl.className ∧ isQualifiedName decl.name := by
  unfold resolveName at h
  split at h
  · next written hparse =>
    split at h
    · next heq =>
      obtain rfl := Except.ok.inj h
      subst heq
      exact ⟨rfl, JavaType.isWellFormed_parse hparse⟩
    · contradiction
  · contradiction
  · contradiction

/-- A class resolves if its name and, in order, all its native methods do. -/
theorem resolve_eq_ok_iff {decl : ClassDecl} {c : NativeClass} :
    decl.resolve = .ok c ↔
      decl.resolveName = .ok c.name ∧
        List.Forall₂ (fun entry method =>
            entry.1.resolve c.name (decl.overloads entry.1.name) entry.2 = .ok method)
          decl.natives c.methods := by
  unfold resolve
  simp only [bind_eq_ok_iff, mapError_eq_ok_iff, mapM_eq_ok_iff]
  constructor
  · intro hparts
    obtain ⟨name, hname, methods, hmethods, h⟩ := hparts
    obtain rfl := Except.ok.inj h
    exact ⟨hname, hmethods⟩
  · intro hparts
    obtain ⟨hname, hmethods⟩ := hparts
    exact ⟨c.name, hname, c.methods, hmethods, rfl⟩

/-- Every method of a resolved class comes from a native method of the declaration. -/
theorem exists_native_of_mem {decl : ClassDecl} {c : NativeClass} (h : decl.resolve = .ok c)
    {method : NativeMethod} (hmethod : method ∈ c.methods) :
    ∃ entry ∈ decl.natives,
      entry.1.resolve c.name (decl.overloads entry.1.name) entry.2 = .ok method :=
  exists_mem_of_forall₂ (resolve_eq_ok_iff.mp h).2 hmethod

end ClassDecl

/-- What holds of every resolved method: its names are names, and its types are well formed. -/
structure NativeMethod.IsWellFormed (method : NativeMethod) : Prop where
  owner : isQualifiedName method.owner.qualified
  name : isIdentifier method.name
  paramNames : ∀ param ∈ method.params, isIdentifier param.name
  paramTypes : ∀ type ∈ method.paramTypes, type.isWellFormed
  returns : method.returns.isWellFormed

namespace ClassDecl

variable {decl : ClassDecl} {c : NativeClass} {method : NativeMethod}

/-- A resolved class has the declared name. -/
theorem name_of_resolve (h : decl.resolve = .ok c) : c.name = decl.className :=
  (resolveName_eq_ok (resolve_eq_ok_iff.mp h).1).1

/-- The methods of a resolved class belong to it. -/
theorem owner_of_resolve (h : decl.resolve = .ok c) (hmethod : method ∈ c.methods) :
    method.owner = c.name := by
  obtain ⟨entry, -, hentry⟩ := exists_native_of_mem h hmethod
  exact (MethodDecl.resolve_eq_ok_iff.mp hentry).2.2.2.1

/-- A resolved method is overloaded exactly if the declaration has its name several times. -/
theorem isOverloaded_of_resolve (h : decl.resolve = .ok c) (hmethod : method ∈ c.methods) :
    method.isOverloaded = decl.overloads method.name := by
  obtain ⟨entry, -, hentry⟩ := exists_native_of_mem h hmethod
  obtain ⟨-, -, -, -, hname, -, hoverloaded, -⟩ := MethodDecl.resolve_eq_ok_iff.mp hentry
  rw [hoverloaded, hname]

/-- The methods of a resolved class are well formed. -/
theorem isWellFormed_of_resolve (h : decl.resolve = .ok c) (hmethod : method ∈ c.methods) :
    method.IsWellFormed := by
  obtain ⟨entry, -, hentry⟩ := exists_native_of_mem h hmethod
  obtain ⟨hname, hparams, hreturns, -, hsame, -⟩ := MethodDecl.resolve_eq_ok_iff.mp hentry
  have hparam : ∀ param ∈ method.params, isIdentifier param.name ∧ param.type.isWellFormed := by
    intro param hparam
    obtain ⟨declared, -, hdeclared⟩ := exists_mem_of_forall₂ hparams hparam
    obtain ⟨hparamName, hparamType⟩ := ParamDecl.resolve_eq_ok_iff.mp hdeclared
    exact ⟨ParamDecl.isIdentifier_resolveName hparamName, JavaType.isWellFormed_parse hparamType⟩
  obtain ⟨hclass, hqualified⟩ := resolveName_eq_ok (resolve_eq_ok_iff.mp h).1
  constructor
  · rw [owner_of_resolve h hmethod, hclass]
    exact hqualified
  · rw [hsame]
    exact hname
  · exact fun param hmem => (hparam param hmem).1
  · intro type htype
    obtain ⟨param, hmem, rfl⟩ := List.mem_map.mp htype
    exact (hparam param hmem).2
  · exact JavaType.isWellFormed_parse hreturns

end ClassDecl

end NativeBindings
