import NativeBindings.Binding.Spelling
import NativeBindings.NativeClass

/-!
# Binding modules

The module generated for a class: a trait with one method for every native method, and one
exported function each that calls it. The module is built as data first. Only then is it written
out, line by line.
-/

namespace NativeBindings.Binding

/-- The name of the trait method behind a native method. Overloads have one Java name, so each
goes on with its escaped signature, in which the case of letters is kept. -/
def traitMethodName (method : NativeMethod) : String :=
  match Symbol.overloadSuffix? method.symbol with
  | some signature =>
    if method.isOverloaded then snakeName method.name ++ "__" ++ signature
    else nameFor method.name
  | none => nameFor method.name

/-- The name proposed for a parameter: its own at first, then with a number. -/
def candidate (declared : String) : Nat → String
  | 0 => nameFor declared
  | number + 1 => nameFor (declared ++ "_" ++ toString (number + 1))

/-- The first proposed name that is not used yet. One of the first `used.length + 1` is free,
since they all differ. -/
def freeName (used : List String) (declared : String) : String :=
  (((List.range (used.length + 1)).map (candidate declared)).find? (· ∉ used)).getD
    (candidate declared used.length)

/-- Give parameters names that differ from those used before and from each other. -/
def renameParams (used : List String) : List (Param NativeType) → List (Param NativeType)
  | [] => []
  | param :: rest =>
    let name := freeName used param.name
    ⟨name, param.type⟩ :: renameParams (used ++ [name]) rest

/-- The parameters of the native function, with names that the generated code accepts. The first
two keep theirs. -/
def moduleParams (method : NativeMethod) : List (Param NativeType) :=
  let params := method.signature
  let receivers := params.take 2
  receivers ++ renameParams (receivers.map (·.name)) (params.drop 2)

/-- A native method in the generated module. -/
structure Function where
  traitMethod : String
  symbol : String
  params : List (Param NativeType)
  returns : NativeType
  placeholder : String
  deriving DecidableEq, Repr

/-- The module generated for a class. -/
structure Module where
  implModule : String
  traitName : String
  functions : List Function
  deriving DecidableEq, Repr

/-- The type that implements the trait. -/
def Module.implType (m : Module) : String :=
  m.traitName ++ "Impl"

/-- Why a method has no form in the module, given the names of the trait methods before it. -/
def methodFault? (earlier : List String) (method : NativeMethod) : Option UnsupportedCause :=
  if '$' ∈ method.symbol.toList then some .dollarInSymbol
  else match method.params.find? (·.type.isVoid) with
    | some param => some (.voidParam param.name)
    | none =>
      if traitMethodName method ∈ earlier then some (.repeatedTraitMethod (traitMethodName method))
      else none

/-- Check methods in order, given the names of the trait methods before them. -/
def checkMethods (className : String) (earlier : List String) :
    List NativeMethod → Except Failure Unit
  | [] => .ok ()
  | method :: rest =>
    match methodFault? earlier method with
    | some cause => .error (.unsupported className (some method.name) cause)
    | none => checkMethods className (traitMethodName method :: earlier) rest

/-- Refuse a class with a declaration that has no valid form in the module. A dollar sign passes
through escaping and stands in no name of the generated code, and `void` is only a result. -/
def checkClass (c : NativeClass) : Except Failure Unit :=
  if '$' ∈ c.name.qualified.toList then
    .error (.unsupported c.name.qualified none .dollarInClassName)
  else checkMethods c.name.qualified [] c.methods

/-- A native method of the class in the module. -/
def functionOf (c : NativeClass) (method : NativeMethod) : Except Failure Function :=
  match placeholder? method.nativeReturn with
  | none => .error (.unsupported c.name.qualified (some method.name) .noPlaceholder)
  | some placeholder => .ok {
      traitMethod := traitMethodName method
      symbol := method.symbol
      params := moduleParams method
      returns := method.nativeReturn
      placeholder := placeholder }

/-- The module of a class, whose implementation stands in the submodule `implModule`. -/
def moduleOf (implModule : String) (c : NativeClass) : Except Failure Module := do
  checkClass c
  match rawName? implModule with
  | none => throw (.config (.reservedImplModule implModule))
  | some implModule =>
    let functions ← c.methods.mapM (functionOf c)
    return ⟨implModule, "Jni" ++ c.name.simple, functions⟩

end NativeBindings.Binding
