import NativeBindings.Declaration
import NativeBindings.Failure

/-!
# Native classes

A class as the backends see it: its native methods, every type resolved, sorted by name and, for
equal names, by position. A method is overloaded if another native method has its name.
-/

namespace NativeBindings

/-- A named parameter. -/
structure Param (α : Type) where
  name : String
  type : α
  deriving DecidableEq, Repr

/-- A native method of a class. -/
structure NativeMethod where
  owner : ClassName
  name : String
  params : List (Param JavaType)
  returns : JavaType
  isStatic : Bool
  isOverloaded : Bool
  /-- The position among all declared methods of the class. -/
  position : Nat
  deriving DecidableEq, Repr

namespace NativeMethod

/-- The types of the declared parameters. -/
def paramTypes (method : NativeMethod) : List JavaType :=
  method.params.map (·.type)

/-- The symbol under which the virtual machine looks the method up. -/
def symbol (method : NativeMethod) : String :=
  Symbol.exported method.owner.qualified method.name method.isOverloaded method.paramTypes

/-- The descriptor of the method. -/
def descriptor (method : NativeMethod) : String :=
  methodDescriptor method.paramTypes method.returns

/-- The parameters of the native function: the environment, the class of a static method or the
object of any other, and the declared parameters. -/
def signature (method : NativeMethod) : List (Param NativeType) :=
  ⟨"env", .environment⟩ ::
    (if method.isStatic then ⟨"clazz", .classRef⟩ else ⟨"this", .object⟩) ::
    method.params.map fun param => ⟨param.name, param.type.nativeType⟩

/-- The native type of the result. -/
def nativeReturn (method : NativeMethod) : NativeType :=
  method.returns.nativeType

end NativeMethod

/-- The native methods of a class. -/
structure NativeClass where
  name : ClassName
  methods : List NativeMethod
  deriving DecidableEq, Repr

namespace ClassDecl

/-- The order of the methods of a class: by name, then by position. -/
def precedes (a b : MethodDecl × Nat) : Bool :=
  a.1.name < b.1.name || (a.1.name = b.1.name && a.2 ≤ b.2)

/-- The native methods with their positions, sorted. -/
def natives (decl : ClassDecl) : List (MethodDecl × Nat) :=
  (decl.methods.zipIdx.filter (·.1.isNative)).mergeSort precedes

/-- Whether several native methods have the name. -/
def overloads (decl : ClassDecl) (name : String) : Bool :=
  decl.methods.countP (fun method => method.isNative && method.name == name) > 1

/-- The name of the class, which has to be a plain class name: no array, no keyword, nothing
around it. -/
def resolveName (decl : ClassDecl) : Except ResolutionCause ClassName :=
  match JavaType.parse decl.name with
  | .ok (.object name) => if name = decl.name then .ok ⟨name⟩ else .error .notAClassName
  | .ok _ => .error .notAClassName
  | .error e => .error (.invalidType e)

end ClassDecl

/-- The name of the parameter at a position; one without a name is numbered. -/
def ParamDecl.resolveName (param : ParamDecl) (position : Nat) : Except ResolutionCause String :=
  if param.name = "" then .ok ("arg" ++ toString position)
  else if isIdentifier param.name then .ok param.name
  else .error (.invalidParamName param.name)

/-- The parameter at a position: its name is looked at first, then its type. -/
def ParamDecl.resolve (param : ParamDecl) (position : Nat) :
    Except ResolutionCause (Param JavaType) := do
  let name ← param.resolveName position
  let type ← (JavaType.parse param.type).mapError .invalidType
  return ⟨name, type⟩

/-- A native method: its name is looked at first, then each parameter, then the return type. -/
def MethodDecl.resolve (method : MethodDecl) (owner : ClassName) (overloaded : Bool)
    (position : Nat) : Except ResolutionCause NativeMethod := do
  if !isIdentifier method.name then
    throw (.invalidMethodName method.name)
  let params ← method.params.zipIdx.mapM fun (param, index) => param.resolve index
  let returns ← (JavaType.parse method.returns).mapError .invalidType
  return {
    owner := owner
    name := method.name
    params := params
    returns := returns
    isStatic := method.isStatic
    isOverloaded := overloaded
    position := position }

/-- Resolve a declared class. The first thing that does not resolve stops it; methods that are
not native never matter. -/
def ClassDecl.resolve (decl : ClassDecl) : Except Failure NativeClass := do
  let name ← decl.resolveName.mapError (.unresolved decl.name none)
  let methods ← decl.natives.mapM fun (method, position) =>
    (method.resolve name (decl.overloads method.name) position).mapError
      (.unresolved decl.name (some method.name))
  return ⟨name, methods⟩

end NativeBindings
