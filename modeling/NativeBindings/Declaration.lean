import NativeBindings.ClassName

/-!
# Class declarations

Classes as a manifest declares them: methods in order of declaration, types still as text.
-/

namespace NativeBindings

/-- A declared parameter; the name is empty where the source does not record it. -/
structure ParamDecl where
  name : String
  type : String
  deriving DecidableEq, Repr

/-- A declared method; only native ones get a binding. -/
structure MethodDecl where
  name : String
  params : List ParamDecl := []
  returns : String := "void"
  isStatic : Bool := false
  isNative : Bool := true
  deriving DecidableEq, Repr

/-- A declared class, by its binary name. -/
structure ClassDecl where
  name : String
  methods : List MethodDecl := []
  deriving DecidableEq, Repr

/-- The declared name as a class name, whether it is one or not. -/
def ClassDecl.className (decl : ClassDecl) : ClassName :=
  ⟨decl.name⟩

end NativeBindings
