import NativeBindings.Binding.Module

/-!
# Writing binding modules

The lines of a binding module, and its text.
-/

namespace NativeBindings.Binding

/-- Parameters as they are declared. -/
def paramList (inTrait : Bool) (params : List (Param NativeType)) : String :=
  String.intercalate ", "
    (params.map fun param => param.name ++ ": " ++ paramSpelling inTrait param.type)

/-- The lines of the helper that throws the error of an implementation as an exception. -/
def throwHelper : List String :=
  ["macro_rules! wrap_error \x7b",
    "    ($env:expr, $body:expr, $default:expr) => \x7b",
    "        match $body \x7b",
    "            Ok(v) => v,",
    "            Err(e) => \x7b",
    "                if let Err(err) = $env.throw(e) \x7b",
    "                    $env.exception_describe().ok();",
    "                    panic!(\"error in throwing exception: \x7b\x7d\", err);",
    "                \x7d",
    "                $default",
    "            \x7d",
    "        \x7d",
    "    \x7d;",
    "\x7d"]

namespace Function

/-- The line of the trait method. -/
def traitLine (f : Function) : String :=
  "    fn " ++ f.traitMethod ++ "(" ++ paramList true f.params ++ ") -> Result<" ++
    rawSpelling f.returns ++ ", Self::Error>;"

/-- The header of the exported function. -/
def exportLine (f : Function) : String :=
  "extern \"system\" fn " ++ f.symbol ++ "(mut " ++ paramList false f.params ++ ")" ++
    returnSign f.returns ++ " \x7b"

/-- The arguments that the exported function passes on. -/
def arguments (f : Function) : List String :=
  "&mut env" :: (f.params.drop 1).map (·.name)

/-- The body of the exported function. -/
def bodyLine (implType : String) (f : Function) : String :=
  "    wrap_error!(env, " ++ implType ++ "::" ++ f.traitMethod ++ "(" ++
    String.intercalate ", " f.arguments ++ "), " ++ f.placeholder ++ ")"

/-- The lines of the exported function, and an empty one. -/
def exportLines (implType : String) (f : Function) : List String :=
  ["#[unsafe(no_mangle)]", f.exportLine, f.bodyLine implType, "\x7d", ""]

end Function

namespace Module

/-- The lines before the trait. -/
def opening (m : Module) : List String :=
  ["// THIS FILE IS GENERATED AUTOMATICALLY. DO NOT EDIT!",
    "#![allow(non_snake_case)]",
    "",
    "mod " ++ m.implModule ++ ";",
    "",
    "use jni::descriptors::Desc;",
    "use jni::objects::*;",
    "use jni::sys::*;",
    "use jni::JNIEnv;",
    "use self::" ++ m.implModule ++ "::" ++ m.implType ++ ";",
    ""] ++ throwHelper ++ [""]

/-- The lines of the trait, and an empty one. -/
def traitLines (m : Module) : List String :=
  ["trait " ++ m.traitName ++ "<'a> \x7b", "    type Error: Desc<'a, JThrowable<'a>>;"] ++
    m.functions.map Function.traitLine ++ ["\x7d", ""]

/-- The lines of the module. -/
def lines (m : Module) : List String :=
  m.opening ++ m.traitLines ++ m.functions.flatMap (Function.exportLines m.implType)

/-- The text of the module. -/
def text (m : Module) : String :=
  String.join (m.lines.map (· ++ "\n"))

end Module

/-- The text of the module of a class. -/
def render (implModule : String) (c : NativeClass) : Except Failure String :=
  (moduleOf implModule c).map Module.text

end NativeBindings.Binding
