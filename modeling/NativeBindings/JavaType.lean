import NativeBindings.NativeType
import NativeBindings.Text

/-!
# Java types

Primitive types, arrays and classes; how a type is displayed, how it is written in a descriptor,
and which native type its values have.

| Java type | native type |
|-----------|-------------|
| `int` | `jint` |
| `int[]` | `jintArray` |
| `int[][]` | `jobjectArray` |
| `java.lang.String` | `jstring` |
| `java.lang.Class` | `jclass` |
| `java.lang.String[]` | `jobjectArray` |
| any other class | `jobject` |
-/

namespace NativeBindings

/-- The types written with a keyword. -/
inductive Primitive
  | void | boolean | byte | char | short | int | long | float | double
  deriving DecidableEq, Repr

namespace Primitive

/-- Every primitive type, in the order of declaration. -/
def all : List Primitive :=
  [void, boolean, byte, char, short, int, long, float, double]

/-- The keyword of the type. -/
def keyword : Primitive → String
  | void => "void"
  | boolean => "boolean"
  | byte => "byte"
  | char => "char"
  | short => "short"
  | int => "int"
  | long => "long"
  | float => "float"
  | double => "double"

/-- The letter that stands for the type in a descriptor. -/
def letter : Primitive → Char
  | void => 'V'
  | boolean => 'Z'
  | byte => 'B'
  | char => 'C'
  | short => 'S'
  | int => 'I'
  | long => 'J'
  | float => 'F'
  | double => 'D'

/-- The type with a given keyword. -/
def ofKeyword? (keyword : String) : Option Primitive :=
  all.find? (·.keyword == keyword)

/-- The type with a given descriptor letter. -/
def ofLetter? (letter : Char) : Option Primitive :=
  all.find? (·.letter == letter)

/-- The native type of a value. -/
def nativeType : Primitive → NativeType
  | void => .void
  | boolean => .boolean
  | byte => .byte
  | char => .char
  | short => .short
  | int => .int
  | long => .long
  | float => .float
  | double => .double

/-- The native type of an array of such values; there is no special one for `void`. -/
def arrayType : Primitive → NativeType
  | void => .objectArray
  | boolean => .booleanArray
  | byte => .byteArray
  | char => .charArray
  | short => .shortArray
  | int => .intArray
  | long => .longArray
  | float => .floatArray
  | double => .doubleArray

end Primitive

/-- The type of a Java value. -/
inductive JavaType
  | primitive (kind : Primitive)
  | array (element : JavaType)
  /-- A class, by its binary name (`java.lang.String`, `a.Outer$Inner`). -/
  | object (name : String)
  deriving DecidableEq, Repr

namespace JavaType

/-- The type of a method that returns nothing. -/
def void : JavaType :=
  primitive .void

/-- Whether a type is `void` itself. -/
def isVoid (type : JavaType) : Bool :=
  type = void

/-- The class whose values have a native type of their own for text. -/
def stringClass : String :=
  "java.lang.String"

/-- The class whose values have a native type of their own for classes. -/
def classClass : String :=
  "java.lang.Class"

/-- A type under so many levels of array. -/
def arrayOf : Nat → JavaType → JavaType
  | 0, type => type
  | levels + 1, type => array (arrayOf levels type)

/-- The innermost element type. -/
def base : JavaType → JavaType
  | array element => element.base
  | type => type

/-- The number of array levels. -/
def levels : JavaType → Nat
  | array element => element.levels + 1
  | _ => 0

/-- The levels and the innermost element determine a type. -/
theorem arrayOf_levels_base (type : JavaType) : arrayOf type.levels type.base = type := by
  induction type with
  | primitive kind => rfl
  | array element ih => simp [levels, base, arrayOf, ih]
  | object name => rfl

/-- A type as it is written in a declaration. -/
def display : JavaType → String
  | primitive kind => kind.keyword
  | array element => element.display ++ "[]"
  | object name => name

/-- The characters of a type in a descriptor: a letter, `[` and the element, or `L`, the name
with slashes, and `;`. -/
def descriptorChars : JavaType → List Char
  | primitive kind => [kind.letter]
  | array element => '[' :: element.descriptorChars
  | object name => 'L' :: (Text.substitute '.' '/' name.toList ++ [';'])

/-- A type as it is written in a descriptor. -/
def descriptor (type : JavaType) : String :=
  String.ofList type.descriptorChars

/-- The native type of a value. Only the first array level counts: an array of arrays is an array
of objects. -/
def nativeType : JavaType → NativeType
  | primitive kind => kind.nativeType
  | array (primitive kind) => kind.arrayType
  | array _ => .objectArray
  | object name =>
    if name = stringClass then .string else if name = classClass then .classRef else .object

end JavaType

/-- The descriptors of several types, one after the other. -/
def descriptorsChars (types : List JavaType) : List Char :=
  types.flatMap JavaType.descriptorChars

/-- The descriptor of a method: the parameter types in parentheses, then the return type. -/
def methodDescriptor (params : List JavaType) (returns : JavaType) : String :=
  String.ofList ('(' :: (descriptorsChars params ++ ')' :: returns.descriptorChars))

end NativeBindings
