/-!
# Types of the native-call interface

The closed set of types that a native function can receive or return.
-/

namespace NativeBindings

/-- The types that appear in the signature of a native function. -/
inductive NativeType
  /-- The environment handle, which every native function receives first. -/
  | environment
  | void
  | boolean
  | byte
  | char
  | short
  | int
  | long
  | float
  | double
  | booleanArray
  | byteArray
  | charArray
  | shortArray
  | intArray
  | longArray
  | floatArray
  | doubleArray
  /-- Any array whose elements are not primitive values. -/
  | objectArray
  | classRef
  | string
  | object
  deriving DecidableEq, Repr

namespace NativeType

/-- Every native type, in the order of declaration. -/
def all : List NativeType :=
  [environment, void, boolean, byte, char, short, int, long, float, double, booleanArray,
    byteArray, charArray, shortArray, intArray, longArray, floatArray, doubleArray, objectArray,
    classRef, string, object]

/-- The name of the type in the native interface. -/
def name : NativeType → String
  | environment => "JNIEnv"
  | void => "void"
  | boolean => "jboolean"
  | byte => "jbyte"
  | char => "jchar"
  | short => "jshort"
  | int => "jint"
  | long => "jlong"
  | float => "jfloat"
  | double => "jdouble"
  | booleanArray => "jbooleanArray"
  | byteArray => "jbyteArray"
  | charArray => "jcharArray"
  | shortArray => "jshortArray"
  | intArray => "jintArray"
  | longArray => "jlongArray"
  | floatArray => "jfloatArray"
  | doubleArray => "jdoubleArray"
  | objectArray => "jobjectArray"
  | classRef => "jclass"
  | string => "jstring"
  | object => "jobject"

/-- The type with a given name. -/
def ofName? (name : String) : Option NativeType :=
  all.find? (·.name == name)

/-- Values passed directly; `void` counts among them, so that it shares their zero value. -/
def isScalar : NativeType → Bool
  | void | boolean | byte | char | short | int | long | float | double => true
  | _ => false

/-- Values that are references to objects of the virtual machine. -/
def isReference (type : NativeType) : Bool :=
  !type.isScalar && type != environment

end NativeType

end NativeBindings
