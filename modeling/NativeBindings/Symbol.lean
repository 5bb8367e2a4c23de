import NativeBindings.JavaType.Descriptor

/-!
# Exported symbols

The virtual machine looks a native method up under the name `Java_`, the escaped class name, `_`
and the escaped method name. Where several native methods of a class share a name, each symbol
goes on with `__` and the escaped descriptors of its parameters.

| character | escaped |
|-----------|---------|
| `_` | `_1` |
| `;` | `_2` |
| `[` | `_3` |
| `.`, and `/` in descriptors | `_` |
-/

namespace NativeBindings.Symbol

/-- The escaped form of one character of a name. -/
def escapeChar (c : Char) : List Char :=
  if c = '_' then ['_', '1']
  else if c = ';' then ['_', '2']
  else if c = '[' then ['_', '3']
  else if c = '.' then ['_']
  else [c]

/-- Escape the characters of a name. -/
def escapeChars (cs : List Char) : List Char :=
  cs.flatMap escapeChar

/-- Escaping goes character by character. -/
theorem escapeChars_append (a b : List Char) :
    escapeChars (a ++ b) = escapeChars a ++ escapeChars b :=
  List.flatMap_append

/-- Escape the characters of a descriptor, whose slashes count as dots. -/
def escapeDescriptorChars (cs : List Char) : List Char :=
  escapeChars (Text.substitute '/' '.' cs)

/-- Undo the escapes of a descriptor; an underscore that opens no escape is a slash. -/
def unescapeChars : List Char → List Char
  | [] => []
  | '_' :: '1' :: rest => '_' :: unescapeChars rest
  | '_' :: '2' :: rest => ';' :: unescapeChars rest
  | '_' :: '3' :: rest => '[' :: unescapeChars rest
  | c :: rest => (if c = '_' then '/' else c) :: unescapeChars rest

/-- The symbol of a native method; the parameter types count only if the method is overloaded. -/
def exportChars (owner method : List Char) (overloaded : Bool) (params : List JavaType) :
    List Char :=
  "Java_".toList ++ escapeChars owner ++ '_' :: escapeChars method ++
    if overloaded then '_' :: '_' :: escapeDescriptorChars (descriptorsChars params) else []

/-- What follows the first `__` of a symbol that no `1` follows: the escaped parameter
descriptors. The underscores of `__1` are a joint and an escaped underscore. -/
def suffixChars : List Char → Option (List Char)
  | [] => none
  | '_' :: '_' :: '1' :: rest => suffixChars rest
  | '_' :: '_' :: rest => some rest
  | _ :: rest => suffixChars rest

/-- Escape a name. -/
def escape (name : String) : String :=
  String.ofList (escapeChars name.toList)

/-- Escape a descriptor. -/
def escapeDescriptor (descriptor : String) : String :=
  String.ofList (escapeDescriptorChars descriptor.toList)

/-- Undo the escapes of a descriptor. -/
def unescape (escaped : String) : String :=
  String.ofList (unescapeChars escaped.toList)

/-- The symbol of a native method of the class `owner`. -/
def exported (owner method : String) (overloaded : Bool) (params : List JavaType) : String :=
  String.ofList (exportChars owner.toList method.toList overloaded params)

/-- The escaped parameter descriptors of an overloaded method's symbol. -/
def overloadSuffix? (symbol : String) : Option String :=
  (suffixChars symbol.toList).map String.ofList

/-- The parameter types that an overloaded method's symbol carries. -/
def signature? (symbol : String) : Except TypeNameError (Option (List JavaType)) :=
  match overloadSuffix? symbol with
  | none => .ok none
  | some suffix => (JavaType.readDescriptors (unescape suffix)).map some

end NativeBindings.Symbol
