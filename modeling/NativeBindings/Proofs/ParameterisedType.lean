import NativeBindings.Proofs.TypeErasure

/-!
# Parameterised types

The type arguments of a class form a grammar of their own: class names with or without type
arguments, arrays, and wildcards with or without a bound. The angle brackets of such a text are well
nested, so it is a name with type arguments, and reading erases them. But square brackets are looked
for before that: a parameterised type is refused exactly if an array stands among its arguments, at
whatever depth.
-/

namespace NativeBindings.JavaType

/-! ### The grammar of type arguments -/

mutual

/-- A type that a type argument may name. -/
inductive ArgumentType
  | named (name : QualifiedName)
  | parameterised (name : QualifiedName) (arguments : ArgumentList)
  | primitiveArray (element : Primitive)
  | array (element : ArgumentType)

/-- One or more type arguments. -/
inductive ArgumentList
  | last (argument : Argument)
  | more (argument : Argument) (rest : ArgumentList)

/-- A type argument: one type, any type, or any type on one side of a bound. -/
inductive Argument
  | exactly (type : ArgumentType)
  | wildcard
  | atMost (bound : ArgumentType)
  | atLeast (bound : ArgumentType)

end

mutual

/-- The characters of a type. -/
def ArgumentType.chars : ArgumentType → List Char
  | .named name => name.val.toList
  | .parameterised name arguments => name.val.toList ++ '<' :: (arguments.chars ++ ['>'])
  | .primitiveArray element => element.keyword.toList ++ ['[', ']']
  | .array element => element.chars ++ ['[', ']']

/-- The characters of type arguments. -/
def ArgumentList.chars : ArgumentList → List Char
  | .last argument => argument.chars
  | .more argument rest => argument.chars ++ ',' :: ' ' :: rest.chars

/-- The characters of a type argument. -/
def Argument.chars : Argument → List Char
  | .exactly type => type.chars
  | .wildcard => ['?']
  | .atMost bound => "? extends ".toList ++ bound.chars
  | .atLeast bound => "? super ".toList ++ bound.chars

end

mutual

/-- Whether an array stands anywhere in a type. -/
def ArgumentType.hasArray : ArgumentType → Bool
  | .named _ => false
  | .parameterised _ arguments => arguments.hasArray
  | .primitiveArray _ => true
  | .array _ => true

/-- Whether an array stands anywhere in type arguments. -/
def ArgumentList.hasArray : ArgumentList → Bool
  | .last argument => argument.hasArray
  | .more argument rest => argument.hasArray || rest.hasArray

/-- Whether an array stands anywhere in a type argument. -/
def Argument.hasArray : Argument → Bool
  | .exactly type => type.hasArray
  | .wildcard => false
  | .atMost bound => bound.hasArray
  | .atLeast bound => bound.hasArray

end

/-! ### Angle brackets -/

/-- A text without angle brackets is well nested. -/
theorem IsNested.of_notMem {cs : List Char} (hopen : '<' ∉ cs) (hclose : '>' ∉ cs) :
    IsNested cs := by
  induction cs with
  | nil => exact .nil
  | cons c cs ih =>
    rw [List.mem_cons, not_or] at hopen hclose
    exact .plain (Ne.symm hopen.1) (Ne.symm hclose.1) (ih hopen.2 hclose.2)

/-- Well-nested texts may be joined. -/
theorem IsNested.append {cs rest : List Char} (hcs : IsNested cs) (hrest : IsNested rest) :
    IsNested (cs ++ rest) := by
  induction hcs with
  | nil => exact hrest
  | plain hopen hclose _ ih => exact .plain hopen hclose ih
  | group hinner _ _ ih =>
    rw [List.cons_append, List.append_assoc, List.cons_append]
    exact .group hinner ih

/-- A qualified name is well nested. -/
theorem isNested_name (name : QualifiedName) : IsNested name.val.toList :=
  IsNested.of_notMem (notMem_of_isQualifiedChars name.property (by decide) (by decide))
    (notMem_of_isQualifiedChars name.property (by decide) (by decide))

/-- Brackets of an array are well nested. -/
theorem isNested_brackets : IsNested ['[', ']'] :=
  IsNested.of_notMem (by decide) (by decide)

mutual

/-- The angle brackets of a type are well nested. -/
theorem ArgumentType.isNested_chars (type : ArgumentType) : IsNested type.chars := by
  cases type with
  | named name => exact isNested_name name
  | parameterised name arguments =>
    exact (isNested_name name).append (.group arguments.isNested_chars .nil)
  | primitiveArray element =>
    have helement := isNested_name ⟨element.keyword, element.isQualifiedName_keyword⟩
    exact helement.append isNested_brackets
  | array element => exact element.isNested_chars.append isNested_brackets

/-- The angle brackets of type arguments are well nested. -/
theorem ArgumentList.isNested_chars (arguments : ArgumentList) : IsNested arguments.chars := by
  cases arguments with
  | last argument => exact argument.isNested_chars
  | more argument rest =>
    have hcomma : IsNested [',', ' '] := IsNested.of_notMem (by decide) (by decide)
    exact argument.isNested_chars.append (hcomma.append rest.isNested_chars)

/-- The angle brackets of a type argument are well nested. -/
theorem Argument.isNested_chars (argument : Argument) : IsNested argument.chars := by
  cases argument with
  | exactly type => exact type.isNested_chars
  | wildcard => exact IsNested.of_notMem (by decide) (by decide)
  | atMost bound =>
    have hextends : IsNested "? extends ".toList := IsNested.of_notMem (by decide) (by decide)
    exact hextends.append bound.isNested_chars
  | atLeast bound =>
    have hsuper : IsNested "? super ".toList := IsNested.of_notMem (by decide) (by decide)
    exact hsuper.append bound.isNested_chars

end

/-! ### Square brackets -/

/-- Whether square brackets stand among the characters. -/
def hasSquareBracket (cs : List Char) : Bool :=
  cs.any fun c => c = '[' || c = ']'

/-- Square brackets stand in a joined text if they do in one of its parts. -/
@[simp] theorem hasSquareBracket_append (cs rest : List Char) :
    hasSquareBracket (cs ++ rest) = (hasSquareBracket cs || hasSquareBracket rest) :=
  List.any_append

/-- A square bracket stands in a text if it is one of the characters. -/
theorem hasSquareBracket_iff {cs : List Char} : hasSquareBracket cs ↔ '[' ∈ cs ∨ ']' ∈ cs := by
  simp only [hasSquareBracket, List.any_eq_true, Bool.or_eq_true, decide_eq_true_eq]
  constructor
  · rintro ⟨c, hc, rfl | rfl⟩
    · exact Or.inl hc
    · exact Or.inr hc
  · rintro (hc | hc)
    · exact ⟨_, hc, Or.inl rfl⟩
    · exact ⟨_, hc, Or.inr rfl⟩

/-- No square bracket stands in a qualified name. -/
theorem hasSquareBracket_name (name : QualifiedName) :
    hasSquareBracket name.val.toList = false := by
  rw [Bool.eq_false_iff, Ne, hasSquareBracket_iff, not_or]
  exact ⟨notMem_of_isQualifiedChars name.property (by decide) (by decide),
    notMem_of_isQualifiedChars name.property (by decide) (by decide)⟩

mutual

/-- Square brackets stand in a type exactly if an array does. -/
theorem ArgumentType.hasSquareBracket_chars (type : ArgumentType) :
    hasSquareBracket type.chars = type.hasArray := by
  cases type with
  | named name => exact hasSquareBracket_name name
  | parameterised name arguments =>
    have hopen : hasSquareBracket ['<'] = false := by decide
    have hclose : hasSquareBracket ['>'] = false := by decide
    have hchars : (ArgumentType.parameterised name arguments).chars =
        name.val.toList ++ (['<'] ++ (arguments.chars ++ ['>'])) := rfl
    simp only [hchars, hasSquareBracket_append, hasSquareBracket_name, hopen, hclose,
      arguments.hasSquareBracket_chars, Bool.false_or, Bool.or_false, ArgumentType.hasArray]
  | primitiveArray element =>
    rw [ArgumentType.chars, ArgumentType.hasArray, hasSquareBracket_append]
    exact Bool.or_true _
  | array element =>
    rw [ArgumentType.chars, ArgumentType.hasArray, hasSquareBracket_append]
    exact Bool.or_true _

/-- Square brackets stand in type arguments exactly if an array does. -/
theorem ArgumentList.hasSquareBracket_chars (arguments : ArgumentList) :
    hasSquareBracket arguments.chars = arguments.hasArray := by
  cases arguments with
  | last argument => exact argument.hasSquareBracket_chars
  | more argument rest =>
    have hcomma : hasSquareBracket [',', ' '] = false := by decide
    have hchars : (ArgumentList.more argument rest).chars =
        argument.chars ++ ([',', ' '] ++ rest.chars) := rfl
    rw [hchars, hasSquareBracket_append, hasSquareBracket_append, hcomma, Bool.false_or,
      argument.hasSquareBracket_chars, rest.hasSquareBracket_chars, ArgumentList.hasArray]

/-- Square brackets stand in a type argument exactly if an array does. -/
theorem Argument.hasSquareBracket_chars (argument : Argument) :
    hasSquareBracket argument.chars = argument.hasArray := by
  cases argument with
  | exactly type => exact type.hasSquareBracket_chars
  | wildcard => rfl
  | atMost bound =>
    have hextends : hasSquareBracket "? extends ".toList = false := by decide
    have hchars : (Argument.atMost bound).chars = "? extends ".toList ++ bound.chars := rfl
    rw [hchars, hasSquareBracket_append, hextends, bound.hasSquareBracket_chars, Bool.false_or,
      Argument.hasArray]
  | atLeast bound =>
    have hsuper : hasSquareBracket "? super ".toList = false := by decide
    have hchars : (Argument.atLeast bound).chars = "? super ".toList ++ bound.chars := rfl
    rw [hchars, hasSquareBracket_append, hsuper, bound.hasSquareBracket_chars, Bool.false_or,
      Argument.hasArray]

end

/-! ### How a parameterised type is read -/

/-- The text of an array type of a class with type arguments. -/
def parameterisedText (name : QualifiedName) (arguments : ArgumentList) (levels : Nat) : String :=
  String.ofList ((ArgumentType.parameterised name arguments).chars ++ brackets levels)

/-- A class with type arguments is a name of one part. -/
def genericOf (name : QualifiedName) (arguments : ArgumentList) : GenericName where
  front := []
  last := ⟨name, some ⟨arguments.chars, arguments.isNested_chars⟩⟩

/-- The name of one part is written like the class with type arguments. -/
theorem chars_genericOf (name : QualifiedName) (arguments : ArgumentList) :
    (genericOf name arguments).chars = (ArgumentType.parameterised name arguments).chars :=
  rfl

/-- The arguments of a parameterised type are erased, at any depth, unless an array stands among
them. Then the type is refused because of the square brackets, though they are balanced. -/
theorem parse_parameterised (name : QualifiedName) (arguments : ArgumentList) (levels : Nat) :
    parse (parameterisedText name arguments levels) =
      if arguments.hasArray then
        .error ⟨parameterisedText name arguments levels, .unbalancedBrackets⟩
      else .ok (arrayOf levels (object name.val)) := by
  have hplain : ¬ (genericOf name arguments).IsPlain := by
    simp [GenericName.IsPlain, genericOf]
  have hlast : (genericOf name arguments).last.arguments ≠ none := by
    simp [genericOf]
  have hname : (genericOf name arguments).leadingName = name.val :=
    String.ofList_toList
  have hbrackets :
      '[' ∈ (genericOf name arguments).chars ∨ ']' ∈ (genericOf name arguments).chars ↔
        arguments.hasArray := by
    rw [← hasSquareBracket_iff, chars_genericOf, ArgumentType.hasSquareBracket_chars,
      ArgumentType.hasArray]
  rw [parse, parameterisedText, String.toList_ofList, ← chars_genericOf,
    GenericName.ofNotation_chars hplain, if_neg hlast, hname]
  simp only [hbrackets]
  split
  · rfl
  · rfl

/-- The class `a.Map`, whose arguments stand in the instances below. -/
def mapClass : QualifiedName :=
  ⟨"a.Map", by decide⟩

/-- An array of integers as the only argument. -/
def arrayArgument : ArgumentList :=
  .last (.exactly (.primitiveArray .int))

/-- A class and a parameterised type with a bounded wildcard as arguments. -/
def nestedArguments : ArgumentList :=
  .more (.exactly (.named ⟨"K", by decide⟩))
    (.last (.exactly (.parameterised mapClass
      (.more .wildcard (.last (.atLeast (.named ⟨"T", by decide⟩)))))))

/-- Nested arguments are erased, but a single array among the arguments gets the type refused. -/
theorem parse_parameterised_array :
    parse "a.Map<K, a.Map<?, ? super T>>[]" = .ok (array (object "a.Map")) ∧
      parse "a.Map<int[]>" = .error ⟨"a.Map<int[]>", .unbalancedBrackets⟩ := by
  have hnested :
      parameterisedText mapClass nestedArguments 1 = "a.Map<K, a.Map<?, ? super T>>[]" := by decide
  have harray : parameterisedText mapClass arrayArgument 0 = "a.Map<int[]>" := by decide
  constructor
  · rw [← hnested, parse_parameterised]
    rfl
  · rw [← harray, parse_parameterised]
    rfl

end NativeBindings.JavaType
