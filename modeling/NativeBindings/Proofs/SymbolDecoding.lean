import NativeBindings.Proofs.DescriptorReading
import NativeBindings.Proofs.Escaping
import NativeBindings.Proofs.NativeSurface

/-!
# What a symbol tells

The symbol of a method is the escape of one qualified name, `Java`, the class and the method joined
by dots, and of nothing else unless the method is overloaded. Inside such an escape two underscores
meet only where a joint stands before an escaped underscore, and there a `1` follows. The first
other pair is therefore the separator, and what comes after it reads back as the parameter types.
-/

namespace NativeBindings.Symbol

open Text (substitute)

/-- The qualified name whose escape is the symbol of a method without its parameters. -/
def lookupName (owner method : List Char) : List Char :=
  ['J', 'a', 'v', 'a'] ++ '.' :: (owner ++ '.' :: method)

/-- The name behind a symbol is a qualified name. -/
theorem isQualifiedChars_lookupName {owner method : List Char} (howner : isQualifiedChars owner)
    (hmethod : isIdentifierChars method) : isQualifiedChars (lookupName owner method) := by
  rw [lookupName, isQualifiedChars_append_dot, isQualifiedChars_append_dot, howner,
    isQualifiedChars_of_identifier hmethod]
  rfl

/-- A symbol is the escape of its name and, for an overloaded method, of its parameters. -/
theorem exportChars_eq (owner method : List Char) (overloaded : Bool) (params : List JavaType) :
    exportChars owner method overloaded params = escapeChars (lookupName owner method) ++
      if overloaded then '_' :: '_' :: escapeDescriptorChars (descriptorsChars params) else [] := by
  have hjoint : ∀ front back : List Char,
      escapeChars (front ++ '.' :: back) = escapeChars front ++ '_' :: escapeChars back := by
    intro front back
    rw [escapeChars_append]
    rfl
  have hopening : "Java_".toList = escapeChars ['J', 'a', 'v', 'a'] ++ ['_'] := by decide
  rw [lookupName, hjoint, hjoint]
  -- Not `rw`: the equation lemma of the definition would evaluate its string literal.
  delta exportChars
  rw [hopening]
  simp only [List.append_assoc, List.cons_append, List.nil_append]

/-- The symbol of a method is made of the escapes of the names of its class and of its own, and of
those of its parameters if the method is overloaded. -/
theorem toList_symbol (method : NativeMethod) :
    method.symbol.toList = "Java_".toList ++ escapeChars method.owner.qualified.toList ++
      '_' :: escapeChars method.name.toList ++
        if method.isOverloaded then
          '_' :: '_' :: escapeDescriptorChars (descriptorsChars method.paramTypes)
        else [] := by
  rw [NativeMethod.symbol, exported, String.toList_ofList]
  rfl

/-- A character other than the underscore is passed over. -/
theorem suffixChars_cons {c : Char} (hc : c ≠ '_') (rest : List Char) :
    suffixChars (c :: rest) = suffixChars rest := by
  rw [suffixChars]
  · exact fun _ h => absurd h hc
  · exact fun _ h => absurd h hc

/-- An underscore that no other follows is passed over. -/
theorem suffixChars_underscore {rest : List Char} (h : rest.head? ≠ some '_') :
    suffixChars ('_' :: rest) = suffixChars rest := by
  rw [suffixChars]
  · intro tail _ heq
    rw [heq] at h
    exact h rfl
  · intro tail _ heq
    rw [heq] at h
    exact h rfl

/-- Two underscores are the separator if no `1` follows. -/
theorem suffixChars_separator {rest : List Char} (h : rest.head? ≠ some '1') :
    suffixChars ('_' :: '_' :: rest) = some rest := by
  rw [suffixChars]
  intro tail heq
  rw [heq] at h
  exact h rfl

/-- The escape of a character that is no joint is passed over. -/
theorem suffixChars_escapeChar_append {c : Char} (hc : c ≠ '.') (tail : List Char) :
    suffixChars (escapeChar c ++ tail) = suffixChars tail := by
  rcases escapeChar_cases c with ⟨digit, hdigit, h⟩ | ⟨hdot, -⟩ | ⟨hplain, h⟩
  · have hne : digit ≠ '_' := by
      intro heq
      rw [heq] at hdigit
      exact absurd hdigit (by decide)
    rw [h, List.cons_append, List.singleton_append, suffixChars_underscore (by simpa using hne),
      suffixChars_cons hne]
  · contradiction
  · rw [h, List.singleton_append, suffixChars_cons (by simp_all)]

/-- The escape of a text without dots is passed over. -/
theorem suffixChars_escapeChars_segment {segment : List Char} (h : '.' ∉ segment)
    (tail : List Char) : suffixChars (escapeChars segment ++ tail) = suffixChars tail := by
  induction segment with
  | nil => rfl
  | cons c segment ih =>
    simp only [List.mem_cons, not_or] at h
    rw [escapeChars, List.flatMap_cons, List.append_assoc,
      suffixChars_escapeChar_append (Ne.symm h.1)]
    exact ih h.2

/-- A joint is passed over: the segment after it opens with a letter or with an escape. -/
theorem suffixChars_joint {name : List Char} (hname : isQualifiedChars name) (tail : List Char) :
    suffixChars ('_' :: (escapeChars name ++ tail)) = suffixChars (escapeChars name ++ tail) := by
  obtain ⟨first, rest, rfl, hfirst⟩ := isQualifiedChars_cons hname
  have hne : ∀ c, isIdentifierStart c = false → first ≠ c := by
    intro c hc heq
    rw [heq, hc] at hfirst
    contradiction
  rw [escapeChars, List.flatMap_cons, List.append_assoc]
  by_cases hunderscore : first = '_'
  · -- The joint and the escaped underscore make `__1`, which is skipped as a whole.
    subst hunderscore
    rw [suffixChars_escapeChar_append (by decide)]
    rfl
  · have hplain : escapeChar first = [first] := by
      simp [escapeChar, hunderscore, hne ';' (by decide), hne '[' (by decide), hne '.' (by decide)]
    rw [hplain]
    exact suffixChars_underscore (by simpa using hunderscore)

/-- The escape of a qualified name holds no separator, wherever underscores stand in the name. -/
theorem suffixChars_escapeChars_append {name : List Char} (hname : isQualifiedChars name)
    (tail : List Char) : suffixChars (escapeChars name ++ tail) = suffixChars tail := by
  induction name, hname using isQualifiedChars_induction with
  | identifier segment hsegment => exact suffixChars_escapeChars_segment (dot_notMem hsegment) tail
  | dotted segment rest hsegment hrest ih =>
    rw [escapeChars_append, List.append_assoc,
      suffixChars_escapeChars_segment (dot_notMem hsegment)]
    change suffixChars ('_' :: (escapeChars rest ++ tail)) = suffixChars tail
    rw [suffixChars_joint hrest, ih]

/-- No descriptor begins with an escape digit. -/
theorem exists_descriptorChars_cons (type : JavaType) :
    ∃ first rest, type.descriptorChars = first :: rest ∧ first ∉ escapeDigits := by
  cases type with
  | primitive kind => exact ⟨kind.letter, [], rfl, by cases kind <;> decide⟩
  | array element => exact ⟨'[', element.descriptorChars, rfl, by decide⟩
  | object name => exact ⟨'L', substitute '.' '/' name.toList ++ [';'], rfl, by decide⟩

/-- No list of descriptors begins with an escape digit. -/
theorem head?_descriptorsChars (types : List JavaType) :
    ∀ d ∈ (descriptorsChars types).head?, d ∉ escapeDigits := by
  intro d hd
  cases types with
  | nil => simp [descriptorsChars] at hd
  | cons type types =>
    obtain ⟨first, rest, heq, hfirst⟩ := exists_descriptorChars_cons type
    rw [descriptorsChars, List.flatMap_cons, heq] at hd
    simp only [List.cons_append, List.head?_cons, Option.mem_some_iff] at hd
    exact hd ▸ hfirst

/-- The suffix of a symbol is the escape of the parameter types, for overloaded methods only. -/
theorem suffixChars_exportChars {owner method : List Char} (howner : isQualifiedChars owner)
    (hmethod : isIdentifierChars method) (overloaded : Bool) (params : List JavaType) :
    suffixChars (exportChars owner method overloaded params) =
      if overloaded then some (escapeDescriptorChars (descriptorsChars params)) else none := by
  rw [exportChars_eq, suffixChars_escapeChars_append (isQualifiedChars_lookupName howner hmethod)]
  cases overloaded with
  | false => rfl
  | true =>
    refine suffixChars_separator fun hhead => ?_
    rcases head?_escapeDescriptorChars hhead with h | h
    · exact absurd h (by decide)
    · exact head?_descriptorsChars params _ h (by decide)

/-- What a symbol tells about the method it names: whether the method is overloaded, and then its
parameter types, as the escape of their descriptors and read back from it. -/
structure Describes (symbol : String) (overloaded : Bool) (params : List JavaType) : Prop where
  suffix : overloadSuffix? symbol =
    if overloaded then some (escapeDescriptor (String.join (params.map JavaType.descriptor)))
    else none
  signature : signature? symbol = .ok (if overloaded then some params else none)

/-- The symbol of a method describes it, if class, method and types have proper names. -/
theorem describes_exported {owner method : String} (howner : isQualifiedName owner)
    (hmethod : isIdentifier method) (overloaded : Bool) {params : List JavaType}
    (hparams : ∀ type ∈ params, type.isWellFormed) :
    Describes (exported owner method overloaded params) overloaded params := by
  have hsuffix : overloadSuffix? (exported owner method overloaded params) =
      if overloaded then some (escapeDescriptor (String.join (params.map JavaType.descriptor)))
      else none := by
    rw [overloadSuffix?, exported, String.toList_ofList, suffixChars_exportChars howner hmethod]
    cases overloaded with
    | false => rfl
    | true => simp only [if_true, Option.map_some, escapeDescriptor,
      JavaType.toList_join_descriptor]
  refine ⟨hsuffix, ?_⟩
  rw [signature?, hsuffix]
  cases overloaded with
  | false => rfl
  | true =>
    have hread : unescape (escapeDescriptor (String.join (params.map JavaType.descriptor))) =
        String.ofList (descriptorsChars params) := by
      rw [unescape, escapeDescriptor, String.toList_ofList, JavaType.toList_join_descriptor,
        unescapeChars_escapeDescriptorChars (isRestorable_descriptorsChars hparams)]
    simp only [if_true, hread, JavaType.readDescriptors, String.toList_ofList,
      JavaType.ofDescriptors_descriptorsChars hparams]
    rfl

/-- The symbol of a resolved method describes it. -/
theorem describes_symbol {decl : ClassDecl} {c : NativeClass} (h : decl.resolve = .ok c)
    {method : NativeMethod} (hmethod : method ∈ c.methods) :
    Describes method.symbol method.isOverloaded method.paramTypes := by
  have hwell := ClassDecl.isWellFormed_of_resolve h hmethod
  exact describes_exported hwell.owner hwell.name method.isOverloaded hwell.paramTypes

/-- Symbols decode back to what they encode, for all proper names and for every resolved class. -/
theorem symbols_decode :
    (∀ (owner method : String) (overloaded : Bool) (params : List JavaType),
      isQualifiedName owner → isIdentifier method → (∀ type ∈ params, type.isWellFormed) →
        Describes (exported owner method overloaded params) overloaded params) ∧
      ∀ (decl : ClassDecl) (c : NativeClass), decl.resolve = .ok c → ∀ method ∈ c.methods,
        Describes method.symbol method.isOverloaded method.paramTypes := by
  constructor
  · intro owner method overloaded params howner hmethod hparams
    exact describes_exported howner hmethod overloaded hparams
  · intro decl c h method hmethod
    exact describes_symbol h hmethod

/-- A class whose names open with underscores, with two native methods of one name. -/
def underscoredDecl : ClassDecl where
  name := "p._q"
  methods := [
    { name := "_m", params := [⟨"", "int[]"⟩, ⟨"x", "r.S_"⟩] },
    { name := "n", isNative := false },
    { name := "_m", returns := "int" }]

/-- The native methods of that class. -/
def underscoredClass : NativeClass where
  name := ⟨"p._q"⟩
  methods := [
    { owner := ⟨"p._q"⟩, name := "_m", isStatic := false, isOverloaded := true, position := 0
      params := [⟨"arg0", .array (.primitive .int)⟩, ⟨"x", .object "r.S_"⟩], returns := .void },
    { owner := ⟨"p._q"⟩, name := "_m", isStatic := false, isOverloaded := true, position := 2
      params := [], returns := .primitive .int }]

/-- Underscores at the ends of names are told apart from the separator. -/
theorem symbols_decode_underscored :
    (isQualifiedName "p._q" ∧ isIdentifier "_m" ∧
      (∀ type ∈ [JavaType.array (.primitive .int), .object "r.S_"], type.isWellFormed) ∧
      Describes (exported "p._q" "_m" true [.array (.primitive .int), .object "r.S_"]) true
        [.array (.primitive .int), .object "r.S_"]) ∧
      underscoredDecl.resolve = .ok underscoredClass ∧
      ∀ method ∈ underscoredClass.methods,
        Describes method.symbol method.isOverloaded method.paramTypes := by
  have howner : isQualifiedName "p._q" := by decide
  have hmethod : isIdentifier "_m" := by decide
  have hparams : ∀ type ∈ [JavaType.array (.primitive .int), .object "r.S_"],
      type.isWellFormed := by decide
  have hresolve : underscoredDecl.resolve = .ok underscoredClass := by
    rw [ClassDecl.resolve, ClassDecl.natives_eq_insertionSort]
    decide +kernel
  exact ⟨⟨howner, hmethod, hparams, symbols_decode.1 _ _ true _ howner hmethod hparams⟩,
    hresolve, symbols_decode.2 _ _ hresolve⟩

end NativeBindings.Symbol
