import NativeBindings.Proofs.Lists
import NativeBindings.Proofs.SymbolDecoding

/-!
# Symbols name one method each

Equal symbols have equal suffixes, so they agree on whether the method is overloaded and on its
parameter types. What remains is the escape of one qualified name, whose last segment is the method
and whose other segments are the class. A symbol therefore determines class, method and, where it
carries them, parameter types.
-/

namespace NativeBindings.Symbol

/-- The name behind a symbol determines class and method. -/
theorem lookupName_inj {owner owner' method method' : List Char}
    (hmethod : isIdentifierChars method) (hmethod' : isIdentifierChars method')
    (h : lookupName owner method = lookupName owner' method') :
    owner = owner' ∧ method = method' := by
  have hnames := (List.cons.inj (List.append_cancel_left h)).2
  exact append_cons_inj_of_notMem_right (dot_notMem hmethod) (dot_notMem hmethod') hnames

/-- A symbol that describes two methods describes the same parameters of both. -/
theorem Describes.params_eq {symbol : String} {overloaded overloaded' : Bool}
    {params params' : List JavaType} (h : Describes symbol overloaded params)
    (h' : Describes symbol overloaded' params') :
    overloaded = overloaded' ∧ (overloaded = false ∨ params = params') := by
  have hsignature := Except.ok.inj (h.signature.symm.trans h'.signature)
  cases overloaded <;> cases overloaded' <;> simp_all

/-- Different lists of types have different descriptors, also escaped ones. -/
theorem escapeDescriptor_join_injOn {types types' : List JavaType}
    (htypes : ∀ type ∈ types, type.isWellFormed) (htypes' : ∀ type ∈ types', type.isWellFormed)
    (h : escapeDescriptor (String.join (types.map JavaType.descriptor)) =
      escapeDescriptor (String.join (types'.map JavaType.descriptor))) : types = types' := by
  have hchars := String.ofList_injective h
  rw [JavaType.toList_join_descriptor, JavaType.toList_join_descriptor] at hchars
  have hdescriptors : descriptorsChars types = descriptorsChars types' := by
    rw [← unescapeChars_escapeDescriptorChars (isRestorable_descriptorsChars htypes), hchars,
      unescapeChars_escapeDescriptorChars (isRestorable_descriptorsChars htypes')]
  have hread := JavaType.ofDescriptors_descriptorsChars htypes
  rw [hdescriptors, JavaType.ofDescriptors_descriptorsChars htypes'] at hread
  exact (Except.ok.inj hread).symm

section

variable {owner owner' method method' : String} {overloaded overloaded' : Bool}
  {params params' : List JavaType}

/-- Methods with proper names and one symbol have one class, one name and one kind, and the same
parameter types if they are overloaded. -/
theorem exported_inj (howner : isQualifiedName owner) (howner' : isQualifiedName owner')
    (hmethod : isIdentifier method) (hmethod' : isIdentifier method')
    (hparams : ∀ type ∈ params, type.isWellFormed)
    (hparams' : ∀ type ∈ params', type.isWellFormed)
    (h : exported owner method overloaded params =
      exported owner' method' overloaded' params') :
    owner = owner' ∧ method = method' ∧ overloaded = overloaded' ∧
      (overloaded = false ∨ params = params') := by
  have hdescribes := describes_exported howner hmethod overloaded hparams
  have hdescribes' := describes_exported howner' hmethod' overloaded' hparams'
  rw [h] at hdescribes
  obtain ⟨rfl, hsame⟩ := hdescribes.params_eq hdescribes'
  have hchars := String.ofList_injective h
  rw [exportChars_eq, exportChars_eq] at hchars
  -- The suffixes agree, so the escapes of the two names do.
  have hnames : escapeChars (lookupName owner.toList method.toList) =
      escapeChars (lookupName owner'.toList method'.toList) := by
    rcases hsame with rfl | rfl
    · simpa using hchars
    · exact List.append_cancel_right hchars
  have hlookup := escapeChars_injOn (isQualifiedChars_lookupName howner hmethod)
    (isQualifiedChars_lookupName howner' hmethod') hnames
  obtain ⟨hownerEq, hmethodEq⟩ := lookupName_inj hmethod hmethod' hlookup
  exact ⟨String.toList_injective hownerEq, String.toList_injective hmethodEq, rfl, hsame⟩

/-- Two methods with proper names have one symbol exactly if they have one class and one name, and
either both are not overloaded or both are and take the same parameter types. -/
theorem exported_eq_iff (howner : isQualifiedName owner) (howner' : isQualifiedName owner')
    (hmethod : isIdentifier method) (hmethod' : isIdentifier method')
    (hparams : ∀ type ∈ params, type.isWellFormed)
    (hparams' : ∀ type ∈ params', type.isWellFormed) :
    exported owner method overloaded params = exported owner' method' overloaded' params' ↔
      owner = owner' ∧ method = method' ∧ overloaded = overloaded' ∧
        (overloaded = false ∨ params = params') := by
  constructor
  · exact exported_inj howner howner' hmethod hmethod' hparams hparams'
  · intro hparts
    obtain ⟨rfl, rfl, rfl, rfl | rfl⟩ := hparts
    · rfl
    · rfl

end

/-- Well-formed methods with one symbol agree in all that the symbol is made of. -/
theorem symbol_inj {a b : NativeMethod} (ha : a.IsWellFormed) (hb : b.IsWellFormed)
    (h : a.symbol = b.symbol) :
    a.owner.qualified = b.owner.qualified ∧ a.name = b.name ∧ a.isOverloaded = b.isOverloaded ∧
      (a.isOverloaded = false ∨ a.paramTypes = b.paramTypes) :=
  exported_inj ha.owner hb.owner ha.name hb.name ha.paramTypes hb.paramTypes h

/-- An underscore at the end of a class is told apart from one at the front of a method. -/
theorem exported_eq_iff_underscored :
    (isQualifiedName "p.q_" ∧ isQualifiedName "p.q" ∧ isIdentifier "r" ∧ isIdentifier "_r" ∧
      ∀ type ∈ [JavaType.object "p.q_"], type.isWellFormed) ∧
      (exported "p.q_" "r" true [.object "p.q_"] = exported "p.q" "_r" true [.object "p.q_"] ↔
        "p.q_" = "p.q" ∧ "r" = "_r" ∧ true = true ∧
          (true = false ∨ [JavaType.object "p.q_"] = [.object "p.q_"])) := by
  have howner : isQualifiedName "p.q_" := by decide
  have howner' : isQualifiedName "p.q" := by decide
  have hmethod : isIdentifier "r" := by decide
  have hmethod' : isIdentifier "_r" := by decide
  have hparams : ∀ type ∈ [JavaType.object "p.q_"], type.isWellFormed := by decide
  exact ⟨⟨howner, howner', hmethod, hmethod', hparams⟩,
    exported_eq_iff howner howner' hmethod hmethod' hparams hparams⟩

end NativeBindings.Symbol
