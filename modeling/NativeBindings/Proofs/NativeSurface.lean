import Mathlib.Data.List.Nodup
import Mathlib.Data.List.Sort
import Mathlib.Data.Prod.Lex
import Mathlib.Data.String.Basic
import NativeBindings.Proofs.Lists
import NativeBindings.Proofs.Resolution

/-!
# The native surface of a class

Resolving a class keeps exactly its native methods, in an order that depends on names and positions
only. No two methods have one name and one position, so sorting by both leaves one possible list,
which is also what a stable sort by names alone gives, and what sorting by insertion gives, by which
given classes are evaluated. What a method is called, takes and returns is what was declared at its
position.
-/

namespace NativeBindings

/-- What resolved methods are ordered by: the name, code point by code point, then the position. -/
def NativeMethod.rank (method : NativeMethod) : String ×ₗ Nat :=
  toLex (method.name, method.position)

/-- A resolved method has what was declared: its parameters in order, numbered where they have no
name, with the types that the declared texts read as. -/
structure NativeMethod.StandsFor (method : NativeMethod) (declared : MethodDecl) : Prop where
  name : method.name = declared.name
  isStatic : method.isStatic = declared.isStatic
  paramNames : method.params.map (·.name) = declared.params.zipIdx.map fun entry =>
    if entry.1.name = "" then "arg" ++ toString entry.2 else entry.1.name
  paramTypes : declared.params.map (fun param => JavaType.parse param.type) =
    method.paramTypes.map Except.ok
  returns : JavaType.parse declared.returns = .ok method.returns

/-- A resolved method stands for the declaration that it was resolved from. -/
theorem MethodDecl.standsFor_of_resolve {declared : MethodDecl} {owner : ClassName}
    {overloaded : Bool} {position : Nat} {method : NativeMethod}
    (h : declared.resolve owner overloaded position = .ok method) : method.StandsFor declared := by
  obtain ⟨-, hparams, hreturns, -, hname, hstatic, -, -⟩ := MethodDecl.resolve_eq_ok_iff.mp h
  refine ⟨hname, hstatic, ?_, MethodDecl.map_parse_params h, hreturns⟩
  have hnames : List.Forall₂ (fun entry name =>
      (if entry.1.name = "" then "arg" ++ toString entry.2 else entry.1.name) = name)
      declared.params.zipIdx (method.params.map (·.name)) := by
    rw [List.forall₂_map_right_iff]
    refine hparams.imp fun entry param hparam => ?_
    rcases ParamDecl.resolveName_eq_ok_iff.mp (ParamDecl.resolve_eq_ok_iff.mp hparam).1 with
      ⟨hempty, hname⟩ | ⟨hempty, -, hname⟩
    · rw [if_pos hempty, hname]
    · rw [if_neg hempty, hname]
  rw [← List.forall₂_map_left_iff, List.forall₂_eq_eq_eq] at hnames
  exact hnames.symm

namespace ClassDecl

/-- What declared methods are sorted by. -/
def rank (entry : MethodDecl × Nat) : String ×ₗ Nat :=
  toLex (entry.1.name, entry.2)

/-- The native methods with their positions, in the order of declaration. -/
def declared (decl : ClassDecl) : List (MethodDecl × Nat) :=
  decl.methods.zipIdx.filter (·.1.isNative)

/-- Methods are sorted by their ranks. -/
theorem precedes_iff {a b : MethodDecl × Nat} : precedes a b ↔ rank a ≤ rank b := by
  simp [precedes, rank, Prod.Lex.toLex_le_toLex]

/-- Native methods are declared at increasing positions. -/
theorem pairwise_declared (decl : ClassDecl) : decl.declared.Pairwise (·.2 < ·.2) := by
  refine List.Pairwise.filter _ (List.pairwise_map.mp ?_)
  rw [List.zipIdx_map_snd]
  exact List.pairwise_lt_range'

/-- Sorting leaves no two native methods with one position. -/
theorem nodup_map_snd_of_perm {decl : ClassDecl} {entries : List (MethodDecl × Nat)}
    (h : entries.Perm decl.declared) : (entries.map Prod.snd).Nodup := by
  refine (h.map Prod.snd).nodup_iff.mpr ?_
  exact List.pairwise_map.mpr (decl.pairwise_declared.imp Nat.ne_of_lt)

/-- The order of methods is transitive. -/
theorem precedes_trans (a b c : MethodDecl × Nat) (hab : precedes a b) (hbc : precedes b c) :
    precedes a c :=
  precedes_iff.mpr ((precedes_iff.mp hab).trans (precedes_iff.mp hbc))

/-- Any two methods are ordered. -/
theorem precedes_total (a b : MethodDecl × Nat) : precedes a b || precedes b a := by
  rw [Bool.or_eq_true, precedes_iff, precedes_iff]
  exact le_total (rank a) (rank b)

/-- What is sorted and holds the native methods is sorted without ties. -/
theorem pairwise_rank_of_perm {decl : ClassDecl} {entries : List (MethodDecl × Nat)}
    (hperm : entries.Perm decl.declared) (hsorted : entries.Pairwise (precedes · ·)) :
    entries.Pairwise (rank · < rank ·) := by
  have hdiffer := List.pairwise_map.mp (nodup_map_snd_of_perm hperm)
  refine hsorted.imp₂ (fun a b hle hne => ?_) hdiffer
  refine lt_of_le_of_ne (precedes_iff.mp hle) fun heq => hne ?_
  exact (Prod.mk.inj (toLex.injective heq)).2

/-- The native methods are sorted without ties. -/
theorem pairwise_natives (decl : ClassDecl) : decl.natives.Pairwise (rank · < rank ·) :=
  pairwise_rank_of_perm (List.mergeSort_perm _ _)
    (List.pairwise_mergeSort precedes_trans precedes_total _)

/-- Nothing else holds the native methods and is sorted without ties. -/
theorem natives_eq_of_perm {decl : ClassDecl} {entries : List (MethodDecl × Nat)}
    (hperm : entries.Perm decl.declared) (hsorted : entries.Pairwise (rank · < rank ·)) :
    decl.natives = entries := by
  have hsame : decl.natives.Perm entries := (List.mergeSort_perm _ _).trans hperm.symm
  exact hsame.eq_of_pairwise (fun a b _ _ hab hba => absurd hab (lt_asymm hba))
    decl.pairwise_natives hsorted

/-- Sorting by insertion gives the native methods in the same order. -/
theorem natives_eq_insertionSort (decl : ClassDecl) :
    decl.natives = decl.declared.insertionSort (precedes · ·) := by
  have htrans : IsTrans (MethodDecl × Nat) (precedes · ·) := ⟨precedes_trans⟩
  have htotal : Std.Total fun a b : MethodDecl × Nat => precedes a b = true :=
    ⟨fun a b => (Bool.or_eq_true _ _).mp (precedes_total a b)⟩
  have hperm := List.perm_insertionSort (precedes · ·) decl.declared
  exact natives_eq_of_perm hperm
    (pairwise_rank_of_perm hperm (List.pairwise_insertionSort _ _))

/-- The order of names alone. -/
def byName (a b : MethodDecl × Nat) : Bool :=
  a.1.name ≤ b.1.name

/-- Names are ordered transitively. -/
theorem byName_trans (a b c : MethodDecl × Nat) (hab : byName a b) (hbc : byName b c) :
    byName a c :=
  decide_eq_true ((of_decide_eq_true hab).trans (of_decide_eq_true hbc))

/-- Any two names are ordered. -/
theorem byName_total (a b : MethodDecl × Nat) : byName a b || byName b a := by
  simpa [byName] using le_total a.1.name b.1.name

/-- Sorting by names alone keeps methods of one name in the order of declaration. -/
theorem filter_mergeSort_byName (decl : ClassDecl) (name : String) :
    (decl.declared.mergeSort byName).filter (·.1.name = name) =
      decl.declared.filter (·.1.name = name) := by
  have hties : (decl.declared.filter (·.1.name = name)).Pairwise (byName · ·) := by
    refine List.pairwise_of_forall_mem_list fun a ha b hb => ?_
    have ha := of_decide_eq_true (List.mem_filter.mp ha).2
    have hb := of_decide_eq_true (List.mem_filter.mp hb).2
    simp [byName, ha, hb]
  have hkept := (List.sublist_mergeSort byName_trans byName_total hties List.filter_sublist).filter
    (·.1.name = name)
  simp only [List.filter_filter, Bool.and_self] at hkept
  refine (hkept.eq_of_length ?_).symm
  exact ((List.mergeSort_perm _ _).filter _).length_eq.symm

/-- A stable sort by names alone gives the native methods in the same order. -/
theorem natives_eq_mergeSort_byName (decl : ClassDecl) :
    decl.natives = decl.declared.mergeSort byName := by
  have hsorted := List.pairwise_mergeSort byName_trans byName_total decl.declared
  have hstable : (decl.declared.mergeSort byName).Pairwise (rank · < rank ·) := by
    rw [List.pairwise_iff_forall_sublist]
    intro a b hab
    have hle := of_decide_eq_true (List.pairwise_iff_forall_sublist.mp hsorted hab)
    rcases lt_or_eq_of_le hle with hlt | heq
    · exact Prod.Lex.toLex_lt_toLex.mpr (Or.inl hlt)
    · -- Methods of one name are still in the order of declaration.
      have hties := hab.filter (·.1.name = a.1.name)
      rw [filter_mergeSort_byName] at hties
      simp only [List.filter_cons, List.filter_nil, heq, decide_true, if_true] at hties
      have hpositions := List.pairwise_iff_forall_sublist.mp decl.pairwise_declared
        (hties.trans List.filter_sublist)
      exact Prod.Lex.toLex_lt_toLex.mpr (Or.inr ⟨heq, hpositions⟩)
  exact natives_eq_of_perm (List.mergeSort_perm _ _) hstable

/-- A native method at another position has the name. -/
def HasNamesake (decl : ClassDecl) (name : String) (position : Nat) : Prop :=
  ∃ other : MethodDecl, ∃ index : Nat, decl.methods[index]? = some other ∧ other.isNative ∧
    other.name = name ∧ index ≠ position

instance (decl : ClassDecl) (name : String) (position : Nat) :
    Decidable (decl.HasNamesake name position) :=
  decidable_of_iff
    (∃ entry ∈ decl.methods.zipIdx, entry.1.isNative ∧ entry.1.name = name ∧ entry.2 ≠ position)
    (by simp only [HasNamesake, Prod.exists, List.mem_zipIdx_iff_getElem?])

/-- The name of a native method is overloaded exactly if it has a namesake. -/
theorem overloads_iff {decl : ClassDecl} {position : Nat} {method : MethodDecl}
    (hmethod : decl.methods[position]? = some method) (hnative : method.isNative) :
    decl.overloads method.name ↔ decl.HasNamesake method.name position := by
  have hself : (method.isNative && method.name == method.name) = true := by simp [hnative]
  rw [overloads, decide_eq_true_eq, gt_iff_lt, one_lt_countP_iff hmethod hself]
  simp only [HasNamesake, Bool.and_eq_true, beq_iff_eq, and_assoc]

section

variable {decl : ClassDecl} {c : NativeClass}

/-- Resolved methods keep the ranks of the native ones. -/
theorem map_rank_of_resolve (h : decl.resolve = .ok c) :
    c.methods.map NativeMethod.rank = decl.natives.map rank := by
  have hmethods := (resolve_eq_ok_iff.mp h).2
  have hranks : List.Forall₂ (fun entry method => rank entry = method.rank) decl.natives
      c.methods := by
    refine hmethods.imp fun entry method hentry => ?_
    obtain ⟨-, -, -, -, hname, -, -, hposition⟩ := MethodDecl.resolve_eq_ok_iff.mp hentry
    rw [rank, NativeMethod.rank, hname, hposition]
  rw [← List.forall₂_map_right_iff, ← List.forall₂_map_left_iff, List.forall₂_eq_eq_eq] at hranks
  exact hranks.symm

/-- A resolved method is overloaded exactly if another native method has its name. -/
theorem isOverloaded_iff_hasNamesake (h : decl.resolve = .ok c) {method : NativeMethod}
    (hmethod : method ∈ c.methods) :
    method.isOverloaded ↔ decl.HasNamesake method.name method.position := by
  obtain ⟨⟨declared, position⟩, hentry, hresolve⟩ := exists_native_of_mem h hmethod
  obtain ⟨hat, hnative⟩ := mem_natives.mp hentry
  obtain ⟨-, -, -, -, hname, -, hoverloaded, rfl⟩ := MethodDecl.resolve_eq_ok_iff.mp hresolve
  rw [hoverloaded, hname]
  exact overloads_iff hat hnative

/-- The name and the position tell the methods of a resolved class apart. -/
theorem eq_of_rank_eq (h : decl.resolve = .ok c) {a b : NativeMethod} (ha : a ∈ c.methods)
    (hb : b ∈ c.methods) (hrank : a.rank = b.rank) : a = b := by
  have hnodup : (c.methods.map NativeMethod.rank).Nodup := by
    rw [map_rank_of_resolve h]
    exact List.pairwise_map.mpr (decl.pairwise_natives.imp ne_of_lt)
  exact List.inj_on_of_nodup_map hnodup ha hb hrank

/-- A method that is not overloaded is the only one with its name. -/
theorem eq_of_name_eq (h : decl.resolve = .ok c) {a b : NativeMethod} (ha : a ∈ c.methods)
    (hb : b ∈ c.methods) (hplain : ¬ a.isOverloaded) (hname : a.name = b.name) : a = b := by
  have hposition : a.position = b.position := by
    by_contra hne
    obtain ⟨⟨declared, position⟩, hentry, hresolve⟩ := exists_native_of_mem h hb
    obtain ⟨hat, hnative⟩ := mem_natives.mp hentry
    obtain ⟨-, -, -, -, hsame, -, -, rfl⟩ := MethodDecl.resolve_eq_ok_iff.mp hresolve
    refine hplain ((isOverloaded_iff_hasNamesake h ha).mpr ?_)
    exact ⟨declared, b.position, hat, hnative, (hname.trans hsame).symm, Ne.symm hne⟩
  refine eq_of_rank_eq h ha hb ?_
  rw [NativeMethod.rank, NativeMethod.rank, hname, hposition]

/-- A resolved class has exactly the native methods of the declaration, each at its position, in the
order of names and, for one name, of positions. Each has what was declared there. It is overloaded
exactly if another native method has its name, and its symbol says so. -/
theorem native_surface (h : decl.resolve = .ok c) :
    (c.methods.map (·.position)).Nodup ∧
      (∀ position, position ∈ c.methods.map (·.position) ↔
        ∃ declared, decl.methods[position]? = some declared ∧ declared.isNative) ∧
      c.methods.Pairwise (·.rank < ·.rank) ∧
      ∀ method ∈ c.methods,
        (∃ declared, decl.methods[method.position]? = some declared ∧ method.StandsFor declared) ∧
          (method.isOverloaded ↔ decl.HasNamesake method.name method.position) ∧
          method.symbol =
            Symbol.exported decl.name method.name method.isOverloaded method.paramTypes := by
  have hpositions : c.methods.map (·.position) = decl.natives.map Prod.snd := by
    have hranks := congrArg (List.map fun rank => (ofLex rank).2) (map_rank_of_resolve h)
    rwa [List.map_map, List.map_map] at hranks
  refine ⟨?_, ?_, ?_, ?_⟩
  · rw [hpositions]
    exact nodup_map_snd_of_perm (List.mergeSort_perm _ _)
  · intro position
    rw [hpositions]
    simp only [List.mem_map, Prod.exists, mem_natives, exists_eq_right]
  · rw [← List.pairwise_map, map_rank_of_resolve h, List.pairwise_map]
    exact decl.pairwise_natives
  · intro method hmethod
    obtain ⟨⟨declared, position⟩, hentry, hresolve⟩ := exists_native_of_mem h hmethod
    obtain ⟨hat, -⟩ := mem_natives.mp hentry
    obtain ⟨-, -, -, -, -, -, -, rfl⟩ := MethodDecl.resolve_eq_ok_iff.mp hresolve
    refine ⟨⟨declared, hat, MethodDecl.standsFor_of_resolve hresolve⟩,
      isOverloaded_iff_hasNamesake h hmethod, ?_⟩
    rw [NativeMethod.symbol, owner_of_resolve h hmethod, name_of_resolve h]
    rfl

end

/-- A class with native methods between others, out of order, one of them overloaded. -/
def scatteredDecl : ClassDecl where
  name := "p.C"
  methods := [
    { name := "put", params := [⟨"key", "int"⟩, ⟨"", "java.lang.String"⟩] },
    { name := "get", isNative := false, params := [⟨"", "not a type"⟩] },
    { name := "get", returns := "int[]", isStatic := true },
    { name := "put" }]

/-- The native methods of that class. -/
def scatteredClass : NativeClass where
  name := ⟨"p.C"⟩
  methods := [
    { owner := ⟨"p.C"⟩, name := "get", params := [], returns := .array (.primitive .int)
      isStatic := true, isOverloaded := false, position := 2 },
    { owner := ⟨"p.C"⟩, name := "put", returns := .void, isStatic := false, isOverloaded := true
      params := [⟨"key", .primitive .int⟩, ⟨"arg1", .object "java.lang.String"⟩]
      position := 0 },
    { owner := ⟨"p.C"⟩, name := "put", params := [], returns := .void, isStatic := false
      isOverloaded := true, position := 3 }]

/-- A method that is not native counts for positions, but makes no other one overloaded. -/
theorem native_surface_scattered :
    scatteredDecl.resolve = .ok scatteredClass ∧
      (scatteredClass.methods.map (·.position)).Nodup ∧
      (∀ position, position ∈ scatteredClass.methods.map (·.position) ↔
        ∃ declared, scatteredDecl.methods[position]? = some declared ∧ declared.isNative) ∧
      scatteredClass.methods.Pairwise (·.rank < ·.rank) ∧
      ∀ method ∈ scatteredClass.methods,
        (∃ declared, scatteredDecl.methods[method.position]? = some declared ∧
          method.StandsFor declared) ∧
          (method.isOverloaded ↔ scatteredDecl.HasNamesake method.name method.position) ∧
          method.symbol = Symbol.exported scatteredDecl.name method.name method.isOverloaded
            method.paramTypes := by
  have hresolve : scatteredDecl.resolve = .ok scatteredClass := by
    rw [resolve, natives_eq_insertionSort]
    decide +kernel
  exact ⟨hresolve, native_surface hresolve⟩

end ClassDecl

end NativeBindings
