import Mathlib.Data.List.Induction
import Mathlib.Data.String.Basic
import NativeBindings.Catalog

/-!
# Registered backends

What a catalog finds, makes and lists is told by the calls that registered its backends. Two names
with one key are one name to it, and of the calls under one key the last counts. Every call keeps
the keys in order, so that none is listed twice.
-/

namespace NativeBindings

namespace Catalog

/-- Register makers under names, one after the other. -/
def addAll (catalog : Catalog) (calls : List (String × Maker)) : Catalog :=
  calls.foldl (fun catalog call => catalog.add call.1 call.2) catalog

/-- The last of the calls whose names have the key of a name. -/
def lastCall? (calls : List (String × Maker)) (name : String) : Option (String × Maker) :=
  (calls.filter fun call => key call.1 = key name).getLast?

/-- A maker comes from the last of the calls under a name. -/
def IsLastMaker (calls : List (String × Maker)) (name : String) (maker : Maker) : Prop :=
  ∃ earlier other later, calls = earlier ++ (other, maker) :: later ∧ key other = key name ∧
    ∀ call ∈ later, key call.1 ≠ key name

/-- The calls that register the backends of the library. -/
def builtinCalls (launch : Launcher) : List (String × Maker) :=
  Builtin.all.map fun known => (known.name, known.make launch)

/-- The catalog of the library is made by these calls. -/
theorem builtins_eq_addAll (launch : Launcher) :
    builtins launch = empty.addAll (builtinCalls launch) := by
  rw [builtins, addAll, builtinCalls, List.foldl_map]

/-! ### The last call under a name -/

/-- A further call is the last one under its own name, and changes nothing under the others. -/
theorem lastCall?_append_singleton (calls : List (String × Maker)) (call : String × Maker)
    (name : String) :
    lastCall? (calls ++ [call]) name =
      if key name = key call.1 then some call else lastCall? calls name := by
  rw [lastCall?, List.filter_append, List.filter_singleton]
  by_cases h : key name = key call.1
  · simp [h]
  · simp [h, Ne.symm h, lastCall?]

/-- No call is the last one under a name exactly if there is none. -/
theorem lastCall?_eq_none_iff {calls : List (String × Maker)} {name : String} :
    lastCall? calls name = none ↔ ∀ call ∈ calls, key call.1 ≠ key name := by
  rw [lastCall?, List.getLast?_eq_none_iff, List.filter_eq_nil_iff]
  simp

/-- The last call under a name is followed by none under it. -/
theorem isLastMaker_of_lastCall? {calls : List (String × Maker)} {name : String}
    {call : String × Maker} (h : lastCall? calls name = some call) :
    IsLastMaker calls name call.2 := by
  induction calls using List.reverseRecOn with
  | nil => simp [lastCall?] at h
  | append_singleton calls last ih =>
    rw [lastCall?_append_singleton] at h
    split at h
    · next hkey =>
      obtain rfl := Option.some.inj h
      exact ⟨calls, last.1, [], rfl, hkey.symm, by simp⟩
    · next hkey =>
      obtain ⟨earlier, other, later, rfl, hother, hlater⟩ := ih h
      refine ⟨earlier, other, later ++ [last], by simp, hother, fun call hcall => ?_⟩
      rcases List.mem_append.mp hcall with hcall | hcall
      · exact hlater call hcall
      · rw [List.mem_singleton.mp hcall]
        exact Ne.symm hkey

/-! ### One call -/

/-- Putting a maker under a key adds this key and no other. -/
theorem mem_insert_keys {new key : String} {maker : Maker} {makers : List (String × Maker)} :
    key ∈ (insert new maker makers).map (·.1) ↔ key = new ∨ key ∈ makers.map (·.1) := by
  induction makers with
  | nil => simp [insert]
  | cons entry rest ih =>
    rw [insert]
    split
    · simp
    · split
      · next hsame => simp [hsame]
      · rw [List.map_cons, List.mem_cons, ih, List.map_cons, List.mem_cons, or_left_comm]

/-- Increasing keys stay so when a maker is put under one. -/
theorem pairwise_insert_keys {new : String} {maker : Maker} {makers : List (String × Maker)}
    (h : (makers.map (·.1)).Pairwise (· < ·)) :
    ((insert new maker makers).map (·.1)).Pairwise (· < ·) := by
  induction makers with
  | nil => simp [insert]
  | cons entry rest ih =>
    obtain ⟨hhead, hrest⟩ := List.pairwise_cons.mp h
    rw [insert]
    split
    · next hlt =>
      refine List.pairwise_cons.mpr ⟨fun key hkey => ?_, h⟩
      rcases List.mem_cons.mp hkey with rfl | hkey
      · exact hlt
      · exact hlt.trans (hhead key hkey)
    · next hlt =>
      split
      · next hsame =>
        rw [hsame]
        exact h
      · next hsame =>
        refine List.pairwise_cons.mpr ⟨fun key hkey => ?_, ih hrest⟩
        rcases mem_insert_keys.mp hkey with rfl | hkey
        · exact lt_of_le_of_ne (not_lt.mp hlt) (Ne.symm hsame)
        · exact hhead key hkey

/-- After a backend is added, its name leads to it, and every other name to what it led to
before. -/
theorem find?_add (catalog : Catalog) (name : String) (maker : Maker) (other : String) :
    (catalog.add name maker).find? other =
      if key other = key name then some maker else catalog.find? other := by
  rw [find?, add, find?_insert]
  split
  · rfl
  · rfl

/-- A backend can be made exactly if the catalog has its name. -/
theorem make_succeeds_iff {catalog : Catalog} {name : String} {settings : Settings} :
    (∃ backend, catalog.make name settings = .ok backend) ↔ catalog.contains name = true := by
  rw [make, contains]
  cases catalog.find? name with
  | some maker => simp
  | none => simp

/-! ### A run of calls -/

/-- What a catalog holds is what calls have registered. -/
structure Records (catalog : Catalog) (calls : List (String × Maker)) : Prop where
  found : ∀ name, catalog.find? name = (lastCall? calls name).map (·.2)
  listed : ∀ k, k ∈ catalog.names ↔ ∃ call ∈ calls, key call.1 = k
  increasing : catalog.names.Pairwise (· < ·)

namespace Records

variable {catalog : Catalog} {calls : List (String × Maker)}

/-- The empty catalog records no calls. -/
theorem empty : Records Catalog.empty [] where
  found _ := rfl
  listed := by simp [Catalog.empty, names]
  increasing := List.Pairwise.nil

/-- A catalog goes on to record a further call. -/
theorem add (h : catalog.Records calls) (call : String × Maker) :
    (catalog.add call.1 call.2).Records (calls ++ [call]) where
  found name := by
    rw [find?_add, lastCall?_append_singleton, h.found]
    split
    · rfl
    · rfl
  listed k := by
    have hnames : k ∈ (catalog.add call.1 call.2).names ↔ k = key call.1 ∨ k ∈ catalog.names :=
      mem_insert_keys
    rw [hnames, h.listed]
    simp only [List.mem_append, List.mem_singleton, or_and_right, exists_or, exists_eq_left]
    rw [or_comm, eq_comm]
  increasing := pairwise_insert_keys h.increasing

/-- A catalog goes on to record all further calls. -/
theorem addAll (h : catalog.Records calls) (more : List (String × Maker)) :
    (catalog.addAll more).Records (calls ++ more) := by
  induction more generalizing catalog calls with
  | nil =>
    rw [List.append_nil]
    exact h
  | cons call more ih =>
    rw [← List.singleton_append, ← List.append_assoc]
    exact ih (h.add call)

/-- The catalog of the library records the calls that make it. -/
theorem builtins (launch : Launcher) : (Catalog.builtins launch).Records (builtinCalls launch) := by
  rw [builtins_eq_addAll]
  exact empty.addAll (builtinCalls launch)

/-- A catalog has a backend with a name exactly if a call has registered one. -/
theorem contains_iff (h : catalog.Records calls) (name : String) :
    catalog.contains name = true ↔ ∃ call ∈ calls, key call.1 = key name := by
  rw [contains, h.found, Option.isSome_map, Option.isSome_iff_ne_none, Ne, lastCall?_eq_none_iff]
  push Not
  rfl

/-- The backend with a name comes from the last call under it; without such a call it cannot be
made. -/
theorem make_cases (h : catalog.Records calls) (name : String) (settings : Settings) :
    (∃ maker, IsLastMaker calls name maker ∧ catalog.make name settings = .ok (maker settings)) ∨
      (∀ call ∈ calls, key call.1 ≠ key name) ∧
        catalog.make name settings =
          .error (.config (.unregisteredBackend name catalog.names)) := by
  rw [make, h.found]
  cases hlast : lastCall? calls name with
  | some call => exact Or.inl ⟨call.2, isLastMaker_of_lastCall? hlast, rfl⟩
  | none => exact Or.inr ⟨lastCall?_eq_none_iff.mp hlast, rfl⟩

end Records

/-! ### The names of the library's backends -/

/-- Two texts are the same but for the case of ASCII letters exactly if they are the same with
these in lower case. -/
theorem sameLetters_iff {cs cs' : List Char} :
    Text.sameLetters cs cs' = true ↔ cs.map Char.toLower = cs'.map Char.toLower := by
  induction cs generalizing cs' with
  | nil => cases cs' <;> simp [Text.sameLetters]
  | cons c cs ih => cases cs' <;> simp [Text.sameLetters, ih]

/-- Names are the same to a catalog exactly if they are the same but for outer blanks and the case
of ASCII letters. -/
theorem key_eq_key_iff {name other : String} :
    key name = key other ↔
      Text.sameLetters (Text.trim name.toList) (Text.trim other.toList) = true := by
  rw [sameLetters_iff, key, key, String.ofList_inj]

/-- No backend of the library has a name with outer blanks. -/
theorem trim_builtin_name (known : Builtin) : Text.trim known.name.toList = known.name.toList := by
  cases known
  decide

/-- The name of a backend of the library is read exactly if a call of the library registers it. -/
theorem ofName_succeeds_iff (launch : Launcher) (name : String) :
    (∃ known, Builtin.ofName name = .ok known) ↔
      ∃ call ∈ builtinCalls launch, key call.1 = key name := by
  have hcalls : (∃ call ∈ builtinCalls launch, key call.1 = key name) ↔
      ∃ known ∈ Builtin.all,
        Text.sameLetters known.name.toList (Text.trim name.toList) = true := by
    simp only [builtinCalls, List.mem_map, exists_exists_and_eq_and, key_eq_key_iff,
      trim_builtin_name]
  rw [hcalls, ← List.find?_isSome, Builtin.ofName]
  cases Builtin.all.find? _ with
  | some known => exact iff_of_true ⟨known, rfl⟩ rfl
  | none => exact iff_of_false (by simp) (by simp)

/-- What calls make of a catalog that is empty or the library's own. Written `calls` for them and
those of the library before them: the catalog has exactly the names with the key of a call. A name
that it has leads to the maker of the last call with its key; any other is refused, in the words in
which it was asked for, with a list of the keys. The keys are listed in increasing order, each
once. Without further calls, the library's own catalog has the names that its backends are read
from. -/
theorem refines_calls (launch : Launcher) (withBuiltins : Bool) (more : List (String × Maker)) :
    let catalog := (if withBuiltins then builtins launch else empty).addAll more
    let calls := (if withBuiltins then builtinCalls launch else []) ++ more
    (∀ name, catalog.contains name = true ↔ ∃ call ∈ calls, key call.1 = key name) ∧
      (∀ name settings,
        (∃ maker, IsLastMaker calls name maker ∧
          catalog.make name settings = .ok (maker settings)) ∨
        (∀ call ∈ calls, key call.1 ≠ key name) ∧
          ∃ cause, catalog.make name settings = .error (.config cause) ∧
            (Failure.config cause).message =
              "configuration error: " ++ ("unknown backend: " ++ name ++
                " (available: " ++ String.intercalate ", " catalog.names ++ ")")) ∧
      (∀ k, k ∈ catalog.names ↔ ∃ call ∈ calls, key call.1 = k) ∧
      catalog.names.Pairwise (· < ·) ∧ catalog.names.Nodup ∧
      ∀ name settings,
        (∃ backend, (builtins launch).make name settings = .ok backend) ↔
          ∃ known, Builtin.ofName name = .ok known := by
  intro catalog calls
  have h : catalog.Records calls := by
    cases withBuiltins with
    | false => exact Records.empty.addAll more
    | true => exact (Records.builtins launch).addAll more
  clear_value catalog calls
  have hnodup : catalog.names.Nodup := h.increasing.imp ne_of_lt
  refine ⟨h.contains_iff, fun name settings => ?_, h.listed, h.increasing, hnodup,
    fun name settings => ?_⟩
  · rcases h.make_cases name settings with hmade | ⟨hnone, hrefused⟩
    · exact Or.inl hmade
    · exact Or.inr ⟨hnone, _, hrefused, rfl⟩
  · rw [ofName_succeeds_iff launch, ← (Records.builtins launch).contains_iff]
    exact make_succeeds_iff

end Catalog

end NativeBindings
