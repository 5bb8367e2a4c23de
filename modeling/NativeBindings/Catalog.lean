import NativeBindings.Binding.Backend

/-!
# The catalog of backends

Backends are found by name. Blanks around a name and the case of its ASCII letters do not matter.
-/

namespace NativeBindings

/-- The backends that come with the library. -/
inductive Builtin
  /-- Binding modules in Rust. -/
  | rust
  deriving DecidableEq, Repr

namespace Builtin

/-- Every backend that comes with the library. -/
def all : List Builtin :=
  [rust]

/-- The name of a backend. -/
def name : Builtin → String
  | rust => "rust"

/-- The backend, made from settings. -/
def make (launch : Launcher) : Builtin → Settings → Backend
  | rust, settings => Binding.backend launch (.ofSettings settings)

/-- The backend with a name, whatever its outer blanks and the case of its letters. -/
def ofName (name : String) : Except Failure Builtin :=
  match all.find? fun known => Text.sameLetters known.name.toList (Text.trim name.toList) with
  | some known => .ok known
  | none => .error (.config (.unknownBackend name))

end Builtin

/-- How a backend is made from settings. -/
abbrev Maker := Settings → Backend

/-- Makers of backends by the normal forms of their names, in increasing order. -/
structure Catalog where
  makers : List (String × Maker)

namespace Catalog

/-- The form of a name under which a backend is found: no outer blanks, and ASCII letters in lower
case. -/
def key (name : String) : String :=
  String.ofList ((Text.trim name.toList).map Char.toLower)

/-- A catalog without backends. -/
def empty : Catalog :=
  ⟨[]⟩

/-- Put a maker where its key belongs, in the place of one with the same key. -/
def insert (key : String) (maker : Maker) : List (String × Maker) → List (String × Maker)
  | [] => [(key, maker)]
  | entry :: rest =>
    if key < entry.1 then (key, maker) :: entry :: rest
    else if key = entry.1 then (key, maker) :: rest
    else entry :: insert key maker rest

/-- After a maker is put under a key, that key leads to it, and every other key to what it led to
before. -/
theorem find?_insert (key : String) (maker : Maker) (makers : List (String × Maker))
    (other : String) :
    (insert key maker makers).find? (·.1 == other) =
      if other = key then some (key, maker) else makers.find? (·.1 == other) := by
  induction makers with
  | nil =>
    by_cases h : other = key
    · simp [insert, h]
    · simp [insert, h, Ne.symm h]
  | cons entry rest ih =>
    rw [insert]
    split
    · by_cases h : other = key
      · simp [h]
      · simp [h, Ne.symm h]
    · split
      · next hkey =>
        by_cases h : other = key
        · simp [h]
        · simp [h, ← hkey, Ne.symm h]
      · next hkey =>
        by_cases h : other = key
        · subst h
          simp [ih, Ne.symm hkey]
        · simp [List.find?_cons, ih, h]

/-- Add a backend, or replace the one with the same name. -/
def add (catalog : Catalog) (name : String) (maker : Maker) : Catalog :=
  ⟨insert (key name) maker catalog.makers⟩

/-- The catalog of the backends that come with the library. -/
def builtins (launch : Launcher) : Catalog :=
  Builtin.all.foldl (fun catalog known => catalog.add known.name (known.make launch)) empty

/-- The maker under a name. -/
def find? (catalog : Catalog) (name : String) : Option Maker :=
  (catalog.makers.find? (·.1 == key name)).map (·.2)

/-- Whether a backend has the name. -/
def contains (catalog : Catalog) (name : String) : Bool :=
  (catalog.find? name).isSome

/-- The keys of the backends, sorted. -/
def names (catalog : Catalog) : List String :=
  catalog.makers.map (·.1)

/-- Make the backend with a name. -/
def make (catalog : Catalog) (name : String) (settings : Settings) : Except Failure Backend :=
  match catalog.find? name with
  | some maker => .ok (maker settings)
  | none => .error (.config (.unregisteredBackend name catalog.names))

/-- Make the backend that settings ask for. -/
def ofSettings (catalog : Catalog) (settings : Settings) : Except Failure Backend :=
  catalog.make settings.backend settings

end Catalog

end NativeBindings
