/-!
# Document trees

Configuration and manifests are read into one kind of tree, whatever the notation of the
document. A number or a timestamp is never the value of a field that is used, so their contents
are not kept.
-/

namespace NativeBindings.Document

/-- A value of a document. -/
inductive Value
  | null
  | boolean (value : Bool)
  | number
  /-- A number that no machine number holds. It may stand only where nothing looks at it. -/
  | unfit
  | timestamp
  | text (value : String)
  /-- A text that is no Unicode text, or an object with such a key. It may stand only where
  nothing reads it. -/
  | garbled
  | list (items : List Value)
  | record (fields : List (String × Value))

/-- The formats of documents. -/
inductive Format
  | toml
  | json
  deriving DecidableEq, Repr

mutual

/-- Whether every number in a value fits a machine number. -/
def Value.isFit : Value → Bool
  | .unfit => false
  | .list items => areFit items
  | .record fields => haveFitContents fields
  | _ => true

/-- Whether every number in values fits a machine number. -/
def areFit : List Value → Bool
  | [] => true
  | item :: rest => item.isFit && areFit rest

/-- Whether every number in fields fits a machine number. -/
def haveFitContents : List (String × Value) → Bool
  | [] => true
  | (_, content) :: rest => content.isFit && haveFitContents rest

end

mutual

/-- Whether two values are the same. -/
def Value.same : Value → Value → Bool
  | .null, .null => true
  | .boolean a, .boolean b => a == b
  | .number, .number => true
  | .unfit, .unfit => true
  | .timestamp, .timestamp => true
  | .text a, .text b => a == b
  | .garbled, .garbled => true
  | .list as, .list bs => sameItems as bs
  | .record as, .record bs => sameFields as bs
  | _, _ => false

/-- Whether two lists of values are the same. -/
def sameItems : List Value → List Value → Bool
  | [], [] => true
  | a :: as, b :: bs => a.same b && sameItems as bs
  | _, _ => false

/-- Whether two lists of fields are the same. -/
def sameFields : List (String × Value) → List (String × Value) → Bool
  | [], [] => true
  | (key, a) :: as, (key', b) :: bs => key == key' && a.same b && sameFields as bs
  | _, _ => false

end

mutual

/-- Two values are found to be the same exactly if they are. -/
theorem Value.same_iff : (a b : Value) → (a.same b = true ↔ a = b)
  | .list as, b => by cases b <;> simp [Value.same, sameItems_iff as]
  | .record as, b => by cases b <;> simp [Value.same, sameFields_iff as]
  | .null, b => by cases b <;> simp [Value.same]
  | .boolean _, b => by cases b <;> simp [Value.same]
  | .number, b => by cases b <;> simp [Value.same]
  | .unfit, b => by cases b <;> simp [Value.same]
  | .timestamp, b => by cases b <;> simp [Value.same]
  | .text _, b => by cases b <;> simp [Value.same]
  | .garbled, b => by cases b <;> simp [Value.same]

/-- Two lists of values are found to be the same exactly if they are. -/
theorem sameItems_iff : (as bs : List Value) → (sameItems as bs = true ↔ as = bs)
  | [], bs => by cases bs <;> simp [sameItems]
  | a :: as, bs => by cases bs <;> simp [sameItems, Value.same_iff a, sameItems_iff as]

/-- Two lists of fields are found to be the same exactly if they are. -/
theorem sameFields_iff : (as bs : List (String × Value)) → (sameFields as bs = true ↔ as = bs)
  | [], bs => by cases bs <;> simp [sameFields]
  | (_, a) :: as, bs => by
    cases bs with
    | nil => simp [sameFields]
    | cons b bs => simp [sameFields, Value.same_iff a, sameFields_iff as, Prod.ext_iff]

end

instance : DecidableEq Value :=
  fun a b => decidable_of_iff (a.same b = true) (a.same_iff b)

/-- The values that stand for the named fields of a record. A list gives them in order; fields may
be missing at its end, and TOML passes over items beyond the last field, which JSON refuses. A
record has each field at most once, next to others, whose numbers are looked at. -/
def Value.fields? (format : Format) (names : List String) : Value → Option (List (Option Value))
  | list items =>
    if items.length ≤ names.length ∨ format = .toml then
      some ((items.map some ++ List.replicate names.length none).take names.length)
    else none
  | record fields =>
    if haveFitContents (fields.filter (·.1 ∉ names)) then
      names.mapM fun name =>
        match fields.filter (·.1 == name) with
        | [] => some none
        | [field] => some (some field.2)
        | _ => none
    else none
  | _ => none

/-- The characters of a text. -/
def Value.text? : Value → Option String
  | text value => some value
  | _ => none

/-- A truth value. -/
def Value.boolean? : Value → Option Bool
  | boolean value => some value
  | _ => none

/-- A list whose items are all read by one reader. -/
def Value.list? {α : Type} (read : Value → Option α) : Value → Option (List α)
  | list items => items.mapM read
  | _ => none

/-- A field that may be missing. -/
def optional {α : Type} (default : α) (read : Value → Option α) : Option Value → Option α
  | none => some default
  | some value => read value

/-- A field that has to be there. -/
def required {α : Type} (read : Value → Option α) : Option Value → Option α
  | none => none
  | some value => read value

end NativeBindings.Document
