import Mathlib.Data.Option.Basic
import Mathlib.Logic.Relator
import NativeBindings.Manifest
import NativeBindings.Proofs.Steps

/-!
# The records of a manifest

A manifest is a record, and so are its classes, their methods and the parameters of these. What is
read from a record depends on its fields alone, and on each of them only through what is read there:
of a list of records the records, and of anything else a text or a truth value. So two values give
one result, be they in one format or in two, if this is so for each of their fields.
-/

namespace NativeBindings.Manifest

open Document

/-- The kinds of records in a manifest. -/
inductive RecordKind
  | manifest
  | decl
  | method
  | param
  deriving DecidableEq, Repr

/-- A field of a record. -/
structure Field where
  key : String
  /-- What a missing field stands for, if it may be missing. -/
  default? : Option Value
  /-- The records that the field lists, if it does. -/
  items? : Option RecordKind

/-- The fields of a record, in the order in which a list gives their values. -/
def RecordKind.fields : RecordKind → List Field
  | manifest => [⟨"classes", some (.list []), some decl⟩]
  | decl => [⟨"name", none, none⟩, ⟨"methods", some (.list []), some method⟩]
  | method => [⟨"name", none, none⟩, ⟨"params", some (.list []), some param⟩,
      ⟨"returns", some (.text "void"), none⟩, ⟨"static", some (.boolean false), none⟩,
      ⟨"native", some (.boolean true), none⟩]
  | param => [⟨"name", some (.text ""), none⟩, ⟨"type", none, none⟩]

/-- The keys of a record. -/
def RecordKind.keys (kind : RecordKind) : List String :=
  kind.fields.map (·.key)

/-- What a record declares. -/
def RecordKind.Declared : RecordKind → Type
  | manifest => List ClassDecl
  | decl => ClassDecl
  | method => MethodDecl
  | param => ParamDecl

/-- Read a record. -/
def RecordKind.read (format : Format) : (kind : RecordKind) → Value → Option kind.Declared
  | manifest => classesOfValue? format
  | decl => ClassDecl.ofValue? format
  | method => MethodDecl.ofValue? format
  | param => ParamDecl.ofValue? format

/-- What belongs at a place of a manifest. -/
inductive Shape
  | record (kind : RecordKind)
  | records (kind : RecordKind)
  /-- A text or a truth value, or anything where nothing is read. -/
  | leaf
  deriving DecidableEq, Repr

/-- What belongs in a field. -/
def Field.shape (field : Field) : Shape :=
  match field.items? with
  | some kind => .records kind
  | none => .leaf

/-- The same is read from two values, one in each format. -/
def Shape.ReadAlike (format format' : Format) : Shape → Value → Value → Prop
  | record kind, value, value' => kind.read format value = kind.read format' value'
  | records kind, value, value' =>
    value.list? (kind.read format) = value'.list? (kind.read format')
  | leaf, value, value' => value.text? = value'.text? ∧ value.boolean? = value'.boolean? ∧
      value.isFit = value'.isFit

section

variable {format format' : Format}

/-- A value stands for itself. -/
theorem Shape.ReadAlike.refl (shape : Shape) (value : Value) :
    shape.ReadAlike format format value value := by
  cases shape with
  | record kind => rfl
  | records kind => rfl
  | leaf => exact ⟨rfl, rfl, rfl⟩

/-- A text or a truth value does not depend on the format. -/
theorem Shape.ReadAlike.leaf_refl (value : Value) :
    Shape.leaf.ReadAlike format format' value value :=
  ⟨rfl, rfl, rfl⟩

/-! ### Fields -/

/-- The same is read from two contents of a field. A content that the field has by default may be
missing. -/
inductive Field.Alike (format format' : Format) (field : Field) :
    Option Value → Option Value → Prop
  | missing : Alike format format' field none none
  | given {content content' : Value} (h : field.shape.ReadAlike format format' content content') :
    Alike format format' field (some content) (some content')
  | omitted {content : Value} (h : field.default? = some content) :
    Alike format format' field (some content) none

/-- The same is read from two lists of contents of fields. -/
inductive FieldsAlike (format format' : Format) :
    List Field → List (Option Value) → List (Option Value) → Prop
  | nil : FieldsAlike format format' [] [] []
  | cons {field : Field} {fields : List Field} {content content' : Option Value}
    {contents contents' : List (Option Value)} (head : field.Alike format format' content content')
    (tail : FieldsAlike format format' fields contents contents') :
    FieldsAlike format format' (field :: fields) (content :: contents) (content' :: contents')

variable {field : Field} {content content' : Option Value} {α : Type}
  {read read' : Value → Option α}

/-- A field that may be missing is read alike, given that its contents are and that its default is
read as the value that stands for a missing one. -/
theorem Field.Alike.optional_eq {default : α} (h : field.Alike format format' content content')
    (hread : ∀ value value', field.shape.ReadAlike format format' value value' →
      read value = read' value')
    (hdefault : ∀ value, field.default? = some value → read value = some default) :
    optional default read content = optional default read' content' := by
  cases h with
  | missing => rfl
  | given h => exact hread _ _ h
  | omitted h => exact hdefault _ h

/-- A field that has to be there is read alike. -/
theorem Field.Alike.required_eq (h : field.Alike format format' content content')
    (hread : ∀ value value', field.shape.ReadAlike format format' value value' →
      read value = read' value')
    (hdefault : field.default? = none) :
    required read content = required read' content' := by
  cases h with
  | missing => rfl
  | given h => exact hread _ _ h
  | omitted h =>
    rw [hdefault] at h
    contradiction

/-- A record is read alike if its fields are. -/
theorem RecordKind.read_eq_of_fieldsAlike {kind : RecordKind} {value value' : Value}
    (h : Option.Rel (FieldsAlike format format' kind.fields) (value.fields? format kind.keys)
      (value'.fields? format' kind.keys)) :
    kind.read format value = kind.read format' value' := by
  have htext : ∀ value value', Shape.leaf.ReadAlike format format' value value' →
      value.text? = value'.text? := fun _ _ h => h.1
  have hboolean : ∀ value value', Shape.leaf.ReadAlike format format' value value' →
      value.boolean? = value'.boolean? := fun _ _ h => h.2.1
  -- The contents of the fields are taken apart as each kind of record has them.
  cases kind with
  | manifest =>
    refine bind_eq_of_rel h fun _ _ halike => ?_
    obtain _ | ⟨hclasses, _ | _⟩ := halike
    exact hclasses.optional_eq (fun _ _ h => h) (by simp [Value.list?])
  | decl =>
    refine bind_eq_of_rel h fun _ _ halike => ?_
    obtain _ | ⟨hname, _ | ⟨hmethods, _ | _⟩⟩ := halike
    have hmethods : optional [] (Value.list? (MethodDecl.ofValue? format)) _ =
        optional [] (Value.list? (MethodDecl.ofValue? format')) _ :=
      hmethods.optional_eq (fun _ _ h => h) (by simp [Value.list?])
    dsimp only
    rw [hname.required_eq htext rfl, hmethods]
  | method =>
    refine bind_eq_of_rel h fun _ _ halike => ?_
    obtain _ | ⟨hname, _ | ⟨hparams, _ | ⟨hreturns, _ | ⟨hstatic, _ | ⟨hnative, _ | _⟩⟩⟩⟩⟩ := halike
    have hparams : optional [] (Value.list? (ParamDecl.ofValue? format)) _ =
        optional [] (Value.list? (ParamDecl.ofValue? format')) _ :=
      hparams.optional_eq (fun _ _ h => h) (by simp [Value.list?])
    dsimp only
    rw [hname.required_eq htext rfl, hparams,
      hreturns.optional_eq htext (by simp [Value.text?]),
      hstatic.optional_eq hboolean (by simp [Value.boolean?]),
      hnative.optional_eq hboolean (by simp [Value.boolean?])]
  | param =>
    refine bind_eq_of_rel h fun _ _ halike => ?_
    obtain _ | ⟨hname, _ | ⟨htype, _ | _⟩⟩ := halike
    dsimp only
    rw [hname.optional_eq htext (by simp [Value.text?]), htype.required_eq htext rfl]

/-! ### The fields of a record -/

/-- What a record has under a key: nothing, or one content. A key that stands twice is an error. -/
def contentOf? (entries : List (String × Value)) (key : String) : Option (Option Value) :=
  match entries.filter (·.1 == key) with
  | [] => some none
  | [entry] => some (some entry.2)
  | _ => none

/-- Contents that are alike under each key are alike as lists. -/
theorem rel_mapM_keys {fields : List Field} {contentAt contentAt' : String → Option (Option Value)}
    (h : ∀ field ∈ fields, Option.Rel (field.Alike format format') (contentAt field.key)
      (contentAt' field.key)) :
    Option.Rel (FieldsAlike format format' fields) ((fields.map (·.key)).mapM contentAt)
      ((fields.map (·.key)).mapM contentAt') := by
  induction fields with
  | nil => exact .some .nil
  | cons field fields ih =>
    obtain ⟨hfield, hfields⟩ := List.forall_mem_cons.mp h
    have htail := ih hfields
    rw [List.map_cons, List.mapM_cons, List.mapM_cons]
    generalize contentAt field.key = head, contentAt' field.key = head' at hfield
    generalize (fields.map (·.key)).mapM contentAt = tail,
      (fields.map (·.key)).mapM contentAt' = tail' at htail
    obtain ⟨hfield⟩ | _ := hfield
    · obtain ⟨htail⟩ | _ := htail
      · exact .some (.cons hfield htail)
      · exact .none
    · exact .none

/-- Two records are alike if what they have under each key is, and the numbers under other keys fit
in both or in neither. -/
theorem rel_fields?_record {kind : RecordKind} {entries entries' : List (String × Value)}
    (hfit : haveFitContents (entries.filter (·.1 ∉ kind.keys)) =
      haveFitContents (entries'.filter (·.1 ∉ kind.keys)))
    (hcontent : ∀ field ∈ kind.fields, Option.Rel (field.Alike format format')
      (contentOf? entries field.key) (contentOf? entries' field.key)) :
    Option.Rel (FieldsAlike format format' kind.fields)
      ((Value.record entries).fields? format kind.keys)
      ((Value.record entries').fields? format' kind.keys) := by
  rw [Value.fields?, Value.fields?, hfit]
  split
  · exact rel_mapM_keys hcontent
  · exact .none

/-! ### The fields of a list -/

/-- A list gives the content of a field at the place of the field, if it is long enough. -/
theorem getElem?_contents {items : List Value} {count i : Nat} (h : i < count) :
    ((items.map some ++ List.replicate count none).take count)[i]? = some items[i]? := by
  rw [List.getElem?_take_of_lt h]
  by_cases hi : i < items.length
  · rw [List.getElem?_append_left (by rwa [List.length_map]), List.getElem?_map,
      List.getElem?_eq_getElem hi]
    rfl
  · have hlength : (items.map some).length ≤ i := by
      rw [List.length_map]
      exact Nat.le_of_not_lt hi
    rw [List.getElem?_append_right hlength, List.getElem?_replicate_of_lt (by omega),
      List.getElem?_eq_none (Nat.le_of_not_lt hi)]

/-- Lists of contents are alike if they are at the place of each field. -/
theorem fieldsAlike_of_getElem? {fields : List Field} {contents contents' : List (Option Value)}
    (hlength : contents.length = fields.length) (hlength' : contents'.length = fields.length)
    (h : ∀ (i : Nat) (field : Field) (content content' : Option Value),
      fields[i]? = some field → contents[i]? = some content → contents'[i]? = some content' →
        field.Alike format format' content content') :
    FieldsAlike format format' fields contents contents' := by
  induction fields generalizing contents contents' with
  | nil =>
    obtain rfl := List.length_eq_zero_iff.mp hlength
    obtain rfl := List.length_eq_zero_iff.mp hlength'
    exact .nil
  | cons field fields ih =>
    obtain ⟨content, contents, rfl⟩ := List.exists_cons_of_length_eq_add_one hlength
    obtain ⟨content', contents', rfl⟩ := List.exists_cons_of_length_eq_add_one hlength'
    refine .cons (h 0 field content content' rfl rfl rfl) ?_
    exact ih (Nat.succ.inj hlength) (Nat.succ.inj hlength') fun i => h (i + 1)

/-- Two lists are alike as records if they are at the place of each field, and surplus items do not
matter or are in both or in neither. -/
theorem rel_fields?_list {kind : RecordKind} {items items' : List Value}
    (hsurplus : (items.length ≤ kind.keys.length ∨ format = .toml) ↔
      (items'.length ≤ kind.keys.length ∨ format' = .toml))
    (hitem : ∀ (i : Nat) (field : Field), kind.fields[i]? = some field →
      field.Alike format format' items[i]? items'[i]?) :
    Option.Rel (FieldsAlike format format' kind.fields)
      ((Value.list items).fields? format kind.keys)
      ((Value.list items').fields? format' kind.keys) := by
  have hcount : kind.keys.length = kind.fields.length := List.length_map _
  simp only [Value.fields?, hsurplus]
  split
  · refine .some (fieldsAlike_of_getElem? (by simp [hcount]) (by simp [hcount]) ?_)
    intro i field content content' hfield hcontent hcontent'
    have hi : i < kind.keys.length := hcount ▸ (List.getElem?_eq_some_iff.mp hfield).1
    rw [getElem?_contents hi] at hcontent hcontent'
    obtain rfl := Option.some.inj hcontent
    obtain rfl := Option.some.inj hcontent'
    exact hitem i field hfield
  · exact .none

end

end NativeBindings.Manifest
