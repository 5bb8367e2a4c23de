import NativeBindings.Proofs.ManifestEdits
import NativeBindings.Proofs.Steps

/-!
# Manifests in both formats

JSON and TOML documents that hold the same tree declare the same classes, with one exception. A list
may stand for a record, and give its fields in order. If it has more items than the record has
fields, then JSON refuses the document, while TOML passes over the surplus items.
-/

namespace NativeBindings.Manifest

open Document

/-- At some place of a manifest, a list stands for a record and has more items than fields. -/
inductive HasSurplus : Shape → Value → Prop
  | here {kind : RecordKind} {items : List Value} (h : kind.fields.length < items.length) :
    HasSurplus (.record kind) (.list items)
  | field {shape : Shape} {key : String} {content : Value} {entries : List (String × Value)}
    (hentry : (key, content) ∈ entries) (h : HasSurplus (shape.field key) content) :
    HasSurplus shape (.record entries)
  | item {shape : Shape} {i : Nat} {content : Value} {items : List Value}
    (hitem : items[i]? = some content) (h : HasSurplus (shape.item i) content) :
    HasSurplus shape (.list items)

/-! ### Without surplus items -/

/-- The content under a key is that of a field with this key. -/
theorem mem_of_contentOf? {entries : List (String × Value)} {key : String} {content : Value}
    (h : contentOf? entries key = some (some content)) : (key, content) ∈ entries := by
  rw [contentOf?] at h
  split at h
  · simp at h
  · next entry hfilter =>
    obtain rfl := Option.some.inj (Option.some.inj h)
    have hentry : entry ∈ entries.filter (·.1 == key) := by simp [hfilter]
    obtain ⟨hmem, hkey⟩ := List.mem_filter.mp hentry
    rwa [← beq_iff_eq.mp hkey]
  · contradiction

/-- Both formats agree on a kind of records: where there are no surplus items, JSON reads what TOML
reads. -/
def RecordKind.Agrees (kind : RecordKind) : Prop :=
  ∀ value, ¬ HasSurplus (.record kind) value → kind.read .json value = kind.read .toml value

/-- Formats that agree on records agree on lists of them. -/
theorem RecordKind.Agrees.readAlike_records {kind : RecordKind} {value : Value} (h : kind.Agrees)
    (hvalue : ¬ HasSurplus (.records kind) value) :
    (Shape.records kind).ReadAlike .json .toml value value := by
  cases value with
  | list items =>
    refine mapM_eq_of_forall_mem fun item hitem => ?_
    obtain ⟨i, hi⟩ := List.mem_iff_getElem?.mp hitem
    exact h item fun hsurplus => hvalue (.item hi hsurplus)
  | _ => simp only [Shape.ReadAlike, Value.list?]

/-- Formats that agree on the records in a field agree on the field. -/
theorem Field.readAlike_of_agrees {field : Field} {value : Value}
    (h : ∀ kind, field.items? = some kind → kind.Agrees) (hvalue : ¬ HasSurplus field.shape value) :
    field.shape.ReadAlike .json .toml value value := by
  cases hitems : field.items? with
  | none =>
    have hshape : field.shape = .leaf := by rw [Field.shape, hitems]
    rw [hshape]
    exact .leaf_refl value
  | some kind =>
    have hshape : field.shape = .records kind := by rw [Field.shape, hitems]
    rw [hshape] at hvalue ⊢
    exact (h kind hitems).readAlike_records hvalue

/-- Formats agree on records if they agree on those in their fields. -/
theorem RecordKind.agrees_of_items {kind : RecordKind}
    (h : ∀ field ∈ kind.fields, ∀ inner, field.items? = some inner → inner.Agrees) :
    kind.Agrees := by
  intro value hvalue
  cases value with
  | list items =>
    refine kind.read_eq_of_fieldsAlike (rel_fields?_list ?_ fun i field hfield => ?_)
    · have hcount : items.length ≤ kind.keys.length := by
        rw [RecordKind.keys, List.length_map]
        exact Nat.le_of_not_lt fun hsurplus => hvalue (.here hsurplus)
      exact iff_of_true (Or.inl hcount) (Or.inl hcount)
    · cases hitem : items[i]? with
      | none => exact .missing
      | some content =>
        refine .given (Field.readAlike_of_agrees (h field (List.mem_of_getElem? hfield)) ?_)
        intro hsurplus
        rw [← Shape.item_eq hfield] at hsurplus
        exact hvalue (.item hitem hsurplus)
  | record entries =>
    refine kind.read_eq_of_fieldsAlike (rel_fields?_record rfl fun field hfield => ?_)
    match hfound : contentOf? entries field.key with
    | none => exact .none
    | some none => exact .some .missing
    | some (some content) =>
      refine .some (.given (Field.readAlike_of_agrees (h field hfield) fun hsurplus => ?_))
      rw [← Shape.field_key hfield] at hsurplus
      exact hvalue (.field (mem_of_contentOf? hfound) hsurplus)
  | _ => exact kind.read_eq_of_fieldsAlike .none

/-! ### With surplus items -/

section

variable {format : Format} {kind : RecordKind}

/-- What stands at a place of a manifest can be read. Where nothing is read, anything can. -/
def Shape.IsRead (format : Format) : Shape → Value → Prop
  | record kind, value => (kind.read format value).isSome
  | records kind, value => (value.list? (kind.read format)).isSome
  | leaf, _ => True

/-- The contents of fields can be read, as far as they are there. -/
inductive FieldsRead (format : Format) : List Field → List (Option Value) → Prop
  | nil : FieldsRead format [] []
  | cons {field : Field} {fields : List Field} {content : Option Value}
    {contents : List (Option Value)} (head : ∀ value ∈ content, field.shape.IsRead format value)
    (tail : FieldsRead format fields contents) :
    FieldsRead format (field :: fields) (content :: contents)

/-- If a field that may be missing is read, then so is its content. -/
theorem isSome_of_optional {α : Type} {default a : α} {read : Value → Option α}
    {content : Option Value} (h : optional default read content = some a) :
    ∀ value ∈ content, (read value).isSome := by
  rintro value rfl
  exact Option.isSome_of_eq_some h

/-- If a record is read, then so are its fields. -/
theorem Shape.IsRead.fieldsRead {value : Value} (h : (record kind).IsRead format value) :
    ∃ contents, value.fields? format kind.keys = some contents ∧
      FieldsRead format kind.fields contents := by
  obtain ⟨declared, h⟩ := Option.isSome_iff_exists.mp h
  cases kind with
  | manifest =>
    obtain ⟨contents, hcontents, h⟩ := Option.bind_eq_some_iff.mp h
    refine ⟨contents, hcontents, ?_⟩
    split at h
    · exact .cons (isSome_of_optional h) .nil
    · contradiction
  | decl =>
    obtain ⟨contents, hcontents, h⟩ := Option.bind_eq_some_iff.mp h
    refine ⟨contents, hcontents, ?_⟩
    split at h
    · obtain ⟨_, _, h⟩ := Option.bind_eq_some_iff.mp h
      obtain ⟨_, hmethods, _⟩ := Option.bind_eq_some_iff.mp h
      exact .cons (fun _ _ => trivial) (.cons (isSome_of_optional hmethods) .nil)
    · contradiction
  | method =>
    obtain ⟨contents, hcontents, h⟩ := Option.bind_eq_some_iff.mp h
    refine ⟨contents, hcontents, ?_⟩
    split at h
    · obtain ⟨_, _, h⟩ := Option.bind_eq_some_iff.mp h
      obtain ⟨_, hparams, _⟩ := Option.bind_eq_some_iff.mp h
      exact .cons (fun _ _ => trivial) (.cons (isSome_of_optional hparams)
        (.cons (fun _ _ => trivial) (.cons (fun _ _ => trivial)
          (.cons (fun _ _ => trivial) .nil))))
    · contradiction
  | param =>
    obtain ⟨contents, hcontents, h⟩ := Option.bind_eq_some_iff.mp h
    refine ⟨contents, hcontents, ?_⟩
    split at h
    · exact .cons (fun _ _ => trivial) (.cons (fun _ _ => trivial) .nil)
    · contradiction

/-- Of fields that are read, each is read. -/
theorem FieldsRead.isRead {fields : List Field} {contents : List (Option Value)}
    (h : FieldsRead format fields contents) {i : Nat} {field : Field} {value : Value}
    (hfield : fields[i]? = some field) (hcontent : contents[i]? = some (some value)) :
    field.shape.IsRead format value := by
  induction h generalizing i with
  | nil => simp at hfield
  | cons head tail ih =>
    cases i with
    | zero =>
      obtain rfl := Option.some.inj hfield
      exact head value (Option.some.inj hcontent)
    | succ i => exact ih hfield hcontent

/-- A content under a key is the only one there. -/
theorem contentOf?_eq_of_mem {entries : List (String × Value)} {key : String} {content : Value}
    {found : Option Value} (h : contentOf? entries key = some found)
    (hentry : (key, content) ∈ entries) : found = some content := by
  have hmem : (key, content) ∈ entries.filter (·.1 == key) := by simp [hentry]
  rw [contentOf?] at h
  split at h
  · next hfilter => simp [hfilter] at hmem
  · next entry hfilter =>
    rw [hfilter, List.mem_singleton] at hmem
    rw [← hmem] at h
    exact (Option.some.inj h).symm
  · contradiction

/-- The content of a field stands at the place of the field. -/
theorem getElem?_fields?_record {entries : List (String × Value)} {contents : List (Option Value)}
    {i : Nat} {field : Field} {content : Value}
    (h : (Value.record entries).fields? format kind.keys = some contents)
    (hfield : kind.fields[i]? = some field) (hentry : (field.key, content) ∈ entries) :
    contents[i]? = some (some content) := by
  have hkey : kind.keys[i]? = some field.key := by
    rw [RecordKind.keys, List.getElem?_map, hfield]
    rfl
  rw [Value.fields?] at h
  split at h
  · obtain ⟨found, hfound, hcontent⟩ := exists_getElem?_of_mapM h hkey
    rw [hcontent, contentOf?_eq_of_mem hfound hentry]
  · contradiction

/-- An item of a list stands at the place of its field. -/
theorem getElem?_fields?_list {items : List Value} {contents : List (Option Value)}
    {i : Nat} {field : Field} {content : Value}
    (h : (Value.list items).fields? format kind.keys = some contents)
    (hfield : kind.fields[i]? = some field) (hitem : items[i]? = some content) :
    contents[i]? = some (some content) := by
  have hi : i < kind.keys.length := by
    rw [RecordKind.keys, List.length_map]
    exact (List.getElem?_eq_some_iff.mp hfield).1
  rw [Value.fields?] at h
  split at h
  · obtain rfl := Option.some.inj h
    rw [getElem?_contents hi, hitem]
  · contradiction

/-- If a record is read, then so is what belongs under a key. -/
theorem Shape.IsRead.field {shape : Shape} {key : String} {content : Value}
    {entries : List (String × Value)} (h : shape.IsRead format (.record entries))
    (hentry : (key, content) ∈ entries) : (shape.field key).IsRead format content := by
  cases shape with
  | record kind =>
    obtain ⟨contents, hcontents, hfields⟩ := h.fieldsRead
    by_cases hkey : key ∈ kind.keys
    · obtain ⟨field, hfield, rfl⟩ := List.mem_map.mp hkey
      obtain ⟨i, hi⟩ := List.mem_iff_getElem?.mp hfield
      rw [Shape.field_key hfield]
      exact hfields.isRead hi (getElem?_fields?_record hcontents hi hentry)
    · rw [Shape.field_of_notMem hkey]
      trivial
  | records kind => trivial
  | leaf => trivial

/-- If a list is read, then so is what belongs at a place of it. -/
theorem Shape.IsRead.item {shape : Shape} {i : Nat} {content : Value} {items : List Value}
    (h : shape.IsRead format (.list items)) (hitem : items[i]? = some content) :
    (shape.item i).IsRead format content := by
  cases shape with
  | record kind =>
    obtain ⟨contents, hcontents, hfields⟩ := h.fieldsRead
    cases hfield : kind.fields[i]? with
    | some field =>
      rw [Shape.item_eq hfield]
      exact hfields.isRead hfield (getElem?_fields?_list hcontents hfield hitem)
    | none =>
      rw [Shape.item, hfield]
      trivial
  | records kind =>
    obtain ⟨_, hread⟩ := Option.isSome_iff_exists.mp h
    obtain ⟨_, hcontent, -⟩ := exists_getElem?_of_mapM hread hitem
    exact Option.isSome_of_eq_some hcontent
  | leaf => trivial

/-- A list with surplus items is no record in JSON. -/
theorem Shape.not_isRead_overfull {items : List Value} (h : kind.fields.length < items.length) :
    ¬ (record kind).IsRead .json (.list items) := by
  intro hread
  obtain ⟨contents, hcontents, -⟩ := hread.fieldsRead
  rw [Value.fields?, RecordKind.keys, List.length_map, if_neg (by simpa using h)] at hcontents
  contradiction

/-- A manifest with surplus items is not read in JSON. -/
theorem HasSurplus.not_isRead {shape : Shape} {value : Value} (h : HasSurplus shape value) :
    ¬ shape.IsRead .json value := by
  induction h with
  | here h => exact Shape.not_isRead_overfull h
  | field hentry _ ih => exact fun hread => ih (hread.field hentry)
  | item hitem _ ih => exact fun hread => ih (hread.item hitem)

end

/-! ### Documents -/

/-- The formats agree on every kind of records. -/
theorem RecordKind.agrees (kind : RecordKind) : kind.Agrees := by
  have hparam : param.Agrees := agrees_of_items (by simp [fields])
  have hmethod : method.Agrees := agrees_of_items (by simpa [fields] using hparam)
  have hdecl : decl.Agrees := agrees_of_items (by simpa [fields] using hmethod)
  have hmanifest : manifest.Agrees := agrees_of_items (by simpa [fields] using hdecl)
  cases kind <;> assumption

/-- JSON refuses a manifest with surplus items. -/
theorem ofValue_json_of_hasSurplus {value : Value} (h : HasSurplus (.record .manifest) value) :
    ofValue .json value = .error (.config .unreadable) := by
  have hread : classesOfValue? .json value = none := Option.not_isSome_iff_eq_none.mp h.not_isRead
  rw [ofValue, hread]

/-- Without surplus items, a manifest is the same in both formats. -/
theorem ofValue_json_eq_toml {value : Value} (h : ¬ HasSurplus (.record .manifest) value) :
    ofValue .json value = ofValue .toml value := by
  have hread : classesOfValue? .json value = classesOfValue? .toml value :=
    RecordKind.manifest.agrees value h
  rw [ofValue, ofValue, hread]

/-- Manifests with the same meaning are the same. A JSON document declares what a TOML document of
the same meaning does, if it has no surplus items, and is refused if it has. -/
theorem meaning_of_documents :
    (∀ format value value', SameMeaning format (.record .manifest) value value' →
      ofValue format value = ofValue format value') ∧
    ∀ content bytes value value', Toml.read content = some value → Json.read bytes = some value' →
      SameMeaning .json (.record .manifest) value value' →
        (HasSurplus (.record .manifest) value' →
          ofSource (.json bytes) = .error (.config .unreadable)) ∧
        (¬ HasSurplus (.record .manifest) value' →
          ofSource (.json bytes) = ofSource (.toml content)) := by
  refine ⟨fun _ _ _ h => h.ofValue_eq, fun content bytes value value' htoml hjson h => ?_⟩
  have hsource : ofSource (.toml content) = ofValue .toml value := by
    simp only [ofSource, Source.value?, htoml, Source.format]
  have hsource' : ofSource (.json bytes) = ofValue .json value' := by
    simp only [ofSource, Source.value?, hjson, Source.format]
  rw [hsource, hsource']
  refine ⟨ofValue_json_of_hasSurplus, fun hsurplus => ?_⟩
  rw [ofValue_json_eq_toml hsurplus, h.toToml.ofValue_eq]

/-- A class in TOML, with a field that classes do not have and with a default written out. -/
def notedSource : String :=
  "[[classes]]\nname = \"a.B\"\nnote = [\"x\"]\n[[classes.methods]]\nname = \"f\"\nnative = true\n"

/-- The tree of this document. -/
def notedValue : Value :=
  .record [("classes", .list [.record [("name", .text "a.B"), ("note", .list [.text "x"]),
    ("methods", .list [.record [("name", .text "f"), ("native", .boolean true)]])]])]

/-- The same class in JSON. -/
def bareSource : List UInt8 :=
  Utf8.encode "\x7b\"classes\":[\x7b\"methods\":[\x7b\"name\":\"f\"\x7d],\"name\":\"a.B\"\x7d]\x7d"

/-- The tree of this document. -/
def bareValue : Value :=
  .record [("classes", .list [.record [("methods", .list [.record [("name", .text "f")]]),
    ("name", .text "a.B")]])]

/-- Edits lead from the one tree to the other. -/
theorem sameMeaning_bareValue :
    SameMeaning .json (.record .manifest) notedValue bareValue := by
  have hmethod : SameMeaning .json (.record .method)
      (.record [("name", .text "f"), ("native", .boolean true)])
      (.record [("name", .text "f")]) := by
    have hfield : ⟨"native", some (.boolean true), none⟩ ∈ RecordKind.method.fields := by
      simp [RecordKind.fields]
    exact .trans _ _ _ (.rel _ _ (.reorder (.swap _ _ _)))
      (.rel _ _ (Edit.leaveOut hfield rfl (by decide)))
  have hdecl : SameMeaning .json (.record .decl)
      (.record [("name", .text "a.B"), ("note", .list [.text "x"]),
        ("methods", .list [.record [("name", .text "f"), ("native", .boolean true)]])])
      (.record [("methods", .list [.record [("name", .text "f")]]), ("name", .text "a.B")]) := by
    refine .trans _ _ _ (SameMeaning.field [_, _] [] (SameMeaning.item [] [] hmethod)) ?_
    refine .trans _ _ _ (.rel _ _ (.reorder (List.perm_append_singleton _ _).symm)) ?_
    exact .symm _ _ (.rel _ _ (.insert (by decide) rfl))
  exact SameMeaning.field [] [] (SameMeaning.item [] [] hdecl)

/-- A list in TOML for a class, with an item more than a class has fields. -/
def overfullSource : String :=
  "classes = [[\"a.B\", [], true]]"

/-- The same in JSON. -/
def overfullBytes : List UInt8 :=
  Utf8.encode "\x7b\"classes\": [[\"a.B\", [], true]]\x7d"

/-- The tree of both. -/
def overfullValue : Value :=
  .record [("classes", .list [.list [.text "a.B", .list [], .boolean true]])]

/-- The TOML document has this tree. -/
theorem value?_overfullSource : (Source.toml overfullSource).value? = some overfullValue := by
  decide +kernel

/-- The JSON document has it too. -/
theorem value?_overfullBytes : (Source.json overfullBytes).value? = some overfullValue := by
  decide +kernel

/-- A class is the same in TOML and in JSON, though fields are reordered, added and left out. One
with an item too many is refused in JSON. -/
theorem meaning_of_documents_noted :
    SameMeaning .json (.record .manifest) notedValue bareValue ∧
      ofSource (.json bareSource) = ofSource (.toml notedSource) ∧
      ofSource (.toml notedSource) = .ok ⟨[{ name := "a.B", methods := [{ name := "f" }] }]⟩ ∧
      ofSource (.json overfullBytes) = .error (.config .unreadable) := by
  have hnoted : (Source.toml notedSource).value? = some notedValue := by decide +kernel
  have hbare : (Source.json bareSource).value? = some bareValue := by decide +kernel
  have hread : (Shape.record .manifest).IsRead .json bareValue := rfl
  have hsurplus : HasSurplus (.record .manifest) overfullValue :=
    .field (.head _) (@HasSurplus.item _ 0 _ _ rfl (.here (by decide)))
  have hdocuments := meaning_of_documents.2 notedSource bareSource notedValue bareValue hnoted
    hbare sameMeaning_bareValue
  have hoverfull := meaning_of_documents.2 overfullSource overfullBytes overfullValue overfullValue
    value?_overfullSource value?_overfullBytes (.refl _)
  refine ⟨sameMeaning_bareValue, hdocuments.2 fun h => h.not_isRead hread, ?_,
    hoverfull.1 hsurplus⟩
  rw [ofSource, hnoted]
  rfl

/-- The same tree declares a class in TOML and is refused in JSON. -/
theorem formats_differ_overfull :
    Toml.read overfullSource = some overfullValue ∧
      Json.read overfullBytes = some overfullValue ∧
      ofSource (.toml overfullSource) = .ok ⟨[{ name := "a.B" }]⟩ ∧
      ofSource (.json overfullBytes) = .error (.config .unreadable) := by
  refine ⟨value?_overfullSource, value?_overfullBytes, ?_, ?_⟩
  · rw [ofSource, value?_overfullSource]
    rfl
  · rw [ofSource, value?_overfullBytes]
    rfl

end NativeBindings.Manifest
