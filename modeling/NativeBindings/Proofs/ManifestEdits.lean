import Mathlib.Logic.Relation
import NativeBindings.Proofs.ManifestRecords

/-!
# Edits without a meaning

The fields of a record may be reordered, a field of a key that a record does not have may be added,
and a field with its default may be left out. None of this, at any place of a manifest and any
number of times, changes what is read. Lists that stand for records are read in TOML up to their
last field, so there surplus items may be left out too.
-/

namespace NativeBindings.Manifest

open Document

/-- What belongs under a key. -/
def Shape.field : Shape → String → Shape
  | record kind, key =>
    match kind.fields.find? (·.key == key) with
    | some field => field.shape
    | none => leaf
  | _, _ => leaf

/-- What belongs at a place of a list. -/
def Shape.item : Shape → Nat → Shape
  | record kind, i =>
    match kind.fields[i]? with
    | some field => field.shape
    | none => leaf
  | records kind, _ => record kind
  | leaf, _ => leaf

/-- One edit that changes no meaning. Fields are edited at the front of a record, where `reorder`
may bring them. -/
inductive Edit (format : Format) : Shape → Value → Value → Prop
  | reorder {shape : Shape} {entries entries' : List (String × Value)} (h : entries.Perm entries') :
    Edit format shape (.record entries) (.record entries')
  /-- A field of another key is added. Its content is any value whose numbers fit machine numbers,
  wherever they stand. -/
  | insert {kind : RecordKind} {key : String} {content : Value} {entries : List (String × Value)}
    (hkey : key ∉ kind.keys) (hfit : content.isFit) :
    Edit format (.record kind) (.record entries) (.record ((key, content) :: entries))
  | leaveOut {kind : RecordKind} {field : Field} {content : Value} {entries : List (String × Value)}
    (hfield : field ∈ kind.fields) (hdefault : field.default? = some content)
    (hkey : field.key ∉ entries.map (·.1)) :
    Edit format (.record kind) (.record ((field.key, content) :: entries)) (.record entries)
  | surplus {kind : RecordKind} {items more : List Value} (hformat : format = .toml)
    (hfull : kind.fields.length ≤ items.length) :
    Edit format (.record kind) (.list (items ++ more)) (.list items)
  | field {shape : Shape} {key : String} {content content' : Value}
    {entries : List (String × Value)} (h : Edit format (shape.field key) content content') :
    Edit format shape (.record ((key, content) :: entries)) (.record ((key, content') :: entries))
  | item {shape : Shape} {content content' : Value} {before after : List Value}
    (h : Edit format (shape.item before.length) content content') :
    Edit format shape (.list (before ++ content :: after)) (.list (before ++ content' :: after))

/-! ### Numbers that fit -/

/-- Values fit if each does. -/
theorem areFit_eq_all (items : List Value) : areFit items = items.all (·.isFit) := by
  induction items with
  | nil => rfl
  | cons item items ih => rw [areFit, ih, List.all_cons]

/-- Fields fit if each content does. -/
theorem haveFitContents_eq_all (entries : List (String × Value)) :
    haveFitContents entries = entries.all (·.2.isFit) := by
  induction entries with
  | nil => rfl
  | cons entry entries ih => rw [haveFitContents, ih, List.all_cons]

section

variable {format : Format} {kind : RecordKind} {key : String} {content content' : Value}
  {entries entries' : List (String × Value)}

/-! ### What stands under a key -/

/-- A key is found alike wherever its field stands. -/
theorem contentOf?_eq_of_perm (h : entries.Perm entries') (key : String) :
    contentOf? entries key = contentOf? entries' key := by
  have hfilter := h.filter (·.1 == key)
  rw [contentOf?, contentOf?]
  generalize entries.filter (·.1 == key) = found, entries'.filter (·.1 == key) = found' at hfilter
  match found, hfilter with
  | [], hfilter => rw [List.nil_perm.mp hfilter]
  | [entry], hfilter => rw [List.singleton_perm.mp hfilter]
  | _ :: _ :: _, hfilter =>
    obtain _ | ⟨_, _ | ⟨_, _⟩⟩ := found'
    · simpa using hfilter.length_eq
    · simpa using hfilter.length_eq
    · rfl

/-- Another field does not matter. -/
theorem contentOf?_cons_of_ne {other : String} (h : other ≠ key) :
    contentOf? ((other, content) :: entries) key = contentOf? entries key := by
  rw [contentOf?, List.filter_cons_of_neg (by simpa using h), contentOf?]

/-- No field has a key that does not stand in a record. -/
theorem filter_key_eq_nil (h : key ∉ entries.map (·.1)) :
    entries.filter (·.1 == key) = [] := by
  refine List.filter_eq_nil_iff.mpr fun entry hentry hkey => h ?_
  exact List.mem_map.mpr ⟨entry, hentry, beq_iff_eq.mp hkey⟩

/-- A field is missing if its key does not stand in a record. -/
theorem contentOf?_of_notMem (h : key ∉ entries.map (·.1)) :
    contentOf? entries key = some none := by
  rw [contentOf?, filter_key_eq_nil h]

/-- A field whose key does not stand elsewhere has its content. -/
theorem contentOf?_cons_self (h : key ∉ entries.map (·.1)) :
    contentOf? ((key, content) :: entries) key = some (some content) := by
  rw [contentOf?, List.filter_cons_of_pos (by simp), filter_key_eq_nil h]

/-- A content is alike to itself. -/
theorem Field.Alike.refl (field : Field) (content : Option Value) :
    field.Alike format format content content := by
  cases content with
  | none => exact .missing
  | some content => exact .given (.refl _ content)

/-- What stands under a key is alike to itself. -/
theorem rel_alike_refl (field : Field) (found : Option (Option Value)) :
    Option.Rel (field.Alike format format) found found := by
  cases found with
  | none => exact .none
  | some content => exact .some (.refl field content)

/-- Records that differ in one field are alike under a key, given that the field is, should it have
this key. -/
theorem rel_contentOf?_cons {field : Field}
    (h : key = field.key → field.shape.ReadAlike format format content content') :
    Option.Rel (field.Alike format format) (contentOf? ((key, content) :: entries) field.key)
      (contentOf? ((key, content') :: entries) field.key) := by
  by_cases hkey : key = field.key
  · have hcons : ∀ content, contentOf? ((key, content) :: entries) field.key =
        if (entries.filter (·.1 == field.key)).isEmpty then some (some content) else none := by
      intro content
      rw [contentOf?, List.filter_cons_of_pos (by simpa using hkey)]
      cases entries.filter (·.1 == field.key) with
      | nil => rfl
      | cons other others => rfl
    rw [hcons, hcons]
    split
    · exact .some (.given (h hkey))
    · exact .none
  · rw [contentOf?_cons_of_ne hkey, contentOf?_cons_of_ne hkey]
    exact rel_alike_refl field _

end

/-- The first field with the key of a field is this field. -/
theorem RecordKind.find?_key (kind : RecordKind) :
    ∀ field ∈ kind.fields, kind.fields.find? (·.key == field.key) = some field := by
  cases kind <;> simp [fields]

/-- What belongs under the key of a field belongs in the field. -/
theorem Shape.field_key {kind : RecordKind} {field : Field} (h : field ∈ kind.fields) :
    (record kind).field field.key = field.shape := by
  rw [Shape.field, kind.find?_key field h]

/-- Anything may stand under a key that is of no field. -/
theorem Shape.field_of_notMem {kind : RecordKind} {key : String} (h : key ∉ kind.keys) :
    (record kind).field key = leaf := by
  have hnone : kind.fields.find? (·.key == key) = none := by
    refine List.find?_eq_none.mpr fun field hfield hkey => h ?_
    exact List.mem_map.mpr ⟨field, hfield, beq_iff_eq.mp hkey⟩
  rw [Shape.field, hnone]

/-- What belongs at the place of a field belongs in the field. -/
theorem Shape.item_eq {kind : RecordKind} {field : Field} {i : Nat}
    (h : kind.fields[i]? = some field) : (record kind).item i = field.shape := by
  rw [Shape.item, h]

/-! ### What an edit leaves -/

namespace Edit

variable {format : Format} {shape : Shape} {kind : RecordKind}

/-- Numbers in fields of other keys fit whatever the order. -/
theorem fit_reorder {entries entries' : List (String × Value)} (h : entries.Perm entries')
    (p : String × Value → Bool) :
    haveFitContents (entries.filter p) = haveFitContents (entries'.filter p) := by
  rw [haveFitContents_eq_all, haveFitContents_eq_all, (h.filter p).all_eq]

/-- Reordered records are read alike. -/
theorem readAlike_reorder {entries entries' : List (String × Value)}
    (h : entries.Perm entries') :
    shape.ReadAlike format format (.record entries) (.record entries') := by
  cases shape with
  | record kind =>
    refine kind.read_eq_of_fieldsAlike (rel_fields?_record (fit_reorder h _) fun field _ => ?_)
    rw [contentOf?_eq_of_perm h]
    exact rel_alike_refl field _
  | records kind => rfl
  | leaf =>
    refine ⟨rfl, rfl, ?_⟩
    rw [Value.isFit, Value.isFit, haveFitContents_eq_all, haveFitContents_eq_all, h.all_eq]

/-- A field that a record does not have is not read. -/
theorem readAlike_insert {key : String} {content : Value} {entries : List (String × Value)}
    (hkey : key ∉ kind.keys) (hfit : content.isFit) :
    (Shape.record kind).ReadAlike format format (.record entries)
      (.record ((key, content) :: entries)) := by
  refine kind.read_eq_of_fieldsAlike (rel_fields?_record ?_ fun field hfield => ?_)
  · rw [List.filter_cons_of_pos (by simpa using hkey), haveFitContents, hfit, Bool.true_and]
  · have hother : key ≠ field.key := by
      rintro rfl
      exact hkey (List.mem_map_of_mem hfield)
    rw [contentOf?_cons_of_ne hother]
    exact rel_alike_refl field _

/-- A field with its default is read as if it were missing. -/
theorem readAlike_leaveOut {field : Field} {content : Value} {entries : List (String × Value)}
    (hfield : field ∈ kind.fields) (hdefault : field.default? = some content)
    (hkey : field.key ∉ entries.map (·.1)) :
    (Shape.record kind).ReadAlike format format (.record ((field.key, content) :: entries))
      (.record entries) := by
  refine kind.read_eq_of_fieldsAlike (rel_fields?_record ?_ fun other hother => ?_)
  · have hknown : field.key ∈ kind.keys := List.mem_map_of_mem hfield
    rw [List.filter_cons_of_neg (by simpa using hknown)]
  · by_cases hsame : field.key = other.key
    · obtain rfl : field = other := by
        have hfound := kind.find?_key other hother
        rw [← hsame, kind.find?_key field hfield] at hfound
        exact Option.some.inj hfound
      rw [contentOf?_cons_self hkey, contentOf?_of_notMem hkey]
      exact .some (.omitted hdefault)
    · rw [contentOf?_cons_of_ne hsame]
      exact rel_alike_refl other _

/-- In TOML a list is read up to its last field. -/
theorem readAlike_surplus {items more : List Value} (hformat : format = .toml)
    (hfull : kind.fields.length ≤ items.length) :
    (Shape.record kind).ReadAlike format format (.list (items ++ more)) (.list items) := by
  refine kind.read_eq_of_fieldsAlike (rel_fields?_list (by simp [hformat]) fun i field hfield => ?_)
  have hi : i < items.length := Nat.lt_of_lt_of_le (List.getElem?_eq_some_iff.mp hfield).1 hfull
  rw [List.getElem?_append_left hi, List.getElem?_eq_getElem hi]
  exact .given (.refl _ _)

/-- Records are read alike if the contents of one field are. -/
theorem readAlike_field {key : String} {content content' : Value}
    {entries : List (String × Value)}
    (h : (shape.field key).ReadAlike format format content content') :
    shape.ReadAlike format format (.record ((key, content) :: entries))
      (.record ((key, content') :: entries)) := by
  cases shape with
  | record kind =>
    refine kind.read_eq_of_fieldsAlike (rel_fields?_record ?_ fun field hfield => ?_)
    · by_cases hkey : key ∈ kind.keys
      · rw [List.filter_cons_of_neg (by simpa using hkey),
          List.filter_cons_of_neg (by simpa using hkey)]
      · rw [Shape.field_of_notMem hkey] at h
        rw [List.filter_cons_of_pos (by simpa using hkey),
          List.filter_cons_of_pos (by simpa using hkey), haveFitContents, haveFitContents, h.2.2]
    · refine rel_contentOf?_cons fun hkey => ?_
      rwa [hkey, Shape.field_key hfield] at h
  | records kind => rfl
  | leaf =>
    refine ⟨rfl, rfl, ?_⟩
    rw [Value.isFit, Value.isFit, haveFitContents, haveFitContents, h.2.2]

/-- Lists that differ at one place are the same at others. -/
theorem getElem?_append_cons_of_ne {before after : List Value} {i : Nat} (h : i ≠ before.length)
    (content content' : Value) :
    (before ++ content :: after)[i]? = (before ++ content' :: after)[i]? := by
  rcases Nat.lt_or_gt_of_ne h with hi | hi
  · rw [List.getElem?_append_left hi, List.getElem?_append_left hi]
  · rw [List.getElem?_append_right (Nat.le_of_lt hi),
      List.getElem?_append_right (Nat.le_of_lt hi),
      List.getElem?_cons, List.getElem?_cons, if_neg (by omega), if_neg (by omega)]

/-- Lists are read alike if the items at one place are. -/
theorem readAlike_item {content content' : Value} {before after : List Value}
    (h : (shape.item before.length).ReadAlike format format content content') :
    shape.ReadAlike format format (.list (before ++ content :: after))
      (.list (before ++ content' :: after)) := by
  cases shape with
  | record kind =>
    refine kind.read_eq_of_fieldsAlike (rel_fields?_list (by simp) fun i field hfield => ?_)
    by_cases hi : i = before.length
    · subst hi
      rw [Shape.item_eq hfield] at h
      simpa using .given h
    · rw [getElem?_append_cons_of_ne hi content content']
      exact .refl field _
  | records kind =>
    have hread : kind.read format content = kind.read format content' := h
    change List.mapM _ _ = List.mapM _ _
    rw [List.mapM_append, List.mapM_append, List.mapM_cons, List.mapM_cons, hread]
  | leaf =>
    refine ⟨rfl, rfl, ?_⟩
    have hfit : content.isFit = content'.isFit := h.2.2
    simp [Value.isFit, areFit_eq_all, hfit]

/-- What an edit leaves is read as before. -/
theorem readAlike {value value' : Value} (h : Edit format shape value value') :
    shape.ReadAlike format format value value' := by
  induction h with
  | reorder h => exact readAlike_reorder h
  | insert hkey hfit => exact readAlike_insert hkey hfit
  | leaveOut hfield hdefault hkey => exact readAlike_leaveOut hfield hdefault hkey
  | surplus hformat hfull => exact readAlike_surplus hformat hfull
  | field _ ih => exact readAlike_field ih
  | item _ ih => exact readAlike_item ih

/-- What may be edited in JSON may be edited in TOML. -/
theorem toToml {value value' : Value} (h : Edit .json shape value value') :
    Edit .toml shape value value' := by
  induction h with
  | reorder h => exact .reorder h
  | insert hkey hfit => exact .insert hkey hfit
  | leaveOut hfield hdefault hkey => exact .leaveOut hfield hdefault hkey
  | surplus hformat => contradiction
  | field _ ih => exact .field ih
  | item _ ih => exact .item ih

end Edit

/-! ### Any number of edits, made and undone -/

/-- Two values have the same meaning: edits lead from one to the other, forward or back. -/
abbrev SameMeaning (format : Format) (shape : Shape) : Value → Value → Prop :=
  Relation.EqvGen (Edit format shape)

namespace SameMeaning

variable {format : Format} {shape : Shape} {content content' : Value}

/-- The content of a field may be edited wherever the field stands. -/
theorem field {key : String} (before after : List (String × Value))
    (h : SameMeaning format (shape.field key) content content') :
    SameMeaning format shape (.record (before ++ (key, content) :: after))
      (.record (before ++ (key, content') :: after)) := by
  have hfront : ∀ content, SameMeaning format shape (.record (before ++ (key, content) :: after))
      (.record ((key, content) :: (before ++ after))) :=
    fun content => .rel _ _ (.reorder List.perm_middle)
  refine .trans _ _ _ (hfront content) (.trans _ _ _ ?_ (.symm _ _ (hfront content')))
  induction h with
  | rel _ _ h => exact .rel _ _ (.field h)
  | refl _ => exact .refl _
  | symm _ _ _ ih => exact .symm _ _ ih
  | trans _ _ _ _ _ ih ih' => exact .trans _ _ _ ih ih'

/-- Any item of a list may be edited. -/
theorem item (before after : List Value)
    (h : SameMeaning format (shape.item before.length) content content') :
    SameMeaning format shape (.list (before ++ content :: after))
      (.list (before ++ content' :: after)) := by
  induction h with
  | rel _ _ h => exact .rel _ _ (.item h)
  | refl _ => exact .refl _
  | symm _ _ _ ih => exact .symm _ _ ih
  | trans _ _ _ _ _ ih ih' => exact .trans _ _ _ ih ih'

/-- What has the same meaning in JSON has it in TOML. -/
theorem toToml (h : SameMeaning .json shape content content') :
    SameMeaning .toml shape content content' :=
  h.mono fun _ _ => Edit.toToml

/-- Records with the same meaning declare the same. -/
theorem read_eq {kind : RecordKind} (h : SameMeaning format (.record kind) content content') :
    kind.read format content = kind.read format content' := by
  induction h with
  | rel _ _ h => exact h.readAlike
  | refl _ => rfl
  | symm _ _ _ ih => exact ih.symm
  | trans _ _ _ _ _ ih ih' => exact ih.trans ih'

/-- Manifests with the same meaning are both refused for one reason, or hold the same classes. -/
theorem ofValue_eq (h : SameMeaning format (.record .manifest) content content') :
    ofValue format content = ofValue format content' := by
  have hread : classesOfValue? format content = classesOfValue? format content' := h.read_eq
  rw [ofValue, ofValue, hread]

end SameMeaning

end NativeBindings.Manifest
