import NativeBindings.Proofs.Lists
import NativeBindings.Proofs.NamePunctuation

/-!
# Reading the lines of a function

A function has three lines in a module: the header of the trait method, the header of the exported
function, and the body of that one, which is a call. They are read here by their punctuation alone.
What is written with names that hold no punctuation is read back part by part.
-/

namespace NativeBindings.Binding

/-! ### Readers -/

/-- The header of a function. -/
structure Header where
  name : String
  paramNames : List String
  paramTypes : List String
  /-- What is written about the result. -/
  result : String
  deriving DecidableEq, Repr

/-- The call that an exported function consists of. -/
structure Call where
  implType : String
  method : String
  arguments : List String
  /-- What is returned after an exception has been thrown. -/
  placeholder : String
  deriving DecidableEq, Repr

/-- The fixed parts of a header. -/
structure Layout where
  opening : String
  /-- What stands in front of the first parameter. -/
  beforeParams : String
  /-- What stands in front of the result. -/
  beforeResult : String
  closing : String

namespace Layout

/-- The header of a trait method. -/
def ofTrait : Layout :=
  ⟨"    fn ", "", " -> Result<", ", Self::Error>;"⟩

/-- The header of an exported function. -/
def ofExport : Layout :=
  ⟨"extern \"system\" fn ", "mut ", "", " \x7b"⟩

/-- Whether a line begins like a header. -/
def opens (layout : Layout) (line : String) : Bool :=
  layout.opening.toList.isPrefixOf line.toList

end Layout

/-- The items of a list, which are separated by commas with one blank each. -/
def listItems (cs : List Char) : List (List Char) :=
  (cs.splitOn ',').map fun item => (item.dropPrefix? [' ']).getD item

/-- A parameter with its type. -/
def readParam? (cs : List Char) : Option (Param String) := do
  let (name, type) ← cs.dropInfix? [':', ' ']
  return ⟨String.ofList name, String.ofList type⟩

/-- Read a header. -/
def Layout.read? (layout : Layout) (line : String) : Option Header := do
  let cs ← line.toList.dropPrefix? layout.opening.toList
  let (name, cs) ← cs.dropInfix? ['(']
  let cs ← cs.dropPrefix? layout.beforeParams.toList
  let (params, cs) ← cs.dropInfix? [')']
  let cs ← cs.dropPrefix? layout.beforeResult.toList
  let result ← cs.dropSuffix? layout.closing.toList
  let params ← (listItems params).mapM readParam?
  return ⟨String.ofList name, params.map (·.name), params.map (·.type), String.ofList result⟩

/-- How the body of an exported function begins. -/
def callOpening : String :=
  "    wrap_error!(env, "

/-- Read the body of an exported function. -/
def readCall? (line : String) : Option Call := do
  let cs ← line.toList.dropPrefix? callOpening.toList
  let (implType, cs) ← cs.dropInfix? [':', ':']
  let (method, cs) ← cs.dropInfix? ['(']
  let (arguments, cs) ← cs.dropInfix? [')']
  let cs ← cs.dropPrefix? [',', ' ']
  let placeholder ← cs.dropSuffix? [')']
  return ⟨String.ofList implType, String.ofList method, (listItems arguments).map String.ofList,
    String.ofList placeholder⟩

/-! ### Cutting a text -/

/-- An item of a list. It holds no comma, and does not begin with a blank. -/
def isItem (cs : List Char) : Bool :=
  ',' ∉ cs ∧ cs.head? ≠ some ' '

/-- A blank behind each comma may count as part of the next item. -/
theorem intercalate_comma_blank (first : List Char) (rest : List (List Char)) :
    [',', ' '].intercalate (first :: rest) = [','].intercalate (first :: rest.map (' ' :: ·)) := by
  induction rest generalizing first with
  | nil => rw [List.map_nil, List.intercalate_singleton, List.intercalate_singleton]
  | cons next rest ih =>
    rw [List.map_cons, List.intercalate_cons_cons, List.intercalate_cons_cons, ih]
    cases rest with
    | nil =>
      rw [List.map_nil, List.intercalate_singleton, List.intercalate_singleton, List.append_assoc,
        List.append_assoc, List.singleton_append]
      rfl
    | cons other rest =>
      rw [List.map_cons, List.intercalate_cons_cons, List.intercalate_cons_cons]
      simp only [List.append_assoc, List.cons_append, List.nil_append]

/-- The items of a list are read as they are written. -/
theorem listItems_intercalate {items : List String} (hne : items ≠ [])
    (hitems : ∀ item ∈ items, isItem item.toList) :
    listItems (String.intercalate ", " items).toList = items.map String.toList := by
  have hseparator : ", ".toList = [',', ' '] := rfl
  obtain ⟨first, rest, rfl⟩ := List.exists_cons_of_ne_nil hne
  simp only [isItem, decide_eq_true_eq, List.forall_mem_cons] at hitems
  obtain ⟨⟨hfirst, hhead⟩, hrest⟩ := hitems
  have hcommas : ∀ item ∈ first.toList :: (rest.map String.toList).map (' ' :: ·), ',' ∉ item := by
    rw [List.forall_mem_cons, List.forall_mem_map, List.forall_mem_map]
    exact ⟨hfirst, fun item hitem => by simpa using (hrest item hitem).1⟩
  have hkept : (first.toList.dropPrefix? [' ']).getD first.toList = first.toList := by
    cases hchars : first.toList with
    | nil => rfl
    | cons c cs =>
      have hne : ¬ (c == ' ') := by simpa [hchars] using hhead
      rw [List.dropPrefix?, if_neg hne, Option.getD_none]
  have hdropped : (fun item : List Char => (item.dropPrefix? [' ']).getD item) ∘ (' ' :: ·) =
      id := by
    funext item
    exact congrArg (Option.getD · _) (List.dropPrefix?_append_of_beq item (beq_self_eq_true [' ']))
  rw [listItems, String.toList_intercalate, hseparator, List.map_cons, intercalate_comma_blank,
    List.splitOn_intercalate ',' hcommas (List.cons_ne_nil _ _), List.map_cons, hkept, List.map_map,
    hdropped, List.map_id]

/-! ### Parameters -/

/-- A parameter as it is written in a list. -/
def paramText (param : Param String) : String :=
  param.name ++ ": " ++ param.type

/-- A parameter whose name is free of punctuation, and whose type does not end the line, the item
or the list. -/
structure IsListed (param : Param String) : Prop where
  name : isUnpunctuated param.name
  lineBreak : '\n' ∉ param.type.toList
  comma : ',' ∉ param.type.toList
  parenthesis : ')' ∉ param.type.toList

/-- The characters of a parameter. -/
theorem toList_paramText (param : Param String) :
    (paramText param).toList = param.name.toList ++ ([':', ' '] ++ param.type.toList) := by
  have hcolon : ": ".toList = [':', ' '] := rfl
  rw [paramText, String.toList_append, String.toList_append, hcolon, List.append_assoc]

/-- A parameter is read as it is written. -/
theorem readParam?_paramText {param : Param String} (h : IsListed param) :
    readParam? (paramText param).toList = some param := by
  have hcolon : ':' ∉ param.name.toList := notMem_of_isUnpunctuated h.name (by decide)
  rw [readParam?, toList_paramText, dropInfix?_append hcolon]
  simp only [bind, Option.bind, pure, String.ofList_toList]

/-- A parameter is an item of a list. -/
theorem isItem_paramText {param : Param String} (h : IsListed param) :
    isItem (paramText param).toList := by
  have hcomma : ',' ∉ param.name.toList := notMem_of_isUnpunctuated h.name (by decide)
  have hblank : ' ' ∉ param.name.toList := notMem_of_isUnpunctuated h.name (by decide)
  have hhead : (paramText param).toList.head? ≠ some ' ' := by
    rw [toList_paramText]
    cases hchars : param.name.toList with
    | nil => simp
    | cons c cs =>
      rw [hchars, List.mem_cons, not_or] at hblank
      simpa [eq_comm] using hblank.1
  refine decide_eq_true ⟨?_, hhead⟩
  rw [toList_paramText]
  simp [hcomma, h.comma]

/-- A parameter ends neither a line nor a list. -/
theorem notMem_paramText {param : Param String} (h : IsListed param) :
    '\n' ∉ (paramText param).toList ∧ ')' ∉ (paramText param).toList := by
  have hbreak : '\n' ∉ param.name.toList := notMem_of_isUnpunctuated h.name (by decide)
  have hname : ')' ∉ param.name.toList := notMem_of_isUnpunctuated h.name (by decide)
  rw [toList_paramText]
  simp [hbreak, hname, h.lineBreak, h.parenthesis]

/-- Parameters are read as they are written. -/
theorem mapM_readParam?_listItems {params : List (Param String)} (hne : params ≠ [])
    (h : ∀ param ∈ params, IsListed param) :
    (listItems (String.intercalate ", " (params.map paramText)).toList).mapM readParam? =
      some params := by
  have hitems : ∀ item ∈ params.map paramText, isItem item.toList := by
    rw [List.forall_mem_map]
    exact fun param hparam => isItem_paramText (h param hparam)
  rw [listItems_intercalate (by simpa using hne) hitems]
  clear hne hitems
  induction params with
  | nil => rfl
  | cons param params ih =>
    rw [List.forall_mem_cons] at h
    rw [List.map_cons, List.map_cons, List.mapM_cons, readParam?_paramText h.1, ih h.2]
    rfl

/-- A character that neither separates items nor stands in one does not stand in their list. -/
theorem notMem_intercalate {items : List String} {mark : Char} (hseparator : mark ∉ [',', ' '])
    (hitems : ∀ item ∈ items, mark ∉ item.toList) :
    mark ∉ (String.intercalate ", " items).toList := by
  have hchars : ", ".toList = [',', ' '] := rfl
  rw [String.toList_intercalate, hchars]
  induction items with
  | nil => simp
  | cons item items ih =>
    rw [List.forall_mem_cons] at hitems
    cases items with
    | nil => simpa using hitems.1
    | cons next items =>
      rw [List.map_cons, List.map_cons, List.intercalate_cons_cons, List.mem_append,
        List.mem_append, not_or, not_or, ← List.map_cons]
      exact ⟨⟨hitems.1, hseparator⟩, ih hitems.2⟩

/-! ### Lines -/

/-- The line of a header. -/
def Layout.line (layout : Layout) (name : String) (params : List (Param String))
    (result : String) : String :=
  layout.opening ++ name ++ "(" ++ layout.beforeParams ++
    String.intercalate ", " (params.map paramText) ++ ")" ++ layout.beforeResult ++ result ++
    layout.closing

/-- The characters of a header. -/
theorem Layout.toList_line (layout : Layout) (name : String) (params : List (Param String))
    (result : String) :
    (layout.line name params result).toList =
      layout.opening.toList ++ (name.toList ++ (['('] ++ (layout.beforeParams.toList ++
        ((String.intercalate ", " (params.map paramText)).toList ++ ([')'] ++
          (layout.beforeResult.toList ++ (result.toList ++ layout.closing.toList))))))) := by
  have hparentheses : "(".toList = ['('] ∧ ")".toList = [')'] := ⟨rfl, rfl⟩
  simp only [Layout.line, String.toList_append, hparentheses, List.append_assoc]

/-- A header is read as it is written. -/
theorem Layout.read?_line (layout : Layout) {name : String} {params : List (Param String)}
    (result : String) (hname : isUnpunctuated name) (hne : params ≠ [])
    (hparams : ∀ param ∈ params, IsListed param) :
    layout.read? (layout.line name params result) =
      some ⟨name, params.map (·.name), params.map (·.type), result⟩ := by
  have hopen : '(' ∉ name.toList := notMem_of_isUnpunctuated hname (by decide)
  have hclose : ')' ∉ (String.intercalate ", " (params.map paramText)).toList := by
    refine notMem_intercalate (by decide) ?_
    rw [List.forall_mem_map]
    exact fun param hparam => (notMem_paramText (hparams param hparam)).2
  rw [Layout.read?, layout.toList_line,
    List.dropPrefix?_append_of_beq _ (beq_self_eq_true _)]
  simp only [bind, Option.bind]
  rw [dropInfix?_append hopen]
  simp only [List.dropPrefix?_append_of_beq, beq_self_eq_true]
  rw [dropInfix?_append hclose]
  simp only [List.dropPrefix?_append_of_beq, beq_self_eq_true, dropSuffix?_append,
    mapM_readParam?_listItems hne hparams, pure,
    String.ofList_toList]

/-- The body of an exported function begins like a call, whatever it calls. -/
theorem bodyLine_eq_append (implType : String) (f : Function) :
    f.bodyLine implType = callOpening ++ (implType ++ ("::" ++ (f.traitMethod ++ ("(" ++
      (String.intercalate ", " f.arguments ++ ("), " ++ (f.placeholder ++ ")"))))))) := by
  have hline : f.bodyLine implType = callOpening ++ implType ++ "::" ++ f.traitMethod ++ "(" ++
      String.intercalate ", " f.arguments ++ "), " ++ f.placeholder ++ ")" := rfl
  rw [hline]
  simp only [String.append_assoc]

/-- The characters of the body of an exported function. -/
theorem toList_bodyLine (implType : String) (f : Function) :
    (f.bodyLine implType).toList =
      callOpening.toList ++ (implType.toList ++ ([':', ':'] ++ (f.traitMethod.toList ++ (['('] ++
        ((String.intercalate ", " f.arguments).toList ++ ([')'] ++ ([',', ' '] ++
          (f.placeholder.toList ++ [')'])))))))) := by
  have hmarks : "::".toList = [':', ':'] ∧ "(".toList = ['('] ∧
      "), ".toList = [')'] ++ [',', ' '] ∧ ")".toList = [')'] := by decide
  simp only [bodyLine_eq_append, String.toList_append, hmarks, List.append_assoc]

/-- The body of an exported function is read as it is written. -/
theorem readCall?_bodyLine {implType : String} {f : Function} (himpl : isUnpunctuated implType)
    (hmethod : isUnpunctuated f.traitMethod)
    (hnames : ∀ param ∈ f.params, isUnpunctuated param.name) :
    readCall? (f.bodyLine implType) =
      some ⟨implType, f.traitMethod, f.arguments, f.placeholder⟩ := by
  have hcolon : ':' ∉ implType.toList := notMem_of_isUnpunctuated himpl (by decide)
  have hopen : '(' ∉ f.traitMethod.toList := notMem_of_isUnpunctuated hmethod (by decide)
  have harguments : ∀ item ∈ f.arguments, isItem item.toList ∧ ')' ∉ item.toList := by
    rw [Function.arguments, List.forall_mem_cons, List.forall_mem_map]
    refine ⟨by decide, fun param hparam => ?_⟩
    have hname := hnames param (List.mem_of_mem_drop hparam)
    have hcomma : ',' ∉ param.name.toList := notMem_of_isUnpunctuated hname (by decide)
    have hblank : ' ' ∉ param.name.toList := notMem_of_isUnpunctuated hname (by decide)
    refine ⟨decide_eq_true ⟨hcomma, fun hhead => hblank ?_⟩,
      notMem_of_isUnpunctuated hname (by decide)⟩
    exact List.mem_of_head? hhead
  have hclose : ')' ∉ (String.intercalate ", " f.arguments).toList :=
    notMem_intercalate (by decide) fun item hitem => (harguments item hitem).2
  have hne : f.arguments ≠ [] := List.cons_ne_nil _ _
  rw [readCall?, toList_bodyLine, List.dropPrefix?_append_of_beq _ (beq_self_eq_true _)]
  simp only [bind, Option.bind]
  rw [dropInfix?_append hcolon]
  dsimp only
  rw [dropInfix?_append hopen]
  dsimp only
  rw [dropInfix?_append hclose]
  have hback : String.ofList ∘ String.toList = id := funext fun _ => String.ofList_toList
  simp only [List.dropPrefix?_append_of_beq, beq_self_eq_true, dropSuffix?_append, pure,
    String.ofList_toList, listItems_intercalate hne fun item hitem => (harguments item hitem).1, List.map_map, hback,
    List.map_id]

end NativeBindings.Binding
