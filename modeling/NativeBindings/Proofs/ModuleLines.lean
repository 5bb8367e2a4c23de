import NativeBindings.Proofs.LineReading

/-!
# The headers among the lines of a module

The lines of a module that begin like the header of a trait method or of an exported function are
the ones written for its functions, in order, and the body of an exported function is the line after
its header. This holds of every module, whatever its names are.
-/

namespace NativeBindings.Binding

/-! ### Lines of a text -/

/-- The lines of a text, each of which ends with a line break. -/
def textLines (text : String) : List String :=
  (text.toList.splitOn '\n').dropLast.map String.ofList

/-- The lines that follow on lines of a kind. -/
def linesAfter (p : String → Bool) : List String → List String
  | first :: next :: rest =>
    if p first then next :: linesAfter p (next :: rest) else linesAfter p (next :: rest)
  | _ => []

/-- Lines without line breaks are read as they are written. -/
theorem textLines_join {lines : List String} (h : ∀ line ∈ lines, '\n' ∉ line.toList) :
    textLines (String.join (lines.map (· ++ "\n"))) = lines := by
  have hbreak : "\n".toList = ['\n'] := rfl
  have hchars : (String.join (lines.map (· ++ "\n"))).toList =
      lines.flatMap fun line => line.toList ++ ['\n'] := by
    simp only [String.toList_join, List.flatMap_map, String.toList_append, hbreak]
  rw [textLines, hchars]
  clear hchars
  induction lines with
  | nil => rfl
  | cons line lines ih =>
    rw [List.forall_mem_cons] at h
    rw [List.flatMap_cons, List.append_assoc, List.singleton_append, List.splitOn_append_cons_self,
      List.splitOn_eq_singleton h.1, List.singleton_append,
      List.dropLast_cons_of_ne_nil (List.splitOn_ne_nil _ _), List.map_cons, String.ofList_toList,
      ih h.2]

/-- A line that is not of the kind makes no difference at the front. -/
theorem linesAfter_cons_of_not {p : String → Bool} {line : String} (h : p line = false)
    (rest : List String) : linesAfter p (line :: rest) = linesAfter p rest := by
  cases rest with
  | nil => rfl
  | cons next rest => rw [linesAfter, if_neg (by simp [h])]

/-- Lines none of which is of the kind make no difference at the front. -/
theorem linesAfter_append_of_not {p : String → Bool} {lines : List String}
    (h : ∀ line ∈ lines, p line = false) (rest : List String) :
    linesAfter p (lines ++ rest) = linesAfter p rest := by
  induction lines with
  | nil => rfl
  | cons line lines ih =>
    rw [List.forall_mem_cons] at h
    rw [List.cons_append, linesAfter_cons_of_not h.1, ih h.2]

/-! ### Lines of no header -/

/-- A line that begins like no header. -/
def isPlain (line : String) : Bool :=
  !Layout.ofTrait.opens line && !Layout.ofExport.opens line

/-- A line begins like a header only if that one and the front of the line have a common front. -/
theorem Layout.opens_append_eq_false {layout : Layout} {front : String}
    (hfront : front.toList.isPrefixOf layout.opening.toList = false)
    (hopening : layout.opens front = false) (rest : String) :
    layout.opens (front ++ rest) = false := by
  rw [Bool.eq_false_iff] at hfront hopening ⊢
  rw [opens, Ne, List.isPrefixOf_iff_prefix] at hopening ⊢
  rw [Ne, List.isPrefixOf_iff_prefix] at hfront
  intro hprefix
  rw [String.toList_append] at hprefix
  exact (List.prefix_or_prefix_of_prefix hprefix (List.prefix_append _ _)).elim hopening hfront

/-- A line with a front of its own begins like no header. -/
theorem isPlain_append {front : String}
    (hfront : [Layout.ofTrait, Layout.ofExport].all (fun layout =>
      !front.toList.isPrefixOf layout.opening.toList && !layout.opens front)) (rest : String) :
    isPlain (front ++ rest) := by
  simp only [List.all_cons, List.all_nil, Bool.and_true, Bool.and_eq_true,
    Bool.not_eq_true'] at hfront
  obtain ⟨⟨htrait, htraitOpens⟩, hexport, hexportOpens⟩ := hfront
  rw [isPlain, Layout.opens_append_eq_false htrait htraitOpens,
    Layout.opens_append_eq_false hexport hexportOpens]
  rfl

/-- The lines before the trait begin like no header. -/
theorem isPlain_of_mem_opening (m : Module) : ∀ line ∈ m.opening, isPlain line := by
  have hmodule : isPlain ("mod " ++ m.implModule ++ ";") := by
    rw [String.append_assoc]
    exact isPlain_append (by decide) _
  have himpl : isPlain ("use self::" ++ m.implModule ++ "::" ++ m.implType ++ ";") := by
    simp only [String.append_assoc]
    exact isPlain_append (by decide) _
  simp only [Module.opening, List.forall_mem_append, List.forall_mem_cons, hmodule, himpl]
  decide +kernel

/-- The first lines of the trait begin like no header. -/
theorem isPlain_of_mem_traitOpening (m : Module) :
    ∀ line ∈ ["trait " ++ m.traitName ++ "<'a> \x7b", "    type Error: Desc<'a, JThrowable<'a>>;"],
      isPlain line := by
  have htrait : isPlain ("trait " ++ m.traitName ++ "<'a> \x7b") := by
    rw [String.append_assoc]
    exact isPlain_append (by decide) _
  simp only [List.forall_mem_cons, htrait]
  decide

/-- The body of an exported function begins like no header. -/
theorem isPlain_bodyLine (implType : String) (f : Function) : isPlain (f.bodyLine implType) := by
  rw [bodyLine_eq_append]
  exact isPlain_append (by decide) _

/-! ### Headers -/

/-- Parameters with their types as they are written. -/
def spelled (inTrait : Bool) (params : List (Param NativeType)) : List (Param String) :=
  params.map fun param => ⟨param.name, paramSpelling inTrait param.type⟩

/-- The parameters of a function, as they are declared. -/
theorem intercalate_spelled (inTrait : Bool) (params : List (Param NativeType)) :
    String.intercalate ", " ((spelled inTrait params).map paramText) =
      paramList inTrait params := by
  rw [spelled, List.map_map]
  rfl

/-- The line of a trait method is a header. -/
theorem traitLine_eq_line (f : Function) :
    f.traitLine = Layout.ofTrait.line f.traitMethod (spelled true f.params)
      (rawSpelling f.returns) := by
  have hclosing : ") -> Result<" = ")" ++ " -> Result<" := rfl
  rw [Function.traitLine, Layout.line, intercalate_spelled, hclosing]
  simp only [Layout.ofTrait, String.append_assoc, String.empty_append]

/-- The first line of an exported function is a header. -/
theorem exportLine_eq_line (f : Function) :
    f.exportLine = Layout.ofExport.line f.symbol (spelled false f.params)
      (returnSign f.returns) := by
  have hline : f.exportLine = Layout.ofExport.opening ++ f.symbol ++
      ("(" ++ Layout.ofExport.beforeParams) ++ paramList false f.params ++ ")" ++
      returnSign f.returns ++ Layout.ofExport.closing := rfl
  have hresult : Layout.ofExport.beforeResult = "" := rfl
  rw [hline, Layout.line, intercalate_spelled, hresult]
  simp only [String.append_assoc, String.empty_append]

/-- A header begins as its layout says. -/
theorem opens_line (layout : Layout) (name : String) (params : List (Param String))
    (result : String) : layout.opens (layout.line name params result) := by
  rw [Layout.opens, List.isPrefixOf_iff_prefix]
  simp only [Layout.line, String.append_assoc, String.toList_append]
  exact List.prefix_append _ _

/-- A header begins as no layout with another opening says. -/
theorem opens_line_eq_false {layout other : Layout} (hother : other.opens layout.opening = false)
    (hlayout : layout.opens other.opening = false) (name : String) (params : List (Param String))
    (result : String) : other.opens (layout.line name params result) = false := by
  simp only [Layout.line, String.append_assoc]
  exact Layout.opens_append_eq_false hlayout hother _

/-! ### The lines of a module -/

section

variable {p : String → Bool} (hplain : ∀ line, isPlain line → p line = false)

include hplain

/-- Lines that begin like no header hold none of the kind. -/
theorem filter_eq_nil_of_isPlain {lines : List String} (h : ∀ line ∈ lines, isPlain line) :
    lines.filter p = [] :=
  List.filter_eq_nil_iff.mpr fun line hline => Bool.eq_false_iff.mp (hplain line (h line hline))

/-- Of the lines of exported functions only headers are of a kind that no plain line is of. -/
theorem filter_exportLines (implType : String) (functions : List Function) :
    (functions.flatMap (Function.exportLines implType)).filter p =
      (functions.map Function.exportLine).filter p := by
  induction functions with
  | nil => rfl
  | cons f functions ih =>
    have hbefore : ["#[unsafe(no_mangle)]"].filter p = [] :=
      filter_eq_nil_of_isPlain hplain (by decide)
    have hafter : [f.bodyLine implType, "\x7d", ""].filter p = [] := by
      refine filter_eq_nil_of_isPlain hplain ?_
      rw [List.forall_mem_cons]
      exact ⟨isPlain_bodyLine implType f, by decide⟩
    have hlines : f.exportLines implType = ["#[unsafe(no_mangle)]"] ++
        ([f.exportLine] ++ [f.bodyLine implType, "\x7d", ""]) := rfl
    rw [List.flatMap_cons, hlines, List.filter_append, List.filter_append, List.filter_append,
      hbefore, hafter, ih, List.nil_append, List.append_nil, ← List.filter_append, List.map_cons,
      List.singleton_append]

/-- Of the lines of a module only headers are of a kind that no plain line is of. -/
theorem filter_lines (m : Module) :
    m.lines.filter p = (m.functions.map Function.traitLine).filter p ++
      (m.functions.map Function.exportLine).filter p := by
  have hopening := filter_eq_nil_of_isPlain hplain (isPlain_of_mem_opening m)
  have htraitOpening := filter_eq_nil_of_isPlain hplain (isPlain_of_mem_traitOpening m)
  have hclosing : ["\x7d", ""].filter p = [] := filter_eq_nil_of_isPlain hplain (by decide)
  rw [Module.lines, Module.traitLines]
  simp only [List.filter_append, hopening, htraitOpening, hclosing, List.nil_append,
    List.append_nil, filter_exportLines hplain]

end

section

variable (f : Function)

/-- The line of a trait method is the header of no exported function. -/
theorem opens_traitLine :
    Layout.ofTrait.opens f.traitLine ∧ Layout.ofExport.opens f.traitLine = false := by
  rw [traitLine_eq_line]
  exact ⟨opens_line _ _ _ _, opens_line_eq_false (by decide) (by decide) _ _ _⟩

/-- The first line of an exported function is the header of no trait method. -/
theorem opens_exportLine :
    Layout.ofExport.opens f.exportLine ∧ Layout.ofTrait.opens f.exportLine = false := by
  rw [exportLine_eq_line]
  exact ⟨opens_line _ _ _ _, opens_line_eq_false (by decide) (by decide) _ _ _⟩

end

/-- A line that begins like no header begins like none of either kind. -/
theorem opens_eq_false_of_isPlain {line : String} (h : isPlain line) :
    Layout.ofTrait.opens line = false ∧ Layout.ofExport.opens line = false := by
  simpa [isPlain] using h

/-- The lines that begin like the header of a trait method are those of the trait methods. -/
theorem filter_ofTrait_lines (m : Module) :
    m.lines.filter Layout.ofTrait.opens = m.functions.map Function.traitLine := by
  have htrait : ∀ line ∈ m.functions.map Function.traitLine, Layout.ofTrait.opens line :=
    List.forall_mem_map.mpr fun f _ => (opens_traitLine f).1
  have hexport : ∀ line ∈ m.functions.map Function.exportLine, ¬ Layout.ofTrait.opens line :=
    List.forall_mem_map.mpr fun f _ => Bool.eq_false_iff.mp (opens_exportLine f).2
  rw [filter_lines fun line h => (opens_eq_false_of_isPlain h).1, List.filter_eq_self.mpr htrait,
    List.filter_eq_nil_iff.mpr hexport, List.append_nil]

/-- The lines that begin like the header of an exported function are those of the exported
functions. -/
theorem filter_ofExport_lines (m : Module) :
    m.lines.filter Layout.ofExport.opens = m.functions.map Function.exportLine := by
  have htrait : ∀ line ∈ m.functions.map Function.traitLine, ¬ Layout.ofExport.opens line :=
    List.forall_mem_map.mpr fun f _ => Bool.eq_false_iff.mp (opens_traitLine f).2
  have hexport : ∀ line ∈ m.functions.map Function.exportLine, Layout.ofExport.opens line :=
    List.forall_mem_map.mpr fun f _ => (opens_exportLine f).1
  rw [filter_lines fun line h => (opens_eq_false_of_isPlain h).2, List.filter_eq_nil_iff.mpr htrait,
    List.filter_eq_self.mpr hexport, List.nil_append]

/-- The lines after the headers of exported functions are their bodies. -/
theorem linesAfter_lines (m : Module) :
    linesAfter Layout.ofExport.opens m.lines = m.functions.map (Function.bodyLine m.implType) := by
  have hplain {line : String} (h : isPlain line) := (opens_eq_false_of_isPlain h).2
  have htrait : ∀ line ∈ m.traitLines, Layout.ofExport.opens line = false := by
    rw [Module.traitLines, List.forall_mem_append, List.forall_mem_append, List.forall_mem_map]
    exact ⟨⟨fun line hline => hplain (isPlain_of_mem_traitOpening m line hline),
      fun f _ => (opens_traitLine f).2⟩, by decide⟩
  rw [Module.lines, List.append_assoc,
    linesAfter_append_of_not fun line hline => hplain (isPlain_of_mem_opening m line hline),
    linesAfter_append_of_not htrait]
  generalize m.implType = implType
  induction m.functions with
  | nil => rfl
  | cons f functions ih =>
    have hheader : Layout.ofExport.opens f.exportLine := (opens_exportLine f).1
    have hbody := hplain (isPlain_bodyLine implType f)
    rw [List.flatMap_cons, Function.exportLines]
    simp only [List.cons_append, List.nil_append]
    rw [linesAfter_cons_of_not (by decide), linesAfter, if_pos hheader,
      linesAfter_cons_of_not hbody, linesAfter_cons_of_not (by decide),
      linesAfter_cons_of_not (by decide), ih, List.map_cons]

/-- The number of lines depends on the number of functions only. -/
theorem length_lines (m : Module) : m.lines.length = 30 + 6 * m.functions.length := by
  have hexports : (m.functions.flatMap (Function.exportLines m.implType)).length =
      5 * m.functions.length := by
    induction m.functions with
    | nil => rfl
    | cons f functions ih =>
      rw [List.flatMap_cons, List.length_append, ih, Function.exportLines, List.length_cons]
      simp only [List.length_cons, List.length_nil]
      omega
  have htrait : m.traitLines.length = m.functions.length + 4 := by
    rw [Module.traitLines, List.length_append, List.length_append, List.length_map]
    simp only [List.length_cons, List.length_nil]
    omega
  have hopening : m.opening.length = 26 := rfl
  rw [Module.lines, List.length_append, List.length_append, hexports, htrait, hopening]
  omega

end NativeBindings.Binding
