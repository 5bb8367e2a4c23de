import NativeBindings.Binding.Backend
import NativeBindings.Proofs.Escaping
import NativeBindings.Proofs.Lists
import NativeBindings.Proofs.TreeGrowth

/-!
# Where modules stand

The file of every module has the same name and stands in a directory of its own, named by the
escaped name of the class. All these directories stand side by side, at the place where the base
directory leads to, so different classes never share a file.
-/

namespace NativeBindings

namespace Path

/-- The segments with which every path under a base begins. -/
def front (base : Path) : List String :=
  if base.text = "" then []
  else if base.text.toList.getLast? = some '/' then base.segments.dropLast
  else base.segments

/-- Joining puts the segments of a relative path behind those of the base. -/
theorem segments_join (base : Path) {below : Path} (hbelow : ¬ below.isAbsolute) :
    (base.join below).segments = base.front ++ below.segments := by
  by_cases hempty : base.text = ""
  · simp [join, front, hempty]
  · by_cases hslash : base.text.toList.getLast? = some '/'
    · obtain ⟨init, hinit⟩ := List.getLast?_eq_some_iff.mp hslash
      simp [join, front, hbelow, hempty, segments, hinit, List.splitOn_append_cons_self]
    · simp [join, front, hbelow, hempty, hslash, segments, List.splitOn_append_cons_self]

/-- Segments that are put together with slashes come apart again. -/
theorem segments_intercalate {names : List String} (hnames : names ≠ [])
    (hslash : ∀ name ∈ names, '/' ∉ name.toList) :
    (Path.mk (String.intercalate "/" names)).segments = names := by
  rw [segments, String.toList_intercalate]
  change (List.splitOn '/' (['/'].intercalate (names.map String.toList))).map _ = _
  rw [List.splitOn_intercalate '/' (by simpa using hslash) (by simpa using hnames)]
  simp [Function.comp_def]

/-- No segment holds a slash. -/
theorem slash_notMem_segment {path : Path} {name : String} (h : name ∈ path.segments) :
    '/' ∉ name.toList := by
  obtain ⟨piece, hpiece, rfl⟩ := List.mem_map.mp h
  rw [String.toList_ofList]
  exact notMem_of_mem_splitOn hpiece

/-- Above a file in a folder is the path that ends with the folder. -/
theorem exists_parent? {path : Path} {above : List String} {folder file : String}
    (hpath : path.segments = above ++ [folder, file]) (hfolder : isNamed folder)
    (hfile : isNamed file) :
    ∃ parent, path.parent? = some parent ∧ parent.segments = above ++ [folder] := by
  have hdrop : ∀ {name : String} {rest : List String}, isNamed name →
      dropUnnamed (name :: rest) = name :: rest := by
    intro name rest hname
    cases rest with
    | nil => rfl
    | cons next rest =>
      rw [dropUnnamed, if_neg]
      simpa [isNamed] using hname
  have hempty : folder ≠ "" := by
    rintro rfl
    simp [isNamed] at hfolder
  have hreverse : path.segments.reverse = file :: folder :: above.reverse := by
    simp [hpath]
  have hparent : path.parent? = some ⟨String.intercalate "/" (above ++ [folder])⟩ := by
    unfold parent?
    rw [hreverse, hdrop hfile]
    split
    · next heq => simp at heq
    · rw [List.drop_one, List.tail_cons, hdrop hfolder]
      split
      · next heq => exact absurd (List.cons.inj heq).1 hempty
      · simp
  refine ⟨_, hparent, segments_intercalate (by simp) fun name hname => ?_⟩
  have hmem : name ∈ path.segments := by
    rw [hpath, ← List.singleton_append, ← List.append_assoc]
    exact List.mem_append_left [file] hname
  exact slash_notMem_segment hmem

end Path

namespace Symbol

/-- No dot stands in an escape. -/
theorem dot_notMem_escape (name : String) : '.' ∉ (escape name).toList := by
  intro h
  rw [escape, String.toList_ofList] at h
  rcases mem_of_mem_escapeChars h with h | h | h
  · contradiction
  · simp [escapeDigits] at h
  · exact h.1 (by decide)

/-- The escape of a qualified name is one segment of a path that leads into a directory. -/
theorem escape_isSegment {name : String} (hname : isQualifiedName name) :
    '/' ∉ (escape name).toList ∧ Path.isNamed (escape name) ∧ escape name ≠ ".." := by
  have hdot := dot_notMem_escape name
  have hslash : '/' ∉ (escape name).toList := by
    intro h
    rw [escape, String.toList_ofList] at h
    rcases mem_of_mem_escapeChars h with h | h | h
    · contradiction
    · simp [escapeDigits] at h
    · exact slash_notMem hname h.2
  have hempty : escape name ≠ "" := by
    intro h
    obtain ⟨first, rest, hcons, -⟩ := isQualifiedChars_cons hname
    have hnil : escapeChars name.toList = [] := by
      simpa [escape] using congrArg String.toList h
    rw [hcons, escapeChars, List.flatMap_cons, List.append_eq_nil_iff] at hnil
    rcases head?_escapeChar first with h | h <;> simp [hnil.1] at h
  refine ⟨hslash, ?_, ?_⟩
  · have hstay : escape name ≠ "." := fun h => hdot (by simp [h])
    simp [Path.isNamed, hempty, hstay]
  · exact fun h => hdot (by simp [h])

end Symbol

namespace Binding

open FileTree (onWay wayEnd)

/-- Where the module of a class stands, by the name of the class. -/
def modulePath (name : String) : Path :=
  (Path.mk (Symbol.escape name)).join ⟨fileName⟩

/-- Only the name of a class tells where its module stands. -/
theorem outputPath_eq (c : NativeClass) : outputPath c = modulePath c.name.qualified :=
  rfl

/-- The place where the directories of the modules stand. -/
def modulesPlace (base : Path) : Place :=
  wayEnd [] (base.front.filter Path.isNamed)

/-- The place of the module of a class. -/
def modulePlace (base : Path) (name : String) : Place :=
  modulesPlace base ++ [Symbol.escape name, fileName]

/-- The places on the way to the directory of a module. -/
def moduleWay (base : Path) (name : String) : List Place :=
  onWay [] (base.front.filter Path.isNamed) ++ [modulesPlace base ++ [Symbol.escape name]]

/-- A module stands on the way to another one only where the way to the base passes. -/
theorem modulePlace_mem_moduleWay_iff {base : Path} {name other : String} :
    modulePlace base name ∈ moduleWay base other ↔
      modulePlace base name ∈ onWay [] (base.front.filter Path.isNamed) := by
  have hlower : modulePlace base name ≠ modulesPlace base ++ [Symbol.escape other] := by
    intro h
    have hnames := List.append_cancel_left h
    simp at hnames
  rw [moduleWay, List.mem_append, List.mem_singleton, or_iff_left hlower]

/-- Different classes have their modules at different places. -/
theorem modulePlace_inj {base : Path} {name other : String} (hname : isQualifiedName name)
    (hother : isQualifiedName other) (h : modulePlace base name = modulePlace base other) :
    name = other := by
  have hescape : Symbol.escape name = Symbol.escape other :=
    (List.cons.inj (List.append_cancel_left h)).1
  have hchars := congrArg String.toList hescape
  rw [Symbol.escape, Symbol.escape, String.toList_ofList, String.toList_ofList] at hchars
  exact String.toList_injective (Symbol.escapeChars_injOn hname hother hchars)

section

variable (base : Path) {name : String} (hname : isQualifiedName name)

include hname

/-- The path of a module as it is written. -/
theorem modulePath_eq : modulePath name = ⟨Symbol.escape name ++ "/" ++ fileName⟩ := by
  obtain ⟨hslash, hnamed, -⟩ := Symbol.escape_isSegment hname
  have hempty : Symbol.escape name ≠ "" := by
    intro h
    simp [h, Path.isNamed] at hnamed
  have hlast : (Symbol.escape name).toList.getLast? ≠ some '/' :=
    fun h => hslash (List.mem_of_getLast? h)
  have hbelow : ¬ ((Path.mk fileName).isAbsolute || Symbol.escape name = "") := by
    rw [decide_eq_false hempty]
    decide
  rw [modulePath, Path.join, if_neg hbelow, if_neg hlast]

/-- The path of a module has the escaped class name and the name of the file as its segments. -/
theorem segments_modulePath : (modulePath name).segments = [Symbol.escape name, fileName] := by
  obtain ⟨hslash, -, -⟩ := Symbol.escape_isSegment hname
  have hfile : fileName.toList.splitOn '/' = [fileName.toList] := by decide
  have hchars : (modulePath name).text.toList =
      (Symbol.escape name).toList ++ '/' :: fileName.toList := by
    simp [modulePath_eq hname]
  rw [Path.segments, hchars, List.splitOn_append_cons_self, List.splitOn_eq_singleton hslash, hfile]
  simp

/-- The path of a module is relative. -/
theorem not_isAbsolute_modulePath : ¬ (modulePath name).isAbsolute := by
  intro habsolute
  obtain ⟨rest, hrest⟩ := List.head?_eq_some_iff.mp (beq_iff_eq.mp habsolute)
  have hsegments := segments_modulePath hname
  rw [Path.segments, hrest, ← List.nil_append ('/' :: rest),
    List.splitOn_append_cons_self] at hsegments
  have hempty : "" = Symbol.escape name := (List.cons.inj hsegments).1
  have hnamed := (Symbol.escape_isSegment hname).2.1
  simp [← hempty, Path.isNamed] at hnamed

/-- The segments of a module under a base. -/
theorem segments_join_modulePath :
    (base.join (modulePath name)).segments = base.front ++ [Symbol.escape name, fileName] := by
  rw [Path.segments_join base (not_isAbsolute_modulePath hname), segments_modulePath hname]

/-- The directory of a module under a base. -/
theorem segments_directoryOf :
    (directoryOf base (base.join (modulePath name))).segments =
      base.front ++ [Symbol.escape name] := by
  obtain ⟨parent, hparent, hsegments⟩ :=
    Path.exists_parent? (segments_join_modulePath base hname)
      (Symbol.escape_isSegment hname).2.1 (by decide)
  rw [directoryOf, hparent]
  exact hsegments

/-- The way to the directory of a module. -/
theorem onWay_directoryOf :
    onWay [] (directoryOf base (base.join (modulePath name))).parts = moduleWay base name := by
  obtain ⟨-, hnamed, hup⟩ := Symbol.escape_isSegment hname
  rw [Path.parts, segments_directoryOf base hname, List.filter_append, FileTree.onWay_append,
    List.filter_cons_of_pos hnamed]
  simp [onWay, hup, moduleWay, modulesPlace]

/-- The way to a module ends at its place. -/
theorem wayEnd_modulePath :
    wayEnd [] (base.join (modulePath name)).parts = modulePlace base name := by
  obtain ⟨-, hnamed, hup⟩ := Symbol.escape_isSegment hname
  rw [Path.parts, segments_join_modulePath base hname, List.filter_append, FileTree.wayEnd_append,
    List.filter_cons_of_pos hnamed, List.filter_cons_of_pos (by decide)]
  simp [wayEnd, hup, modulePlace, modulesPlace, fileName]

end

end Binding

end NativeBindings
