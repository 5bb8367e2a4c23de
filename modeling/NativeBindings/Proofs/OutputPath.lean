import NativeBindings.Proofs.ModulePath
import NativeBindings.Proofs.NativeSurface

/-!
# Modules stay apart and under the base

The path of a module is the escaped name of its class and the name of the file. A class that
resolves has a qualified name, whose escape is one segment that leads downwards and belongs to no
other class. Whatever a manifest declares, a module is therefore written two levels below the base
directory, and never over the module of another class.
-/

namespace NativeBindings

/-- The parts of a base are those with which every path under it begins. -/
theorem Path.filter_front (base : Path) : base.front.filter isNamed = base.parts := by
  unfold front parts
  split
  · next hempty => simp [segments, hempty, isNamed]
  · split
    · next hslash =>
      -- What follows the last slash is an empty segment, which names nothing.
      obtain ⟨init, hinit⟩ := List.getLast?_eq_some_iff.mp hslash
      simp [segments, hinit, List.splitOn_append_cons_self, isNamed]
    · rfl

namespace Binding

open FileTree (wayEnd)

/-- Where the module of a class stands under a base, it stands two levels below it. -/
theorem locate_modulePath {name : String} (hname : isQualifiedName name) {tree : FileTree}
    {base : Path} {target : Place} (h : tree.locate (base.join (modulePath name)) = .ok target) :
    target = wayEnd [] base.parts ++ [Symbol.escape name, fileName] := by
  rw [FileTree.locate_eq_ok h, wayEnd_modulePath base hname, modulePlace, modulesPlace,
    Path.filter_front]

/-- Only one class has its module at a path. -/
theorem modulePath_inj {name other : String} (hname : isQualifiedName name)
    (hother : isQualifiedName other) (h : modulePath name = modulePath other) : name = other := by
  have hplace : modulePlace ⟨""⟩ name = modulePlace ⟨""⟩ other := by
    rw [← wayEnd_modulePath _ hname, ← wayEnd_modulePath _ hother, h]
  exact modulePlace_inj hname hother hplace

/-- The class of a resolved declaration has its module where the declared name says. -/
theorem outputPath_of_resolve {decl : ClassDecl} {c : NativeClass} (h : decl.resolve = .ok c) :
    outputPath c = modulePath decl.name ∧ isQualifiedName decl.name := by
  rw [outputPath_eq, ClassDecl.name_of_resolve h]
  exact ⟨rfl, (ClassDecl.resolveName_eq_ok (ClassDecl.resolve_eq_ok_iff.mp h).1).2⟩

/-- Resolved classes have one path if and only if they have one name, and no path under a base leads
to the same place for classes with different names. The path of a class is a directory, whose name
is not empty and holds neither slash nor dot, and the file in it. It leads two levels below the
place where the base leads, in every tree. -/
theorem outputPath_confined {decl decl' : ClassDecl} {c c' : NativeClass}
    (h : decl.resolve = .ok c) (h' : decl'.resolve = .ok c') :
    (outputPath c = outputPath c' ↔ decl.name = decl'.name) ∧
      (∀ (tree : FileTree) (base : Path) (target : Place),
        tree.locate (base.join (outputPath c)) = .ok target →
        tree.locate (base.join (outputPath c')) = .ok target → decl.name = decl'.name) ∧
      ∃ directory : String, directory ≠ "" ∧ '/' ∉ directory.toList ∧ '.' ∉ directory.toList ∧
        outputPath c = ⟨directory ++ "/" ++ "mod.rs"⟩ ∧
        (outputPath c).segments = [directory, "mod.rs"] ∧ ¬ (outputPath c).isAbsolute ∧
        ∀ (tree : FileTree) (base : Path) (root target : Place), tree.locate base = .ok root →
          tree.locate (base.join (outputPath c)) = .ok target →
          target = root ++ [directory, "mod.rs"] := by
  obtain ⟨hpath, hname⟩ := outputPath_of_resolve h
  obtain ⟨hpath', hname'⟩ := outputPath_of_resolve h'
  obtain ⟨hslash, hnamed, -⟩ := Symbol.escape_isSegment hname
  rw [hpath, hpath']
  refine ⟨⟨modulePath_inj hname hname', congrArg modulePath⟩,
    fun tree base target hlocate hlocate' => ?_,
    Symbol.escape decl.name, ?_, hslash, Symbol.dot_notMem_escape _, modulePath_eq hname,
    segments_modulePath hname, not_isAbsolute_modulePath hname,
    fun tree base root target hroot hlocate => ?_⟩
  · have hplace : modulePlace base decl.name = modulePlace base decl'.name := by
      rw [← wayEnd_modulePath base hname, ← wayEnd_modulePath base hname',
        ← FileTree.locate_eq_ok hlocate, ← FileTree.locate_eq_ok hlocate']
    exact modulePlace_inj hname hname' hplace
  · rintro hempty
    simp [hempty, Path.isNamed] at hnamed
  · rw [locate_modulePath hname hlocate, FileTree.locate_eq_ok hroot]
    rfl

/-- A tree with two directories side by side and, in the second, that of a module. -/
def siblingTree : FileTree where
  entries := [
    (["src"], .directory),
    (["out"], .directory),
    (["out", "p__1q_1_r"], .directory)]

/-- Names that differ only in where the dots and the underscores stand have different paths, and a
base that leads up and down again is not left. -/
theorem outputPath_confined_underscored :
    (ClassDecl.resolve { name := "p._q_.r" } = .ok ⟨⟨"p._q_.r"⟩, []⟩ ∧
      ClassDecl.resolve { name := "p_._q.r" } = .ok ⟨⟨"p_._q.r"⟩, []⟩ ∧
      outputPath ⟨⟨"p._q_.r"⟩, []⟩ ≠ outputPath ⟨⟨"p_._q.r"⟩, []⟩) ∧
      siblingTree.locate ⟨"src/../out"⟩ = .ok ["out"] ∧
      siblingTree.locate ((Path.mk "src/../out").join (outputPath ⟨⟨"p._q_.r"⟩, []⟩)) =
        .ok ["out", "p__1q_1_r", "mod.rs"] ∧
      ∃ directory : String, directory ≠ "" ∧ '/' ∉ directory.toList ∧ '.' ∉ directory.toList ∧
        ["out", "p__1q_1_r", "mod.rs"] = ["out"] ++ [directory, "mod.rs"] := by
  have hfirst : ClassDecl.resolve { name := "p._q_.r" } = .ok ⟨⟨"p._q_.r"⟩, []⟩ := by decide +kernel
  have hsecond : ClassDecl.resolve { name := "p_._q.r" } = .ok ⟨⟨"p_._q.r"⟩, []⟩ := by decide +kernel
  have hbase : siblingTree.locate ⟨"src/../out"⟩ = .ok ["out"] := by decide +kernel
  have hmodule : siblingTree.locate
      ((Path.mk "src/../out").join (outputPath ⟨⟨"p._q_.r"⟩, []⟩)) =
        .ok ["out", "p__1q_1_r", "mod.rs"] := by
    decide +kernel
  obtain ⟨hpaths, -, directory, hempty, hslash, hdot, -, -, -, hbelow⟩ :=
    outputPath_confined hfirst hsecond
  refine ⟨⟨hfirst, hsecond, fun hsame => ?_⟩, hbase, hmodule, directory, hempty, hslash, hdot, ?_⟩
  · exact absurd (hpaths.mp hsame) (by decide)
  · exact hbelow siblingTree _ _ _ hbase hmodule

end Binding

end NativeBindings
