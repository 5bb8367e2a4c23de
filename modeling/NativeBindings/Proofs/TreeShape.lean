import NativeBindings.Proofs.AtomicWriting

/-!
# What a delivery sees of a tree

A delivery asks where there are files and directories, and never what a file holds. So in two trees
that differ in nothing but the content of files, it ends alike, and what it leaves behind again
differs in nothing else.
-/

namespace NativeBindings

/-- Whether an entry is a directory. -/
def Entry.isDirectory : Entry → Bool
  | file _ _ => false
  | directory => true

namespace FileTree

/-- What kind of entry stands at a place, if any does. -/
def shape (tree : FileTree) (place : Place) : Option Bool :=
  (tree.get? place).map Entry.isDirectory

/-- Two trees have files and directories at the same places. -/
def SameShape (tree other : FileTree) : Prop :=
  ∀ place, tree.shape place = other.shape place

/-- Two runs that leave trees of the same shape, and end with the same result. -/
def SameEffect {α : Type} (run other : FileTree × α) : Prop :=
  run.1.SameShape other.1 ∧ run.2 = other.2

/-- Such runs are two pairs with one result. -/
theorem SameEffect.cases {α : Type} {run other : FileTree × α} (h : SameEffect run other) :
    ∃ after after' result, run = (after, result) ∧ other = (after', result) ∧
      after.SameShape after' :=
  ⟨run.1, other.1, run.2, rfl, Prod.ext rfl h.2.symm, h.1⟩

section

variable {tree middle other : FileTree}

/-- A tree has its own shape. -/
theorem SameShape.refl (tree : FileTree) : tree.SameShape tree :=
  fun _ => rfl

/-- Trees with the shape of one tree have the same shape. -/
theorem SameShape.trans (h : tree.SameShape middle) (h' : middle.SameShape other) :
    tree.SameShape other :=
  fun place => (h place).trans (h' place)

/-- What stands at one place of trees with the same shape. -/
theorem SameShape.cases (h : tree.SameShape other) (place : Place) :
    (tree.get? place = none ∧ other.get? place = none) ∨
      (∃ content content' executable executable',
        tree.get? place = some (.file content executable) ∧
          other.get? place = some (.file content' executable')) ∨
      (tree.get? place = some .directory ∧ other.get? place = some .directory) := by
  have hplace := h place
  unfold shape at hplace
  rcases htree : tree.get? place with _ | ⟨content, executable⟩ | _ <;>
    rcases hother : other.get? place with _ | ⟨content', executable'⟩ | _ <;>
    simp_all [Entry.isDirectory]

/-- Trees with the same shape have entries at the same places, and of the same kind. -/
theorem SameShape.entry_cases (h : tree.SameShape other) (place : Place) :
    (tree.get? place = none ∧ other.get? place = none) ∨
      ∃ entry entry', tree.get? place = some entry ∧ other.get? place = some entry' ∧
        entry.isDirectory = entry'.isDirectory := by
  rcases h.cases place with hnone | ⟨_, _, _, _, htree, hother⟩ | ⟨htree, hother⟩
  · exact Or.inl hnone
  · exact Or.inr ⟨_, _, htree, hother, rfl⟩
  · exact Or.inr ⟨_, _, htree, hother, rfl⟩

/-- An entry of the same kind is put at a place of both trees. -/
theorem SameShape.put (h : tree.SameShape other) {place : Place} (hplace : place ≠ [])
    {entry entry' : Entry} (hentry : entry.isDirectory = entry'.isDirectory) :
    (tree.put place entry).SameShape (other.put place entry') := by
  intro passed
  rw [shape, shape, get?_put tree hplace, get?_put other hplace]
  split
  · rw [Option.map_some, Option.map_some, hentry]
  · exact h passed

/-- The entry at a place of both trees is taken away. -/
theorem SameShape.erase (h : tree.SameShape other) {place : Place} (hplace : place ≠ []) :
    (tree.erase place).SameShape (other.erase place) := by
  intro passed
  rw [shape, shape, get?_erase tree hplace, get?_erase other hplace]
  split
  · rfl
  · exact h passed

/-! ### Making directories -/

/-- Making one directory. -/
theorem SameShape.makeDirectory (h : tree.SameShape other) (disk : Disk) (place : Place)
    (isLast : Bool) :
    SameEffect (tree.makeDirectory disk place isLast) (other.makeDirectory disk place isLast) := by
  unfold FileTree.makeDirectory
  rcases h.cases place with ⟨htree, hother⟩ | ⟨_, _, _, _, htree, hother⟩ | ⟨htree, hother⟩
  · have hplace : place ≠ [] := by
      rintro rfl
      rw [get?_nil] at htree
      contradiction
    simp only [htree, hother]
    cases disk (.makeDirectory place) with
    | some fault => exact ⟨h, rfl⟩
    | none => exact ⟨h.put hplace rfl, rfl⟩
  · simp only [htree, hother]
    exact ⟨h, rfl⟩
  · simp only [htree, hother]
    exact ⟨h, rfl⟩

/-- Making directories along names. -/
theorem SameShape.makeDirectories (h : tree.SameShape other) (disk : Disk) (place : Place)
    (names : List String) :
    SameEffect (tree.makeDirectories disk place names)
      (other.makeDirectories disk place names) := by
  induction names generalizing tree other place with
  | nil => exact ⟨h, rfl⟩
  | cons name names ih =>
    rw [makeDirectories_cons, makeDirectories_cons]
    split
    · exact ih h place.dropLast
    · split
      · exact ⟨h, rfl⟩
      · obtain ⟨hshape, hfault⟩ := h.makeDirectory disk (place ++ [name]) names.isEmpty
        rw [hfault]
        split
        · exact ⟨hshape, rfl⟩
        · exact ih hshape (place ++ [name])

/-- Making a directory with its parents. -/
theorem SameShape.createDirectories (h : tree.SameShape other) (disk : Disk) (path : Path) :
    SameEffect (tree.createDirectories path disk) (other.createDirectories path disk) := by
  unfold FileTree.createDirectories
  split
  · exact ⟨h, rfl⟩
  · exact h.makeDirectories disk [] path.parts

/-! ### Placing a file -/

/-- A walk leads to the same place. -/
theorem SameShape.walk_eq (h : tree.SameShape other) (place : Place) (names : List String) :
    tree.walk place names = other.walk place names := by
  induction names generalizing place with
  | nil => rfl
  | cons name names ih =>
    unfold walk
    rcases h.cases place with ⟨htree, hother⟩ | ⟨_, _, _, _, htree, hother⟩ | ⟨htree, hother⟩
    · simp only [htree, hother]
    · simp only [htree, hother]
    · simp only [htree, hother, ih]

/-- A path leads to the same place. -/
theorem SameShape.locate_eq (h : tree.SameShape other) (path : Path) :
    tree.locate path = other.locate path := by
  unfold locate
  rw [h.walk_eq]

/-- A scratch file gets the same name. -/
theorem SameShape.scratchName_eq (h : tree.SameShape other) (directory : Place) :
    tree.scratchName directory = other.scratchName directory := by
  have hfree : ∀ place, tree.get? place = none ↔ other.get? place = none := by
    intro place
    rcases h.cases place with ⟨htree, hother⟩ | ⟨_, _, _, _, htree, hother⟩ | ⟨htree, hother⟩ <;>
      simp [htree, hother]
  obtain ⟨n, hname, hnone, hfirst⟩ := tree.exists_scratchName directory
  obtain ⟨n', hname', hnone', hfirst'⟩ := other.exists_scratchName directory
  obtain hlt | rfl | hgt := lt_trichotomy n n'
  · exact absurd ((hfree _).mp hnone) (hfirst' n hlt)
  · rw [hname, hname']
  · exact absurd ((hfree _).mpr hnone') (hfirst n' hgt)

/-- Making a scratch file. -/
theorem SameShape.createScratch (h : tree.SameShape other) (disk : Disk) (path : Path) :
    SameOutcome SameEffect (tree.createScratch path disk) (other.createScratch path disk) := by
  unfold FileTree.createScratch
  rw [h.locate_eq path]
  refine SameOutcome.bind (SameOutcome.refl _) ?_
  rintro directory _ rfl
  rcases h.cases directory with ⟨htree, hother⟩ | ⟨_, _, _, _, htree, hother⟩ | ⟨htree, hother⟩
  · simp only [htree, hother]
    exact .error _
  · simp only [htree, hother]
    exact .error _
  · simp only [htree, hother, h.scratchName_eq directory]
    cases disk (.makeScratchFile directory) with
    | some fault => exact .error fault
    | none => exact .ok ⟨h.put (List.append_ne_nil_of_right_ne_nil directory (by simp)) rfl, rfl⟩

/-- Moving a file. -/
theorem SameShape.rename (h : tree.SameShape other) (disk : Disk) {source : Place}
    (hsource : source ≠ []) (path : Path) :
    SameOutcome SameShape (tree.rename source path disk) (other.rename source path disk) := by
  unfold FileTree.rename
  rw [h.locate_eq path]
  refine SameOutcome.bind (SameOutcome.refl _) ?_
  rintro target _ rfl
  rcases h.entry_cases source with ⟨htree, hother⟩ | ⟨entry, entry', htree, hother, hentry⟩
  · simp only [htree, hother]
    exact .error _
  · have hmoved : tree.get? target ≠ some .directory →
        ((tree.erase source).put target entry).SameShape
          ((other.erase source).put target entry') := by
      intro hnot
      refine (h.erase hsource).put ?_ hentry
      rintro rfl
      exact hnot tree.get?_nil
    rcases h.cases target with
      ⟨htree', hother'⟩ | ⟨_, _, _, _, htree', hother'⟩ | ⟨htree', hother'⟩
    · simp only [htree, hother, htree', hother']
      cases disk (.move source target) with
      | some fault => exact .error fault
      | none => exact .ok (hmoved (by simp [htree']))
    · simp only [htree, hother, htree', hother']
      cases disk (.move source target) with
      | some fault => exact .error fault
      | none => exact .ok (hmoved (by simp [htree']))
    · simp only [htree, hother, htree', hother']
      exact .error _

end

end FileTree

open FileTree

variable {tree other : FileTree}

/-- Placing an emission by way of a scratch file. -/
theorem FileTree.SameShape.place (h : tree.SameShape other) (disk : Disk) (emission : Emission)
    {scratch : Place} (hscratch : scratch ≠ []) (path : Path) :
    SameEffect (emission.place disk scratch path tree)
      (emission.place disk scratch path other) := by
  have hwritten : (tree.put scratch (.file emission.bytes false)).SameShape
      (other.put scratch (.file emission.bytes false)) := h.put hscratch rfl
  unfold Emission.place
  dsimp only
  cases emission.outcome with
  | error failure => exact ⟨hwritten.erase hscratch, rfl⟩
  | ok _ =>
    cases disk (.flush scratch) with
    | some fault => exact ⟨hwritten.erase hscratch, rfl⟩
    | none =>
      rcases (hwritten.rename disk hscratch path).cases with
        ⟨fault, hfirst, hsecond⟩ | ⟨moved, moved', hfirst, hsecond, hmoved⟩
      · simp only [hfirst, hsecond]
        exact ⟨hwritten.erase hscratch, rfl⟩
      · simp only [hfirst, hsecond]
        exact ⟨hmoved, rfl⟩

/-- Delivering an emission. -/
theorem FileTree.SameShape.deliver (h : tree.SameShape other) (disk : Disk) (emission : Emission)
    (base path : Path) :
    SameEffect (emission.deliver base path tree disk) (emission.deliver base path other disk) := by
  obtain ⟨made, made', fault?, hmade, hmade', hshape⟩ :=
    (h.createDirectories disk (directoryOf base path)).cases
  unfold Emission.deliver
  simp only [hmade, hmade']
  cases fault? with
  | some fault => exact ⟨hshape, rfl⟩
  | none =>
    rcases (SameShape.createScratch hshape disk (directoryOf base path)).cases with
      ⟨fault, hfirst, hsecond⟩ | ⟨first, second, hfirst, hsecond, heffect⟩
    · simp only [hfirst, hsecond]
      exact ⟨hshape, rfl⟩
    · obtain ⟨staged, staged', scratch, rfl, rfl, hstaged⟩ := heffect.cases
      simp only [hfirst, hsecond]
      exact hstaged.place disk emission (WithScratch.of_createScratch hfirst).ne_root path

end NativeBindings
