import NativeBindings.Proofs.AtomicWriting

/-!
# What stops a delivery

On a disk that refuses nothing, a delivery is stopped by a file on the way, a directory in the place
of the file, a path that is too long, or the backend. Two trees that have the same files on the way,
and a directory at the end or none, therefore let the same deliveries pass.
-/

namespace NativeBindings

namespace FileTree

/-- Two trees have the same file at a place, or no file. -/
def SameFileAt (tree other : FileTree) (place : Place) : Prop :=
  ∀ content executable, tree.get? place = some (.file content executable) ↔
    other.get? place = some (.file content executable)

section

variable {tree other : FileTree}

/-- Growth brings no files, so the files stay the same. -/
theorem SameFileAt.grow {grown grown' : FileTree} {places places' : List Place} {place : Place}
    (h : tree.SameFileAt other place) (htree : tree.GrowsAt places grown place)
    (hother : other.GrowsAt places' grown' place) : grown.SameFileAt grown' place :=
  fun content executable => htree.file_iff.trans ((h content executable).trans hother.file_iff.symm)

/-- Making one directory fails in the same way where there is the same file or none. -/
theorem makeDirectory_snd_congr {place : Place} (h : tree.SameFileAt other place) (isLast : Bool) :
    (tree.makeDirectory .willing place isLast).2 =
      (other.makeDirectory .willing place isLast).2 := by
  unfold makeDirectory
  unfold SameFileAt at h
  rcases htree : tree.get? place with _ | ⟨content, executable⟩ | _ <;>
    rcases hother : other.get? place with _ | ⟨content', executable'⟩ | _ <;>
    simp_all [Disk.willing]

/-- Making directories fails in the same way where there are the same files on the way. -/
theorem makeDirectories_snd_congr {place : Place} {names : List String}
    (h : ∀ passed ∈ onWay place names, tree.SameFileAt other passed) :
    (tree.makeDirectories .willing place names).2 =
      (other.makeDirectories .willing place names).2 := by
  induction names generalizing tree other place with
  | nil => rfl
  | cons name names ih =>
    rw [onWay] at h
    rw [makeDirectories_cons, makeDirectories_cons]
    split
    · next hup =>
      rw [if_pos hup] at h
      exact ih h
    · next hdown =>
      rw [if_neg hdown, List.forall_mem_cons] at h
      split
      · rfl
      · rw [makeDirectory_snd_congr h.1]
        split
        · rfl
        · have hgrows := fun start : FileTree => start.makeDirectory_growsAlong .willing
            (place ++ [name]) names.isEmpty (List.mem_singleton_self (place ++ [name]))
          exact ih fun passed hmem =>
            (h.2 passed hmem).grow (hgrows tree passed) (hgrows other passed)

/-- Making a directory with its parents fails in the same way where there are the same files on the
way. -/
theorem createDirectories_snd_congr {path : Path}
    (h : ∀ passed ∈ onWay [] path.parts, tree.SameFileAt other passed) :
    (tree.createDirectories path).2 = (other.createDirectories path).2 := by
  unfold createDirectories
  split
  · rfl
  · exact makeDirectories_snd_congr h

end

section

variable {tree : FileTree} {path : Path}
    (hpassed : ∀ passed ∈ onWay [] path.parts, tree.get? passed = some .directory)

include hpassed

/-- The end of a way through directories is a directory. -/
theorem get?_wayEnd : tree.get? (wayEnd [] path.parts) = some .directory := by
  rcases wayEnd_mem_or_isPrefix [] path.parts with h | h
  · exact hpassed _ h
  · rw [List.prefix_nil.mp h, get?_nil]

/-- A walk through directories goes to the end of the way. -/
theorem walk_segments (hnames : ∀ name ∈ path.parts, name ≠ ".." → ¬ isTooLong name) :
    tree.walk [] path.segments = .ok (wayEnd [] path.parts) := by
  refine walk_eq_wayEnd (fun above h => ?_) hpassed hnames
  rw [List.prefix_nil.mp h, get?_nil]

/-- In a directory that is there, a scratch file can be made. -/
theorem createScratch_of_passed (hfine : textFault? path = none)
    (hnames : ∀ name ∈ path.parts, name ≠ ".." → ¬ isTooLong name) :
    ∃ staged scratch, tree.createScratch path = .ok (staged, scratch) := by
  have hlocate : tree.locate path = .ok (wayEnd [] path.parts) := by
    rw [locate, hfine]
    exact walk_segments hpassed hnames
  simp only [createScratch, hlocate, get?_wayEnd hpassed, Disk.willing, bind, Except.bind]
  exact ⟨_, _, rfl⟩

end

/-- A path that no tree has is no path to move a file to. -/
theorem rename_of_textFault (tree : FileTree) (source : Place) {path : Path} {fault : IoFault}
    (h : textFault? path = some fault) : tree.rename source path = .error fault := by
  rw [rename, locate, h]
  rfl

/-- A file may be moved to any place but that of a directory. -/
theorem rename_of_locate {tree : FileTree} {source target : Place} {path : Path} {entry : Entry}
    (hsource : tree.get? source = some entry) (htarget : tree.locate path = .ok target) :
    tree.rename source path =
      if tree.get? target = some .directory then .error .isADirectory
      else .ok ((tree.erase source).put target entry) := by
  rw [rename, htarget]
  simp only [bind, Except.bind, hsource, Disk.willing]
  rcases tree.get? target with _ | ⟨content, executable⟩ | _
  · rfl
  · rfl
  · rfl

end FileTree

open FileTree

section

variable {base path : Path} {file : String}
    (hpath : path.segments = (directoryOf base path).segments ++ [file])
    (hnamed : Path.isNamed file) (hdown : file ≠ "..") (hshort : ¬ isTooLong file)

include hpath hnamed hdown

/-- The way to a file goes one name beyond the way to its directory. -/
theorem wayEnd_parts_file :
    wayEnd [] path.parts = wayEnd [] (directoryOf base path).parts ++ [file] := by
  rw [Path.parts, hpath, List.filter_append, wayEnd_append, List.filter_cons_of_pos hnamed,
    List.filter_nil, wayEnd, if_neg hdown, wayEnd, Path.parts]

include hshort

/-- A file in a directory that is there is found by its path. -/
theorem locate_file {tree : FileTree} (hfine : textFault? path = none)
    (hpassed : ∀ passed ∈ onWay [] (directoryOf base path).parts,
      tree.get? passed = some .directory)
    (hnames : ∀ name ∈ (directoryOf base path).parts, name ≠ ".." → ¬ isTooLong name) :
    tree.locate path = .ok (wayEnd [] path.parts) := by
  have hstay : ¬ (file = "" ∨ file = ".") := by simpa [Path.isNamed] using hnamed
  rw [locate, hfine, wayEnd_parts_file hpath hnamed hdown, hpath, walk_append,
    walk_segments hpassed hnames]
  simp only [Except.bind, walk, get?_wayEnd hpassed, if_neg hstay, if_neg hdown, if_neg hshort]

/-- What stops a delivery to a file on a disk that refuses nothing, in the order in which it is
met. -/
theorem Emission.deliver_snd (emission : Emission) (tree : FileTree) :
    (emission.deliver base path tree).2 =
      match (tree.createDirectories (directoryOf base path)).2 with
      | some fault => some (.inputOutput (.creatingDirectory (directoryOf base path)) fault)
      | none =>
        match emission.outcome, textFault? path with
        | .error failure, _ => some failure
        | .ok (), some fault => some (.inputOutput (.writing path) fault)
        | .ok (), none =>
          if (tree.createDirectories (directoryOf base path)).1.get? (wayEnd [] path.parts) =
              some .directory then
            some (.inputOutput (.writing path) .isADirectory)
          else none := by
  unfold Emission.deliver
  dsimp only
  cases hmade : tree.createDirectories (directoryOf base path) with
  | mk made fault? =>
    cases fault? with
    | some fault => rfl
    | none =>
      obtain ⟨hpassed, hnames, hfine⟩ := createDirectories_eq_none hmade
      obtain ⟨staged, scratch, hcreate⟩ := createScratch_of_passed hpassed hfine hnames
      have hwritten := (WithScratch.of_createScratch hcreate).write emission.bytes
      simp only [hcreate, Emission.place, Disk.willing]
      cases houtcome : emission.outcome with
      | error failure => rfl
      | ok _ =>
        cases htext : textFault? path with
        | some fault => simp only [rename_of_textFault _ _ htext]
        | none =>
          have htarget := locate_file hpath hnamed hdown hshort htext
            (fun passed hmem => (hwritten.directory_iff passed).mpr (hpassed passed hmem)) hnames
          rw [rename_of_locate hwritten.held htarget]
          simp only [hwritten.directory_iff]
          by_cases htaken : made.get? (wayEnd [] path.parts) = some .directory
          · simp only [if_pos htaken]
          · simp only [if_neg htaken]

/-- Trees with the same files on the way to a file, and a directory in its place or none, let the
same deliveries pass and stop the others for the same reason. -/
theorem Emission.deliver_snd_congr (emission : Emission) {tree other : FileTree}
    (hfiles : ∀ passed ∈ onWay [] (directoryOf base path).parts, tree.SameFileAt other passed)
    (hend : wayEnd [] path.parts ∉ onWay [] (directoryOf base path).parts →
      (tree.get? (wayEnd [] path.parts) = some .directory ↔
        other.get? (wayEnd [] path.parts) = some .directory)) :
    (emission.deliver base path tree).2 = (emission.deliver base path other).2 := by
  have hfault := createDirectories_snd_congr hfiles
  rw [emission.deliver_snd hpath hnamed hdown hshort,
    emission.deliver_snd hpath hnamed hdown hshort, hfault]
  cases hmade : (other.createDirectories (directoryOf base path)).2 with
  | some fault => rfl
  | none =>
    have hsame :
        (tree.createDirectories (directoryOf base path)).1.get? (wayEnd [] path.parts) =
            some .directory ↔
          (other.createDirectories (directoryOf base path)).1.get? (wayEnd [] path.parts) =
            some .directory := by
      by_cases hmem : wayEnd [] path.parts ∈ onWay [] (directoryOf base path).parts
      · have htree := (createDirectories_eq_none (Prod.ext rfl (hfault.trans hmade))).1 _ hmem
        have hother := (createDirectories_eq_none (Prod.ext rfl hmade)).1 _ hmem
        rw [htree, hother]
      · rw [(tree.createDirectories_growsAlong .willing _ _).get?_eq hmem,
          (other.createDirectories_growsAlong .willing _ _).get?_eq hmem]
        exact hend hmem
    simp only [hsame]

end

end NativeBindings
