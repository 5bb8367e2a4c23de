import NativeBindings.Backend
import NativeBindings.Proofs.NumberedSearch
import NativeBindings.Proofs.Steps
import NativeBindings.Proofs.TreeGrowth

/-!
# Writing a file at once or not at all

The file of a class is written under a scratch name that nothing has, and then moved. Whatever stops
this, a directory that cannot be made, a backend that fails after it wrote a part, a full disk, or a
directory in the place of the file, the tree has at most new directories on the way. If nothing
stops it, the file is there with all that the backend wrote before anything is done to it.
-/

namespace NativeBindings

namespace FileTree

/-- A place that is not the root is taken only if an entry is listed for it. -/
theorem mem_map_entries {tree : FileTree} {place : Place} (hplace : place ≠ [])
    (htaken : tree.get? place ≠ none) : place ∈ tree.entries.map Prod.fst := by
  rw [get?, if_neg hplace, Ne, Option.map_eq_none_iff, List.find?_eq_none] at htaken
  simp only [beq_iff_eq, not_forall, not_not] at htaken
  obtain ⟨entry, hentry, hsame⟩ := htaken
  exact List.mem_map.mpr ⟨entry, hentry, hsame⟩

/-- A scratch file has the first numbered name that nothing in its directory has. -/
theorem exists_scratchName (tree : FileTree) (directory : Place) :
    ∃ n : Nat, tree.scratchName directory = ".tmp" ++ toString n ∧
      tree.get? (directory ++ [".tmp" ++ toString n]) = none ∧
      ∀ earlier < n, tree.get? (directory ++ [".tmp" ++ toString earlier]) ≠ none := by
  have hinjective : Function.Injective fun n : Nat => directory ++ [".tmp" ++ toString n] := by
    intro i j hsame
    have hname := (List.cons.inj (List.append_cancel_left hsame)).1
    exact append_toString_injective ".tmp" hname
  obtain ⟨bound, hbound, hunlisted⟩ :=
    exists_notMem_of_injective hinjective (tree.entries.map Prod.fst)
  have hfree : tree.get? (directory ++ [".tmp" ++ toString bound]) = none := by
    by_contra htaken
    exact hunlisted
      (mem_map_entries (List.append_ne_nil_of_right_ne_nil directory (by simp)) htaken)
  rw [List.length_map] at hbound
  obtain ⟨n, hfound, hleast⟩ := find?_candidates (fun n : Nat => ".tmp" ++ toString n)
    (fun name => (tree.get? (directory ++ [name])).isNone)
    ⟨bound, hbound, Option.isNone_iff_eq_none.mpr hfree⟩
  refine ⟨n, ?_, Option.isNone_iff_eq_none.mp hleast.1, fun earlier hlt htaken => ?_⟩
  · rw [scratchName, hfound, Option.getD_some]
  · exact Nat.not_le_of_lt hlt (hleast.2 (Option.isNone_iff_eq_none.mpr htaken))

/-- Nothing stands at the place of a scratch file. -/
theorem get?_scratchName (tree : FileTree) (directory : Place) :
    tree.get? (directory ++ [tree.scratchName directory]) = none := by
  obtain ⟨n, hname, hfree, -⟩ := tree.exists_scratchName directory
  rw [hname]
  exact hfree

/-- A tree with a scratch file besides all that another one has. -/
structure WithScratch (before staged : FileTree) (scratch : Place) (content : List UInt8) :
    Prop where
  fresh : before.get? scratch = none
  ne_root : scratch ≠ []
  held : staged.get? scratch = some (.file content false)
  elsewhere : ∀ place, place ≠ scratch → staged.get? place = before.get? place

namespace WithScratch

variable {before staged : FileTree} {scratch : Place} {content : List UInt8}

/-- A scratch file is empty when it has been made. -/
theorem of_createScratch {path : Path} {disk : Disk}
    (h : before.createScratch path disk = .ok (staged, scratch)) :
    before.WithScratch staged scratch [] := by
  obtain ⟨directory, -, h⟩ := bind_eq_ok_iff.mp h
  cases hentry : before.get? directory with
  | none => simp [hentry] at h
  | some entry =>
    cases entry with
    | file content executable => simp [hentry] at h
    | directory =>
      cases hrefused : disk (.makeScratchFile directory) with
      | some fault => simp [hentry, hrefused] at h
      | none =>
        simp only [hentry, hrefused] at h
        obtain ⟨rfl, rfl⟩ := Prod.mk.inj (Except.ok.inj h)
        have hroot : directory ++ [before.scratchName directory] ≠ [] :=
          List.append_ne_nil_of_right_ne_nil directory (by simp)
        exact {
          fresh := before.get?_scratchName directory
          ne_root := hroot
          held := by rw [get?_put _ hroot, if_pos rfl]
          elsewhere := fun place hplace => by rw [get?_put _ hroot, if_neg hplace] }

/-- Writing the scratch file changes its content alone. -/
theorem write (h : before.WithScratch staged scratch content) (written : List UInt8) :
    before.WithScratch (staged.put scratch (.file written false)) scratch written where
  fresh := h.fresh
  ne_root := h.ne_root
  held := by rw [get?_put _ h.ne_root, if_pos rfl]
  elsewhere := fun place hplace => by
    rw [get?_put _ h.ne_root, if_neg hplace, h.elsewhere place hplace]

/-- Without the scratch file, all is as before. -/
theorem get?_erase (h : before.WithScratch staged scratch content) (place : Place) :
    (staged.erase scratch).get? place = before.get? place := by
  rw [FileTree.get?_erase _ h.ne_root]
  split
  · next hsame => rw [hsame, h.fresh]
  · next hplace => exact h.elsewhere place hplace

/-- The directories are as before. -/
theorem directory_iff (h : before.WithScratch staged scratch content) (place : Place) :
    staged.get? place = some .directory ↔ before.get? place = some .directory := by
  by_cases hplace : place = scratch
  · rw [hplace, h.held, h.fresh]
    simp
  · rw [h.elsewhere place hplace]

end WithScratch

/-- A file that has been moved stands where its path leads to, in place of no directory, and is the
only change. -/
theorem rename_eq_ok {tree moved : FileTree} {source : Place} {path : Path} {disk : Disk}
    (h : tree.rename source path disk = .ok moved) :
    ∃ target entry, tree.locate path = .ok target ∧ tree.get? source = some entry ∧
      tree.get? target ≠ some .directory ∧ moved = (tree.erase source).put target entry := by
  obtain ⟨target, htarget, h⟩ := bind_eq_ok_iff.mp h
  split at h
  · contradiction
  · contradiction
  · contradiction
  · next entry hentry hwilling hnot =>
    exact ⟨target, entry, htarget, hentry, hnot, (Except.ok.inj h).symm⟩

/-- A file has come to the place that a path leads to, where no directory was. Every place on the
way is a directory now, and nothing else has changed. -/
structure Receives (before after : FileTree) (way : List Place) (path : Path)
    (content : List UInt8) (target : Place) : Prop where
  locate : after.locate path = .ok target
  held : after.get? target = some (.file content false)
  replaced : before.get? target ≠ some .directory
  passed : ∀ place ∈ way, after.get? place = some .directory
  elsewhere : ∀ place, place ≠ target → before.GrowsAt way after place

/-- A scratch file that is moved comes to its path as it is, and leaves nothing behind. -/
theorem WithScratch.exists_receives {before staged after : FileTree} {scratch : Place}
    {content : List UInt8} (h : before.WithScratch staged scratch content) {path : Path}
    {disk : Disk} (hmoved : staged.rename scratch path disk = .ok after) :
    ∃ target, before.Receives after [] path content target := by
  obtain ⟨target, entry, htarget, hentry, hnot, rfl⟩ := rename_eq_ok hmoved
  obtain rfl : Entry.file content false = entry := Option.some.inj (h.held.symm.trans hentry)
  have hroot : target ≠ [] := by
    rintro rfl
    exact hnot staged.get?_nil
  have hafter : ∀ place, ((staged.erase scratch).put target (.file content false)).get? place =
      if place = target then some (.file content false) else before.get? place := by
    intro place
    rw [get?_put _ hroot, h.get?_erase]
  refine ⟨target, ?_, ?_, fun hdirectory => hnot ((h.directory_iff target).mpr hdirectory), by simp,
    fun place hplace => Or.inl (by rw [hafter, if_neg hplace])⟩
  · refine locate_eq_ok_of_directories (fun place hdirectory => ?_) htarget
    have hplace : place ≠ target := by
      rintro rfl
      exact hnot hdirectory
    rw [hafter, if_neg hplace]
    exact (h.directory_iff place).mp hdirectory
  · rw [hafter, if_pos rfl]

/-- Directories that are made on the way beforehand are all that changes besides. -/
theorem Receives.of_growsAlong {before middle after : FileTree} {way : List Place} {path : Path}
    {content : List UInt8} {target : Place}
    (h : middle.Receives after [] path content target) (hgrows : before.GrowsAlong way middle)
    (hpassed : ∀ place ∈ way, middle.get? place = some .directory) :
    before.Receives after way path content target where
  locate := h.locate
  held := h.held
  replaced := fun hdirectory => h.replaced ((hgrows target).directory hdirectory)
  passed := by
    intro place hmem
    have hplace : place ≠ target := by
      rintro rfl
      exact h.replaced (hpassed place hmem)
    exact (h.elsewhere place hplace).directory (hpassed place hmem)
  elsewhere := fun place hplace =>
    (hgrows place).trans ((h.elsewhere place hplace).mono (List.nil_subset way))

end FileTree

open FileTree

/-- Placing an emission by way of a scratch file either fails and leaves the tree as it was before
that file, or puts exactly what is written at the place of the path. -/
theorem Emission.place_cases (disk : Disk) (emission : Emission) (path : Path)
    {tree staged : FileTree} {scratch : Place} {content : List UInt8}
    (hscratch : tree.WithScratch staged scratch content) :
    (∃ failure after, emission.place disk scratch path staged = (after, some failure) ∧
        ∀ place, after.get? place = tree.get? place) ∨
      ∃ target after, emission.place disk scratch path staged = (after, none) ∧
        emission.outcome = .ok () ∧ tree.Receives after [] path emission.bytes target := by
  have hwritten := hscratch.write emission.bytes
  unfold Emission.place
  dsimp only
  cases houtcome : emission.outcome with
  | error failure => exact Or.inl ⟨_, _, rfl, hwritten.get?_erase⟩
  | ok _ =>
    cases hflush : disk (.flush scratch) with
    | some fault => exact Or.inl ⟨_, _, rfl, hwritten.get?_erase⟩
    | none =>
      cases hmoved : (staged.put scratch (.file emission.bytes false)).rename scratch path disk with
      | error fault => exact Or.inl ⟨_, _, rfl, hwritten.get?_erase⟩
      | ok after =>
        obtain ⟨target, hreceives⟩ := hwritten.exists_receives hmoved
        exact Or.inr ⟨target, after, rfl, rfl, hreceives⟩

/-- Delivering an emission either fails and makes at most directories on the way, or brings exactly
what is written to the path. -/
theorem Emission.deliver_cases (emission : Emission) (base path : Path) (tree : FileTree)
    (disk : Disk) :
    (∃ failure after, emission.deliver base path tree disk = (after, some failure) ∧
        tree.GrowsAlong (onWay [] (directoryOf base path).parts) after) ∨
      ∃ target after, emission.deliver base path tree disk = (after, none) ∧
        emission.outcome = .ok () ∧
        tree.Receives after (onWay [] (directoryOf base path).parts) path emission.bytes
          target := by
  have hgrows := tree.createDirectories_growsAlong disk (directoryOf base path)
  unfold Emission.deliver
  dsimp only
  cases hmade : tree.createDirectories (directoryOf base path) disk with
  | mk made fault? =>
    rw [hmade] at hgrows
    dsimp only at hgrows
    cases fault? with
    | some fault => exact Or.inl ⟨_, made, rfl, hgrows⟩
    | none =>
      have hpassed := (createDirectories_eq_none hmade).1
      cases hscratch : made.createScratch (directoryOf base path) disk with
      | error fault =>
        simp only [hscratch]
        exact Or.inl ⟨_, made, rfl, hgrows⟩
      | ok staged =>
        obtain ⟨staged, scratch⟩ := staged
        simp only [hscratch]
        rcases emission.place_cases disk path (WithScratch.of_createScratch hscratch) with
          ⟨failure, after, hplace, hsame⟩ | ⟨target, after, hplace, houtcome, hreceives⟩
        · exact Or.inl ⟨failure, after, hplace, hgrows.congr hsame⟩
        · exact Or.inr ⟨target, after, hplace, houtcome, hreceives.of_growsAlong hgrows hpassed⟩

end NativeBindings
