import Mathlib.Data.List.Infix
import NativeBindings.FileTree

/-!
# Trees that grow

Making directories changes nothing that stands in a tree. It only adds directories at places on the
way, and if it succeeds there is a directory at each of them. A walk through directories is the same
in a tree that has grown.
-/

namespace NativeBindings.FileTree

/-- The places on the way from a place along names. Two dots lead one level up and pass nothing
new. -/
def onWay : Place → List String → List Place
  | _, [] => []
  | place, name :: rest =>
    if name = ".." then onWay place.dropLast rest
    else (place ++ [name]) :: onWay (place ++ [name]) rest

/-- Where the way from a place along names ends. -/
def wayEnd : Place → List String → Place
  | place, [] => place
  | place, name :: rest =>
    if name = ".." then wayEnd place.dropLast rest else wayEnd (place ++ [name]) rest

/-- The way along names goes on where the first of them end. -/
theorem onWay_append (place : Place) (first second : List String) :
    onWay place (first ++ second) = onWay place first ++ onWay (wayEnd place first) second := by
  induction first generalizing place with
  | nil => rfl
  | cons name first ih =>
    rw [List.cons_append, onWay, onWay, wayEnd]
    split
    · exact ih place.dropLast
    · rw [ih, List.cons_append]

/-- The end of the way along names is the end of the way along the last of them. -/
theorem wayEnd_append (place : Place) (first second : List String) :
    wayEnd place (first ++ second) = wayEnd (wayEnd place first) second := by
  induction first generalizing place with
  | nil => rfl
  | cons name first ih =>
    rw [List.cons_append, wayEnd, wayEnd]
    split
    · exact ih place.dropLast
    · exact ih (place ++ [name])

/-- The end of a way is a place on it, or on the way back from its beginning. -/
theorem wayEnd_mem_or_isPrefix (place : Place) (names : List String) :
    wayEnd place names ∈ onWay place names ∨ wayEnd place names <+: place := by
  induction names generalizing place with
  | nil => exact Or.inr (List.prefix_refl place)
  | cons name names ih =>
    rw [wayEnd, onWay]
    split
    · exact (ih place.dropLast).imp_right fun h => h.trans (List.dropLast_prefix place)
    · rcases ih (place ++ [name]) with h | h
      · exact Or.inl (List.mem_cons_of_mem _ h)
      · rcases List.prefix_concat_iff.mp h with h | h
        · exact Or.inl (by rw [h]; exact List.mem_cons_self)
        · exact Or.inr h

/-- At a place there is what was there before, or a new directory, if the place is one of those
listed. -/
def GrowsAt (before : FileTree) (places : List Place) (after : FileTree) (place : Place) : Prop :=
  after.get? place = before.get? place ∨
    before.get? place = none ∧ after.get? place = some .directory ∧ place ∈ places

/-- A tree has got nothing but new directories, and those at listed places. -/
def GrowsAlong (before : FileTree) (places : List Place) (after : FileTree) : Prop :=
  ∀ place, before.GrowsAt places after place

section

variable {before middle after : FileTree} {places more : List Place} {place : Place}

/-- Growth continues at a place. -/
theorem GrowsAt.trans (h : before.GrowsAt places middle place)
    (h' : middle.GrowsAt places after place) : before.GrowsAt places after place := by
  rcases h' with hsame | ⟨hnone, hdirectory, hmem⟩
  · rw [GrowsAt, hsame]
    exact h
  · rcases h with hsame | ⟨-, hmiddle, -⟩
    · exact Or.inr ⟨hsame ▸ hnone, hdirectory, hmem⟩
    · rw [hmiddle] at hnone
      contradiction

/-- More places may be listed. -/
theorem GrowsAt.mono (h : before.GrowsAt places after place) (hsub : places ⊆ more) :
    before.GrowsAt more after place :=
  h.imp_right fun hnew => ⟨hnew.1, hnew.2.1, hsub hnew.2.2⟩

/-- Files stay as they are, and none is added. -/
theorem GrowsAt.file_iff (h : before.GrowsAt places after place) {content : List UInt8}
    {executable : Bool} : after.get? place = some (.file content executable) ↔
      before.get? place = some (.file content executable) := by
  rcases h with hsame | ⟨hnone, hdirectory, -⟩
  · rw [hsame]
  · simp [hnone, hdirectory]

/-- Directories stay. -/
theorem GrowsAt.directory (h : before.GrowsAt places after place)
    (hdirectory : before.get? place = some .directory) : after.get? place = some .directory := by
  rcases h with hsame | ⟨-, hnew, -⟩
  · rw [hsame, hdirectory]
  · exact hnew

/-- What is not listed stays as it is. -/
theorem GrowsAt.get?_eq (h : before.GrowsAt places after place) (hplace : place ∉ places) :
    after.get? place = before.get? place :=
  h.resolve_right fun hnew => hplace hnew.2.2

/-- A tree grows into itself. -/
theorem GrowsAlong.refl (tree : FileTree) (places : List Place) : tree.GrowsAlong places tree :=
  fun _ => Or.inl rfl

/-- Growth continues. -/
theorem GrowsAlong.trans (h : before.GrowsAlong places middle)
    (h' : middle.GrowsAlong places after) : before.GrowsAlong places after :=
  fun place => (h place).trans (h' place)

/-- More places may be listed. -/
theorem GrowsAlong.mono (h : before.GrowsAlong places after) (hsub : places ⊆ more) :
    before.GrowsAlong more after :=
  fun place => (h place).mono hsub

/-- What stands at each place is all that counts for growth. -/
theorem GrowsAlong.congr (h : before.GrowsAlong places middle)
    (hsame : ∀ place, after.get? place = middle.get? place) : before.GrowsAlong places after := by
  intro place
  rw [GrowsAt, hsame]
  exact h place

end

/-- Making one directory is growth at its place. -/
theorem makeDirectory_growsAlong (disk : Disk) (tree : FileTree) (place : Place) (isLast : Bool)
    {places : List Place} (hmem : place ∈ places) :
    tree.GrowsAlong places (tree.makeDirectory disk place isLast).1 := by
  unfold makeDirectory
  split
  · exact GrowsAlong.refl tree places
  · exact GrowsAlong.refl tree places
  · next hnone =>
    split
    · exact GrowsAlong.refl tree places
    · have hplace : place ≠ [] := by
        intro hroot
        simp [hroot] at hnone
      intro other
      rw [GrowsAt, get?_put tree hplace]
      split
      · next hsame => exact Or.inr ⟨hsame ▸ hnone, rfl, hsame ▸ hmem⟩
      · exact Or.inl rfl

/-- If making one directory succeeds, it is there. -/
theorem get?_makeDirectory {disk : Disk} {tree : FileTree} {place : Place} {isLast : Bool}
    (h : (tree.makeDirectory disk place isLast).2 = none) :
    (tree.makeDirectory disk place isLast).1.get? place = some .directory := by
  rw [makeDirectory] at h ⊢
  cases hentry : tree.get? place with
  | none =>
    have hplace : place ≠ [] := by
      intro hroot
      simp [hroot] at hentry
    simp only [hentry] at h ⊢
    cases hrefused : disk (.makeDirectory place) with
    | none => rw [get?_put tree hplace, if_pos rfl]
    | some fault => simp [hrefused] at h
  | some entry =>
    cases entry with
    | directory => exact hentry
    | file content executable => simp [hentry] at h

section

variable (disk : Disk)

/-- Making directories goes on after the first if that can be made. -/
theorem makeDirectories_cons (tree : FileTree) (place : Place) (name : String)
    (names : List String) :
    tree.makeDirectories disk place (name :: names) =
      if name = ".." then tree.makeDirectories disk place.dropLast names
      else if isTooLong name then (tree, some .nameTooLong)
      else
        match (tree.makeDirectory disk (place ++ [name]) names.isEmpty).2 with
        | some fault =>
          ((tree.makeDirectory disk (place ++ [name]) names.isEmpty).1, some fault)
        | none =>
          (tree.makeDirectory disk (place ++ [name]) names.isEmpty).1.makeDirectories disk
            (place ++ [name]) names := by
  rw [makeDirectories]
  generalize tree.makeDirectory disk (place ++ [name]) names.isEmpty = made
  obtain ⟨made, _ | fault⟩ := made
  · rfl
  · rfl

/-- Making directories adds directories on the way, whether it succeeds or not. -/
theorem makeDirectories_growsAlong (tree : FileTree) (place : Place) (names : List String) :
    tree.GrowsAlong (onWay place names) (tree.makeDirectories disk place names).1 := by
  induction names generalizing tree place with
  | nil => exact GrowsAlong.refl tree _
  | cons name names ih =>
    rw [makeDirectories_cons, onWay]
    split
    · exact ih tree place.dropLast
    · split
      · exact GrowsAlong.refl tree _
      · have hstep := tree.makeDirectory_growsAlong disk (place ++ [name]) names.isEmpty
          (List.mem_cons_self (l := onWay (place ++ [name]) names))
        split
        · exact hstep
        · exact hstep.trans ((ih _ (place ++ [name])).mono (List.subset_cons_self _ _))

/-- If making directories succeeds, there is one at every place on the way, and no name is too
long. -/
theorem makeDirectories_eq_none {tree : FileTree} {place : Place} {names : List String}
    (h : (tree.makeDirectories disk place names).2 = none) :
    (∀ passed ∈ onWay place names,
        (tree.makeDirectories disk place names).1.get? passed = some .directory) ∧
      ∀ name ∈ names, name ≠ ".." → ¬ isTooLong name := by
  induction names generalizing tree place with
  | nil => simp [onWay]
  | cons name names ih =>
    rw [makeDirectories_cons] at h ⊢
    rw [onWay, List.forall_mem_cons]
    split at h
    · next hup =>
      obtain ⟨hpassed, hshort⟩ := ih h
      rw [if_pos hup, if_pos hup]
      exact ⟨hpassed, fun hne => absurd hup hne, hshort⟩
    · next hdown =>
      rw [if_neg hdown, if_neg hdown]
      split at h
      · contradiction
      · next hlength =>
        rw [if_neg hlength]
        cases hmade : (tree.makeDirectory disk (place ++ [name]) names.isEmpty).2 with
        | some fault =>
          rw [hmade] at h
          contradiction
        | none =>
          rw [hmade] at h
          obtain ⟨hpassed, hshort⟩ := ih h
          rw [List.forall_mem_cons]
          refine ⟨⟨?_, hpassed⟩, fun _ => hlength, hshort⟩
          exact (makeDirectories_growsAlong disk _ _ names _).directory (get?_makeDirectory hmade)

/-- Making a directory with its parents adds directories on the way, whether it succeeds or not. -/
theorem createDirectories_growsAlong (tree : FileTree) (path : Path) :
    tree.GrowsAlong (onWay [] path.parts) (tree.createDirectories path disk).1 := by
  unfold createDirectories
  split
  · exact GrowsAlong.refl tree _
  · exact tree.makeDirectories_growsAlong disk [] path.parts

variable {disk}

/-- If making a directory with its parents succeeds, there is one at every place on the way, no name
is too long, and the text of the path is in order. -/
theorem createDirectories_eq_none {tree made : FileTree} {path : Path}
    (h : tree.createDirectories path disk = (made, none)) :
    (∀ passed ∈ onWay [] path.parts, made.get? passed = some .directory) ∧
      (∀ name ∈ path.parts, name ≠ ".." → ¬ isTooLong name) ∧ textFault? path = none := by
  unfold createDirectories at h
  split at h
  · simp at h
  · next hfine =>
    obtain ⟨hpassed, hshort⟩ := makeDirectories_eq_none disk (congrArg Prod.snd h)
    rw [h] at hpassed
    exact ⟨hpassed, hshort, hfine⟩

end

/-- A walk ends at the same place in a tree that has all the directories and maybe more. -/
theorem walk_eq_ok_of_directories {tree other : FileTree}
    (hdirectories : ∀ place, tree.get? place = some .directory → other.get? place = some .directory)
    {place target : Place} {names : List String} (h : tree.walk place names = .ok target) :
    other.walk place names = .ok target := by
  fun_induction tree.walk place names with
  | case1 place => exact h
  | case2 place name rest hnone => contradiction
  | case3 place name rest content executable hfile => contradiction
  | case4 place name rest hdirectory hstay ih =>
    rw [walk, hdirectories place hdirectory]
    simp only [if_pos hstay]
    exact ih h
  | case5 place rest hdirectory hstay ih =>
    rw [walk, hdirectories place hdirectory]
    simp only [if_neg hstay, if_true]
    exact ih h
  | case6 place name rest hdirectory hstay hup hlong => contradiction
  | case7 place name rest hdirectory hstay hup hlength ih =>
    rw [walk, hdirectories place hdirectory]
    simp only [if_neg hstay, if_neg hup, if_neg hlength]
    exact ih h

/-- A path leads to the same place in a tree that has all the directories and maybe more. -/
theorem locate_eq_ok_of_directories {tree other : FileTree}
    (hdirectories : ∀ place, tree.get? place = some .directory → other.get? place = some .directory)
    {path : Path} {target : Place} (h : tree.locate path = .ok target) :
    other.locate path = .ok target := by
  unfold locate at h ⊢
  split at h
  · contradiction
  · exact walk_eq_ok_of_directories hdirectories h

/-- A walk may be interrupted. -/
theorem walk_append (tree : FileTree) (place : Place) (first second : List String) :
    tree.walk place (first ++ second) =
      (tree.walk place first).bind fun middle => tree.walk middle second := by
  induction first generalizing place with
  | nil => rfl
  | cons name first ih =>
    rw [List.cons_append, walk, walk]
    split
    · rfl
    · rfl
    · split
      · exact ih place
      · split
        · exact ih place.dropLast
        · split
          · rfl
          · exact ih (place ++ [name])

/-- A walk goes all the way if there is a directory at the beginning, above it, and at every place
that it passes. -/
theorem walk_eq_wayEnd {tree : FileTree} {place : Place} {names : List String}
    (habove : ∀ above, above <+: place → tree.get? above = some .directory)
    (hpassed : ∀ passed ∈ onWay place (names.filter Path.isNamed),
      tree.get? passed = some .directory)
    (hshort : ∀ name ∈ names.filter Path.isNamed, name ≠ ".." → ¬ isTooLong name) :
    tree.walk place names = .ok (wayEnd place (names.filter Path.isNamed)) := by
  induction names generalizing place with
  | nil => rfl
  | cons name names ih =>
    rw [walk, habove place (List.prefix_refl place)]
    dsimp only
    by_cases hnamed : Path.isNamed name
    · have hstay : ¬ (name = "" ∨ name = ".") := by simpa [Path.isNamed] using hnamed
      rw [List.filter_cons_of_pos hnamed] at hpassed hshort ⊢
      rw [List.forall_mem_cons] at hshort
      rw [onWay] at hpassed
      rw [if_neg hstay, wayEnd]
      split
      · next hup =>
        rw [if_pos hup] at hpassed
        exact ih (fun above h => habove above (h.trans (List.dropLast_prefix place))) hpassed
          hshort.2
      · next hdown =>
        rw [if_neg hdown, List.forall_mem_cons] at hpassed
        rw [if_neg (hshort.1 hdown)]
        refine ih (fun above h => ?_) hpassed.2 hshort.2
        rcases List.prefix_concat_iff.mp h with rfl | h
        · exact hpassed.1
        · exact habove above h
    · have hstay : name = "" ∨ name = "." := by
        simpa [Path.isNamed, or_iff_not_imp_left] using hnamed
      rw [List.filter_cons_of_neg hnamed] at hpassed hshort ⊢
      rw [if_pos hstay]
      exact ih habove hpassed hshort

/-- A walk that ends somewhere ends where the way along the names does. -/
theorem walk_eq_ok {tree : FileTree} {place target : Place} {names : List String}
    (h : tree.walk place names = .ok target) :
    target = wayEnd place (names.filter Path.isNamed) := by
  fun_induction tree.walk place names with
  | case1 place => exact (Except.ok.inj h).symm
  | case2 place name rest hnone => contradiction
  | case3 place name rest content executable hfile => contradiction
  | case4 place name rest hdirectory hstay ih =>
    have hunnamed : ¬ Path.isNamed name := by
      simpa [Path.isNamed, or_iff_not_imp_left] using hstay
    rw [List.filter_cons_of_neg hunnamed]
    exact ih h
  | case5 place rest hdirectory hstay ih =>
    rw [List.filter_cons_of_pos (by decide), wayEnd, if_pos rfl]
    exact ih h
  | case6 place name rest hdirectory hstay hup hlong => contradiction
  | case7 place name rest hdirectory hstay hup hlength ih =>
    have hnamed : Path.isNamed name := by
      simpa [Path.isNamed] using hstay
    rw [List.filter_cons_of_pos hnamed, wayEnd, if_neg hup]
    exact ih h

/-- A path that leads somewhere leads to the end of its way. -/
theorem locate_eq_ok {tree : FileTree} {path : Path} {target : Place}
    (h : tree.locate path = .ok target) : target = wayEnd [] path.parts := by
  unfold locate at h
  split at h
  · contradiction
  · exact walk_eq_ok h

end NativeBindings.FileTree
