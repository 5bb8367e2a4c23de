import Mathlib.Data.List.Forall2
import Mathlib.Data.List.Pairwise
import Mathlib.Order.Lattice

/-!
# Lists

Facts about lists that hold whatever their items are: what related lists share, where a text may be
cut, and what the order of a list by keys says about it.
-/

namespace NativeBindings

variable {α β γ : Type}

/-! ### Items and their places -/

/-- What stands at one place of related lists is related. -/
theorem exists_mem_of_forall₂ {R : α → β → Prop} {items : List α} {results : List β}
    (h : List.Forall₂ R items results) {result : β} (hresult : result ∈ results) :
    ∃ item ∈ items, R item result := by
  induction h with
  | nil => simp at hresult
  | cons hhead _ ih =>
    rcases List.mem_cons.mp hresult with rfl | hresult
    · exact ⟨_, List.mem_cons_self, hhead⟩
    · obtain ⟨item, hitem, hrelated⟩ := ih hresult
      exact ⟨item, List.mem_cons_of_mem _ hitem, hrelated⟩

/-- Two items of a list whose results always have one name leave that name twice. -/
theorem not_nodup_of_forall₂ {R : α → β → Prop} {name : β → γ} {items : List α}
    {results : List β} (hrelated : List.Forall₂ R items results) {a b : α} (ha : a ∈ items)
    (hb : b ∈ items) (hab : a ≠ b) (hname : ∀ r s, R a r → R b s → name r = name s) :
    ¬ (results.map name).Nodup := by
  induction hrelated with
  | nil => simp at ha
  | cons hhead htail ih =>
    rw [List.map_cons, List.nodup_cons]
    intro hparts
    obtain ⟨hfirst, hrest⟩ := hparts
    rcases List.mem_cons.mp ha with rfl | hatail
    · rcases List.mem_cons.mp hb with rfl | hbtail
      · exact hab rfl
      · obtain ⟨s, hs, hbs⟩ := exists_mem_of_forall₂ htail.flip hbtail
        exact hfirst (List.mem_map.mpr ⟨s, hs, (hname _ _ hhead hbs).symm⟩)
    · rcases List.mem_cons.mp hb with rfl | hbtail
      · obtain ⟨r, hr, har⟩ := exists_mem_of_forall₂ htail.flip hatail
        exact hfirst (List.mem_map.mpr ⟨r, hr, hname _ _ har hhead⟩)
      · exact ih hatail hbtail hrest

/-- Several items of a list have a property that one of them has if another one has it as well. -/
theorem one_lt_countP_iff {p : α → Bool} {items : List α} {position : Nat} {item : α}
    (hitem : items[position]? = some item) (hp : p item) :
    1 < items.countP p ↔
      ∃ other index, items[index]? = some other ∧ p other ∧ index ≠ position := by
  induction items generalizing position with
  | nil => simp at hitem
  | cons first items ih =>
    cases position with
    | zero =>
      obtain rfl : first = item := by simpa using hitem
      rw [List.countP_cons_of_pos hp, Nat.lt_add_left_iff_pos, List.countP_pos_iff]
      constructor
      · intro hparts
        obtain ⟨other, hother, hpother⟩ := hparts
        obtain ⟨index, hindex⟩ := List.mem_iff_getElem?.mp hother
        exact ⟨other, index + 1, by simpa using hindex, hpother, Nat.succ_ne_zero index⟩
      · intro hparts
        obtain ⟨other, index, hindex, hpother, hne⟩ := hparts
        obtain ⟨index, rfl⟩ := Nat.exists_eq_succ_of_ne_zero hne
        exact ⟨other, List.mem_of_getElem? (by simpa using hindex), hpother⟩
    | succ position =>
      have hitem : items[position]? = some item := by simpa using hitem
      by_cases hfirst : p first
      · have hrest : 0 < items.countP p :=
          List.countP_pos_iff.mpr ⟨item, List.mem_of_getElem? hitem, hp⟩
        rw [List.countP_cons_of_pos hfirst]
        exact iff_of_true (Nat.succ_lt_succ hrest)
          ⟨first, 0, rfl, hfirst, (Nat.succ_ne_zero _).symm⟩
      · rw [List.countP_cons_of_neg hfirst, ih hitem]
        constructor
        · intro hparts
          obtain ⟨other, index, hindex, hpother, hne⟩ := hparts
          exact ⟨other, index + 1, by simpa using hindex, hpother, by simpa using hne⟩
        · intro hparts
          obtain ⟨other, index, hindex, hpother, hne⟩ := hparts
          cases index with
          | zero =>
            obtain rfl : first = other := by simpa using hindex
            contradiction
          | succ index => exact ⟨other, index, by simpa using hindex, hpother, by simpa using hne⟩

/-! ### Cutting at a mark -/

/-- A condition on what follows a mark holds in a text without it. -/
theorem isChain_of_notMem {P : α → Prop} {mark : α} {items : List α} (h : mark ∉ items) :
    items.IsChain fun a b => a = mark → P b := by
  refine List.Pairwise.isChain (List.pairwise_of_forall_mem_list ?_)
  intro a ha b _ heq
  rw [heq] at ha
  contradiction

/-- The last mark of a text divides it in one way only. -/
theorem append_cons_inj_of_notMem_right {front front' back back' : List α} {mark : α}
    (hback : mark ∉ back) (hback' : mark ∉ back')
    (h : front ++ mark :: back = front' ++ mark :: back') : front = front' ∧ back = back' := by
  rcases List.append_eq_append_iff.mp h with ⟨middle, rfl, hmiddle⟩ | ⟨middle, rfl, hmiddle⟩
  · cases middle with
    | nil => simpa using hmiddle
    | cons c middle =>
      obtain ⟨-, rfl⟩ := List.cons.inj hmiddle
      simp at hback
  · cases middle with
    | nil => simpa [eq_comm] using hmiddle
    | cons c middle =>
      obtain ⟨-, rfl⟩ := List.cons.inj hmiddle
      simp at hback'

section

variable [DecidableEq α]

/-- A text is cut in front of the first of its marks. -/
theorem takeWhile_ne_append {mark : α} {items : List α} (h : mark ∉ items) (rest : List α) :
    (items ++ mark :: rest).takeWhile (· ≠ mark) = items := by
  have hplain : ∀ item ∈ items, decide (item ≠ mark) :=
    fun item hitem => decide_eq_true (ne_of_mem_of_not_mem hitem h)
  rw [List.takeWhile_append_of_pos hplain, List.takeWhile_cons_of_neg (by simp), List.append_nil]

/-- The mark is in none of the pieces that it separates. -/
theorem notMem_of_mem_splitOn {mark : α} {items piece : List α} (h : piece ∈ items.splitOn mark) :
    mark ∉ piece := by
  induction items generalizing piece with
  | nil => simp_all
  | cons item items ih =>
    rw [List.splitOn_cons_eq_if_modifyHead] at h
    split at h
    · rcases List.mem_cons.mp h with rfl | h
      · exact List.not_mem_nil
      · exact ih h
    · next hitem =>
      obtain ⟨first, rest, hsplit⟩ := List.exists_cons_of_ne_nil (List.splitOn_ne_nil mark items)
      rw [hsplit, List.modifyHead_cons] at h
      rcases List.mem_cons.mp h with rfl | h
      · have hfirst : mark ∉ first := ih (by rw [hsplit]; exact List.mem_cons_self)
        rw [List.mem_cons, not_or]
        exact ⟨fun heq => hitem (beq_iff_eq.mpr heq.symm), hfirst⟩
      · exact ih (by rw [hsplit]; exact List.mem_cons_of_mem first h)

/-- What stands at the end is dropped. -/
theorem dropSuffix?_append (front rest : List α) : (front ++ rest).dropSuffix? rest = some front :=
  List.dropSuffix?_eq_some_iff.mpr ⟨rest, rfl, beq_self_eq_true rest⟩

/-- A text is cut at the first mark. -/
theorem dropInfix?_append {before : List α} {first : α} (h : first ∉ before)
    (mark after : List α) :
    (before ++ (first :: mark ++ after)).dropInfix? (first :: mark) = some (before, after) := by
  rw [List.dropInfix?_eq_some_iff]
  refine ⟨⟨first :: mark, (List.append_assoc _ _ _).symm, beq_self_eq_true _⟩, ?_⟩
  intro before' mark' after' heq hmark
  obtain rfl := eq_of_beq hmark
  -- An earlier mark would begin within the text before.
  by_contra hshort
  have hat := congrArg (·[before'.length]?) heq
  rw [List.append_assoc] at hat
  simp only [List.getElem?_append_left (Nat.lt_of_not_le hshort), List.getElem?_append_right le_rfl,
    Nat.sub_self, List.cons_append, List.getElem?_cons_zero] at hat
  exact h (List.mem_of_getElem? hat)

end

/-! ### The order by keys -/

/-- Of blocks in the order of their keys, the first item is that of the first block with any. -/
theorem head?_flatMap_eq_some_iff [Preorder γ] {key : α → γ} {block : α → List β} {items : List α}
    (hsorted : items.Pairwise (key · < key ·)) {first : β} :
    (items.flatMap block).head? = some first ↔
      ∃ item ∈ items, (∀ other ∈ items, block other ≠ [] → key item ≤ key other) ∧
        (block item).head? = some first := by
  induction items with
  | nil => simp
  | cons item items ih =>
    obtain ⟨hhead, htail⟩ := List.pairwise_cons.mp hsorted
    rw [List.flatMap_cons, List.head?_append, Option.or_eq_some_iff, ih htail,
      List.head?_eq_none_iff]
    constructor
    · rintro (hfirst | ⟨hempty, other, hother, hleast, hfirst⟩)
      · refine ⟨item, List.mem_cons_self, ?_, hfirst⟩
        rintro other (_ | ⟨_, hother⟩) -
        · exact le_refl _
        · exact le_of_lt (hhead other hother)
      · refine ⟨other, List.mem_cons_of_mem item hother, ?_, hfirst⟩
        rintro another (_ | ⟨_, hanother⟩) hblock
        · contradiction
        · exact hleast another hanother hblock
    · rintro ⟨other, _ | ⟨_, hother⟩, hleast, hfirst⟩
      · exact Or.inl hfirst
      · -- A block before this one would have the lesser key.
        have hempty : block item = [] := by
          by_contra hblock
          exact absurd (hleast item List.mem_cons_self hblock) (not_le_of_gt (hhead other hother))
        refine Or.inr ⟨hempty, other, hother, ?_, hfirst⟩
        exact fun another hanother => hleast another (List.mem_cons_of_mem item hanother)

section

variable {α κ : Type} [LinearOrder κ] {key : α → κ} {items items' : List α}

/-- Every item stands under its key. -/
theorem mem_of_filter_eq (h : ∀ k, items.filter (key · = k) = items'.filter (key · = k)) {a : α}
    (ha : a ∈ items) : a ∈ items' := by
  have hmem : a ∈ items.filter (key · = key a) := by simpa using ha
  rw [h] at hmem
  exact List.mem_of_mem_filter hmem

/-- A sorted list begins with a least key. -/
theorem key_head_le {a b : α} (hitems : (a :: items).Pairwise (key · ≤ key ·))
    (hb : b ∈ a :: items) : key a ≤ key b := by
  rcases List.mem_cons.mp hb with rfl | hb
  · exact le_rfl
  · exact List.rel_of_pairwise_cons hitems hb

/-- Two sorted lists that hold the same items in the same order under each key are equal. -/
theorem eq_of_pairwise_of_filter_eq (hitems : items.Pairwise (key · ≤ key ·))
    (hitems' : items'.Pairwise (key · ≤ key ·))
    (h : ∀ k, items.filter (key · = k) = items'.filter (key · = k)) : items = items' := by
  induction items generalizing items' with
  | nil =>
    refine (List.eq_nil_iff_forall_not_mem.mpr fun a ha => ?_).symm
    exact List.not_mem_nil (mem_of_filter_eq (fun k => (h k).symm) ha)
  | cons a rest ih =>
    cases items' with
    | nil => exact absurd (mem_of_filter_eq h List.mem_cons_self) List.not_mem_nil
    | cons b rest' =>
      -- Both begin with the least of the same keys, and the first item under a key is the same.
      have hle := key_head_le hitems (mem_of_filter_eq (fun k => (h k).symm) List.mem_cons_self)
      have hge := key_head_le hitems' (mem_of_filter_eq h List.mem_cons_self)
      have hkey : key b = key a := le_antisymm hge hle
      have hheads := h (key a)
      simp only [List.filter_cons, hkey, decide_true, if_true, List.cons.injEq] at hheads
      obtain ⟨rfl, -⟩ := hheads
      have htails : ∀ k, rest.filter (key · = k) = rest'.filter (key · = k) := by
        intro k
        have hk := h k
        rw [List.filter_cons, List.filter_cons] at hk
        split at hk
        · exact (List.cons.inj hk).2
        · exact hk
      rw [ih hitems.of_cons hitems'.of_cons htails]

end

end NativeBindings
