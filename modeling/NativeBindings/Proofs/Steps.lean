import Mathlib.Data.List.Forall2

/-!
# Steps that may fail

When a chain of steps succeeds, and with what, which of several faults it stops at, and when two
chains end alike. The theorems about resolving, rendering and documents go through these, so that no
proof opens a chain by hand.
-/

namespace NativeBindings

/-- A step that relabels its failure succeeds as before. -/
theorem mapError_eq_ok_iff {ε ε' α : Type} {f : ε → ε'} {step : Except ε α} {result : α} :
    step.mapError f = .ok result ↔ step = .ok result := by
  cases step with
  | error fault =>
    constructor
    · intro h
      cases h
    · intro h
      cases h
  | ok value =>
    change (Except.ok value : Except ε' α) = .ok result ↔ _
    rw [Except.ok.injEq, Except.ok.injEq]

/-- A step whose result is put to use succeeds as before. -/
theorem map_eq_ok_iff {ε α β : Type} {f : α → β} {step : Except ε α} {result : β} :
    step.map f = .ok result ↔ ∃ value, step = .ok value ∧ f value = result := by
  cases step <;> simp [Except.map]

/-- A chain of two steps succeeds if both do. -/
theorem bind_eq_ok_iff {ε α β : Type} {step : Except ε α} {next : α → Except ε β} {result : β} :
    step >>= next = .ok result ↔ ∃ value, step = .ok value ∧ next value = .ok result := by
  cases step <;> simp [bind, Except.bind]

/-- A step taken for every item of a list succeeds if it does for each. -/
theorem mapM_eq_ok_iff {ε α β : Type} {step : α → Except ε β} {items : List α}
    {results : List β} :
    items.mapM step = .ok results ↔
      List.Forall₂ (fun item result => step item = .ok result) items results := by
  induction items generalizing results with
  | nil => cases results <;> simp [pure, Except.pure]
  | cons item items ih =>
    rw [List.mapM_cons]
    constructor
    · intro h
      obtain ⟨value, hvalue, h⟩ := bind_eq_ok_iff.mp h
      obtain ⟨values, hvalues, h⟩ := bind_eq_ok_iff.mp h
      obtain rfl := Except.ok.inj h
      exact List.Forall₂.cons hvalue (ih.mp hvalues)
    · intro hparts
      obtain _ | ⟨hvalue, hvalues⟩ := hparts
      exact bind_eq_ok_iff.mpr ⟨_, hvalue, bind_eq_ok_iff.mpr ⟨_, ih.mpr hvalues, rfl⟩⟩

/-- A step that relabels its failure fails where the step itself does. -/
theorem mapError_eq_error_iff {ε ε' α : Type} {f : ε → ε'} {step : Except ε α} {failure : ε'} :
    step.mapError f = .error failure ↔ ∃ cause, step = .error cause ∧ f cause = failure := by
  cases step <;> simp [Except.mapError]

/-- A chain of two steps fails if the first one does, or else the second. -/
theorem bind_eq_error_iff {ε α β : Type} {step : Except ε α} {next : α → Except ε β}
    {failure : ε} :
    step >>= next = .error failure ↔
      step = .error failure ∨ ∃ value, step = .ok value ∧ next value = .error failure := by
  cases step <;> simp [bind, Except.bind]

/-- A step taken for every item of a list fails as it does for one of them. -/
theorem exists_mem_of_mapM_eq_error {ε α β : Type} {step : α → Except ε β} {items : List α}
    {failure : ε} (h : items.mapM step = .error failure) :
    ∃ item ∈ items, step item = .error failure := by
  induction items with
  | nil => simp [pure, Except.pure] at h
  | cons item items ih =>
    rw [List.mapM_cons] at h
    rcases bind_eq_error_iff.mp h with hhead | ⟨value, -, h⟩
    · exact ⟨item, List.mem_cons_self, hhead⟩
    · rcases bind_eq_error_iff.mp h with htail | ⟨values, -, h⟩
      · obtain ⟨other, hother, hstep⟩ := ih htail
        exact ⟨other, List.mem_cons_of_mem item hother, hstep⟩
      · simp [pure, Except.pure] at h

/-- The fault of a check, unless it holds. -/
def faultUnless {ε : Type} (check : Prop) [Decidable check] (fault : ε) : List ε :=
  if check then [] else [fault]

/-- A check has no fault exactly if it holds. -/
@[simp] theorem faultUnless_eq_nil_iff {ε : Type} {check : Prop} [Decidable check] {fault : ε} :
    faultUnless check fault = [] ↔ check := by
  unfold faultUnless
  split <;> simp [*]

/-- A step stops at the first of the faults, and succeeds if there are none. -/
def StopsAt {ε α : Type} (step : Except ε α) (faults : List ε) : Prop :=
  ∀ fault, step = .error fault ↔ faults.head? = some fault

namespace StopsAt

variable {ε ε' α β : Type} {step : Except ε α} {faults : List ε}

/-- A result is no fault. -/
theorem ok (value : α) : StopsAt (.ok value : Except ε α) [] := by
  intro fault
  simp

/-- A fault is the first one, whatever else is wrong. -/
theorem error (fault : ε) (rest : List ε) :
    StopsAt (.error fault : Except ε α) (fault :: rest) := by
  intro other
  simp

/-- A result stands for a check that holds. -/
theorem of_check {check : Prop} [Decidable check] (h : check) (value : α) (fault : ε) :
    StopsAt (.ok value : Except ε α) (faultUnless check fault) := by
  rw [faultUnless_eq_nil_iff.mpr h]
  exact ok value

/-- A fault stands for a check that does not hold. -/
theorem of_not_check {check : Prop} [Decidable check] (h : ¬ check) (fault : ε) :
    StopsAt (.error fault : Except ε α) (faultUnless check fault) := by
  rw [faultUnless, if_neg h]
  exact error fault []

/-- A step succeeds exactly if nothing is wrong. -/
theorem exists_ok_iff (h : StopsAt step faults) : (∃ value, step = .ok value) ↔ faults = [] := by
  cases step with
  | ok value =>
    refine iff_of_true ⟨value, rfl⟩ (List.head?_eq_none_iff.mp ?_)
    rw [Option.eq_none_iff_forall_ne_some]
    intro fault hfault
    cases (h fault).mpr hfault
  | error fault =>
    refine iff_of_false (by simp) ?_
    rintro rfl
    cases (h fault).mp rfl

/-- A step that relabels its failure stops at the same fault, relabelled. -/
theorem mapError {f : ε → ε'} (h : StopsAt step faults) :
    StopsAt (step.mapError f) (faults.map f) := by
  intro fault
  rw [mapError_eq_error_iff, List.head?_map, Option.map_eq_some_iff]
  simp only [h _]

/-- A chain of two steps stops at the faults of the first, or else at those of the second. -/
theorem bind {next : α → Except ε β} {faults' : List ε} (h : StopsAt step faults)
    (hnext : ∀ value, StopsAt (next value) faults') :
    StopsAt (step >>= next) (faults ++ faults') := by
  intro fault
  rw [bind_eq_error_iff, h fault, List.head?_append, Option.or_eq_some_iff,
    List.head?_eq_none_iff, ← h.exists_ok_iff]
  simp only [hnext _ fault, exists_and_right]

/-- What is made of the result of a step brings in no fault. -/
theorem bind_ok {f : α → β} (h : StopsAt step faults) :
    StopsAt (step >>= fun value => .ok (f value)) faults := by
  rw [← List.append_nil faults]
  exact h.bind fun value => ok (f value)

/-- A step taken for every item of a list stops at the first fault of an item. -/
theorem mapM {step : α → Except ε β} {faults : α → List ε} {items : List α}
    (h : ∀ item ∈ items, StopsAt (step item) (faults item)) :
    StopsAt (items.mapM step) (items.flatMap faults) := by
  induction items with
  | nil => exact ok []
  | cons item items ih =>
    obtain ⟨hhead, htail⟩ := List.forall_mem_cons.mp h
    rw [List.mapM_cons, List.flatMap_cons]
    exact hhead.bind fun value => (ih htail).bind_ok

end StopsAt

/-- Two runs end alike: both succeed with related results, or both fail in one way. -/
inductive SameOutcome {ε α β : Type} (R : α → β → Prop) : Except ε α → Except ε β → Prop
  | ok {first : α} {second : β} (h : R first second) : SameOutcome R (.ok first) (.ok second)
  | error (failure : ε) : SameOutcome R (.error failure) (.error failure)

namespace SameOutcome

variable {ε ε' α α' β β' : Type} {R : α → α' → Prop} {S : β → β' → Prop}

/-- One step taken twice ends alike. -/
theorem refl (step : Except ε α) : SameOutcome (· = ·) step step := by
  cases step with
  | error failure => exact .error failure
  | ok value => exact .ok rfl

/-- Both runs fail in one way, or both succeed. -/
theorem cases {step : Except ε α} {step' : Except ε α'} (h : SameOutcome R step step') :
    (∃ failure, step = .error failure ∧ step' = .error failure) ∨
      ∃ first second, step = .ok first ∧ step' = .ok second ∧ R first second := by
  cases h with
  | error failure => exact Or.inl ⟨failure, rfl, rfl⟩
  | ok h => exact Or.inr ⟨_, _, rfl, rfl, h⟩

/-- Two runs that end alike with equal results have one outcome. -/
theorem eq {step step' : Except ε α} (h : SameOutcome (· = ·) step step') : step = step' := by
  cases h with
  | error failure => rfl
  | ok h => rw [h]

/-- Steps that end alike still do so with their failures relabelled. -/
theorem mapError {f : ε → ε'} {step : Except ε α} {step' : Except ε α'}
    (h : SameOutcome R step step') : SameOutcome R (step.mapError f) (step'.mapError f) := by
  cases h with
  | error failure => exact .error (f failure)
  | ok h => exact .ok h

/-- Chains end alike if their first steps do, and what follows does from related results. -/
theorem bind {step : Except ε α} {step' : Except ε α'} {next : α → Except ε β}
    {next' : α' → Except ε β'} (h : SameOutcome R step step')
    (hnext : ∀ a a', R a a' → SameOutcome S (next a) (next' a')) :
    SameOutcome S (step >>= next) (step' >>= next') := by
  cases h with
  | error failure => exact .error failure
  | ok h => exact hnext _ _ h

/-- Steps taken for the items of two lists end alike if they do at each place. -/
theorem mapM {step : α → Except ε β} {step' : α' → Except ε β'} {items : List α}
    {items' : List α'} (hitems : List.Forall₂ R items items')
    (hstep : ∀ a a', R a a' → SameOutcome S (step a) (step' a')) :
    SameOutcome (List.Forall₂ S) (items.mapM step) (items'.mapM step') := by
  induction hitems with
  | nil => exact .ok .nil
  | cons hhead _ ih =>
    rw [List.mapM_cons, List.mapM_cons]
    refine bind (hstep _ _ hhead) fun b b' hb => ?_
    exact bind ih fun bs bs' hbs => .ok (.cons hb hbs)

end SameOutcome

section

variable {α β γ : Type}

/-- Chains are alike if their first steps give related results, and what follows is alike. -/
theorem bind_eq_of_rel {R : α → β → Prop} {step : Option α} {step' : Option β}
    {next : α → Option γ} {next' : β → Option γ} (h : Option.Rel R step step')
    (hnext : ∀ a b, R a b → next a = next' b) : step >>= next = step' >>= next' := by
  cases h with
  | some h => exact hnext _ _ h
  | none => rfl

/-- Steps that are alike for each item of a list are alike when taken for all of them. -/
theorem mapM_eq_of_forall_mem {step step' : α → Option β} {items : List α}
    (h : ∀ item ∈ items, step item = step' item) : items.mapM step = items.mapM step' := by
  induction items with
  | nil => rfl
  | cons item items ih =>
    obtain ⟨hitem, hitems⟩ := List.forall_mem_cons.mp h
    rw [List.mapM_cons, List.mapM_cons, hitem, ih hitems]

/-- A step taken for every item of a list gives a result for each, which stands at its place. -/
theorem exists_getElem?_of_mapM {step : α → Option β} {items : List α}
    {results : List β} (h : items.mapM step = some results) {i : Nat} {item : α}
    (hitem : items[i]? = some item) :
    ∃ result, step item = some result ∧ results[i]? = some result := by
  induction items generalizing results i with
  | nil => simp at hitem
  | cons other items ih =>
    rw [List.mapM_cons] at h
    obtain ⟨result, hresult, h⟩ := Option.bind_eq_some_iff.mp h
    obtain ⟨rest, hrest, h⟩ := Option.bind_eq_some_iff.mp h
    obtain rfl := Option.some.inj h
    cases i with
    | zero =>
      obtain rfl := Option.some.inj hitem
      exact ⟨result, hresult, rfl⟩
    | succ i => exact ih hrest hitem

end

end NativeBindings
