import Mathlib.Data.List.Nodup
import Mathlib.Data.List.Perm.Subperm
import Mathlib.Order.Bounds.Basic

/-!
# Searching numbered candidates

Where a name has to differ from others, candidates are tried by number until one is free. Nothing
bounds the search, but it ends: if the candidates all differ, one of them more than there are names
in use cannot be taken throughout. What it ends with is the candidate with the least free number.
-/

namespace NativeBindings

variable {α β : Type}

/-- The search through the candidates from a number on, which ends at the first one that is not
taken. -/
inductive SearchEnds (candidate : Nat → α) (taken : List α) : Nat → α → Prop
  | free {number : Nat} (hfree : candidate number ∉ taken) :
      SearchEnds candidate taken number (candidate number)
  | next {number : Nat} {result : α} (htaken : candidate number ∈ taken)
      (hend : SearchEnds candidate taken (number + 1) result) :
      SearchEnds candidate taken number result

section

variable {candidate : Nat → α} {taken : List α}

/-- A search ends in one way only. -/
theorem SearchEnds.unique {number : Nat} {result result' : α}
    (h : SearchEnds candidate taken number result)
    (h' : SearchEnds candidate taken number result') : result = result' := by
  induction h with
  | free hfree =>
    cases h' with
    | free => rfl
    | next htaken => contradiction
  | next htaken _ ih =>
    cases h' with
    | free hfree => contradiction
    | next _ hend => exact ih hend

/-- A search ends at a free candidate if all those before it are taken. -/
theorem searchEnds_of_taken {number last : Nat} (hle : number ≤ last)
    (hfree : candidate last ∉ taken)
    (htaken : ∀ k, number ≤ k → k < last → candidate k ∈ taken) :
    SearchEnds candidate taken number (candidate last) := by
  -- The induction is on the candidates that are left to try.
  induction hle using Nat.decreasingInduction with
  | self => exact .free hfree
  | of_succ k hk ih =>
    exact .next (htaken k le_rfl hk) (ih fun j hj => htaken j (Nat.le_of_succ_le hj))

/-- A search from the first candidate on ends with the one that has the least free number. -/
theorem searchEnds_iff {least : Nat} (h : IsLeast {k | candidate k ∉ taken} least) {result : α} :
    SearchEnds candidate taken 0 result ↔ result = candidate least := by
  have hends : SearchEnds candidate taken 0 (candidate least) := by
    refine searchEnds_of_taken (Nat.zero_le least) h.1 fun k _ hk => ?_
    by_contra hfree
    exact Nat.not_le_of_lt hk (h.2 hfree)
  constructor
  · intro hresult
    exact hresult.unique hends
  · rintro rfl
    exact hends

end

/-- Of candidates that all differ, one more than there are taken places cannot all be taken. -/
theorem exists_notMem_of_injective {place : Nat → β} (hplace : Function.Injective place)
    (taken : List β) : ∃ n ≤ taken.length, place n ∉ taken := by
  by_contra hall
  push Not at hall
  have htaken : (List.range (taken.length + 1)).map place ⊆ taken := by
    intro b hb
    obtain ⟨n, hn, rfl⟩ := List.mem_map.mp hb
    exact hall n (Nat.le_of_lt_succ (List.mem_range.mp hn))
  have hlength := ((List.nodup_range.map hplace).subperm htaken).length_le
  rw [List.length_map, List.length_range] at hlength
  omega

/-- One text with different numbers behind it gives different names. -/
theorem append_toString_injective (front : String) :
    Function.Injective fun n : Nat => front ++ toString n := by
  intro i j h
  have hdigits : i.repr.toList = j.repr.toList :=
    congrArg String.toList ((String.append_right_inj front).mp h)
  rw [Nat.toList_repr, Nat.toList_repr] at hdigits
  -- A number is read back from its digits.
  calc
    i = Nat.ofDigitChars 10 (Nat.toDigits 10 i) 0 := Nat.ofDigitChars_ten_toDigits.symm
    _ = Nat.ofDigitChars 10 (Nat.toDigits 10 j) 0 := by rw [hdigits]
    _ = j := Nat.ofDigitChars_ten_toDigits

/-- The first free candidate within a bound is the one with the least free number, if one within the
bound is free at all. -/
theorem find?_candidates (candidate : Nat → α) (free : α → Bool) {bound : Nat}
    (h : ∃ n ≤ bound, free (candidate n)) :
    ∃ n, ((List.range (bound + 1)).map candidate).find? free = some (candidate n) ∧
      IsLeast {k | free (candidate k)} n := by
  obtain ⟨m, hm, hfree⟩ := h
  rw [List.find?_map]
  cases hfound : (List.range (bound + 1)).find? (free ∘ candidate) with
  | none =>
    have htaken := List.find?_eq_none.mp hfound m (List.mem_range.mpr (Nat.lt_succ_of_le hm))
    exact absurd hfree htaken
  | some n =>
    obtain ⟨hn, -, hfirst⟩ := List.find?_range_eq_some.mp hfound
    refine ⟨n, rfl, hn, fun k hk => ?_⟩
    by_contra hlt
    have htaken := hfirst k (Nat.lt_of_not_le hlt)
    rw [Function.comp_apply] at htaken
    simp_all

end NativeBindings
