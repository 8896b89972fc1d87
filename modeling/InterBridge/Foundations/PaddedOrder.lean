import Mathlib.Data.List.GetD
import Mathlib.Data.Nat.Find
import Mathlib.Order.PiLex
import Mathlib.Order.RelClasses

namespace Foundations
set_option autoImplicit true

/-- The list followed by `z` for ever, compared at the first place where two of them differ. -/
def padded (z : α) (l : List α) : Lex (Nat → α) := toLex fun i => l.getD i z

theorem padded_zero (z : α) (l : List α) : padded z l 0 = l.headD z := by
  cases l <;> rfl

theorem padded_succ (z : α) (l : List α) (i : Nat) :
    padded z l (i + 1) = padded z l.tail i := by
  cases l <;> rfl

theorem padded_lt_iff [LT α] {z : α} {l m : List α} : padded z l < padded z m ↔
    l.headD z < m.headD z ∨ l.headD z = m.headD z ∧ padded z l.tail < padded z m.tail := by
  rw [← padded_zero z l, ← padded_zero z m]
  constructor
  · intro h
    obtain ⟨i, hbefore, hlt⟩ := h
    cases i with
    | zero => exact .inl hlt
    | succ i =>
      refine .inr ⟨hbefore 0 i.succ_pos, i, ?_, ?_⟩
      · intro j hj
        rw [← padded_succ, ← padded_succ]
        exact hbefore (j + 1) (Nat.succ_lt_succ hj)
      · rw [← padded_succ, ← padded_succ]
        exact hlt
  · intro h
    rcases h with hlt | ⟨hhead, i, hbefore, hlt⟩
    · exact ⟨0, fun j hj => absurd hj j.not_lt_zero, hlt⟩
    · refine ⟨i + 1, ?_, ?_⟩
      · intro j hj
        cases j with
        | zero => exact hhead
        | succ j =>
          rw [padded_succ, padded_succ]
          exact hbefore j (Nat.lt_of_succ_lt_succ hj)
      · rw [padded_succ, padded_succ]
        exact hlt

theorem padded_lt_drop [Preorder α] {z : α} {l m : List α} {i : Nat}
    (h : ∀ j < i, l.getD j z = m.getD j z) :
    padded z l < padded z m ↔ padded z (l.drop i) < padded z (m.drop i) := by
  induction i generalizing l m with
  | zero => rw [List.drop_zero, List.drop_zero]
  | succ i ih =>
    have hhead : l.headD z = m.headD z := by
      rw [← padded_zero, ← padded_zero]
      exact h 0 i.succ_pos
    have htail : ∀ j < i, l.tail.getD j z = m.tail.getD j z := by
      intro j hj
      have hj' := h (j + 1) (Nat.succ_lt_succ hj)
      change padded z l (j + 1) = padded z m (j + 1) at hj'
      rwa [padded_succ, padded_succ] at hj'
    rw [padded_lt_iff, hhead, ih htail, List.drop_tail, List.drop_tail]
    constructor
    · intro hlt
      rcases hlt with hlt | ⟨_, hlt⟩
      · exact absurd hlt (lt_irrefl _)
      · exact hlt
    · intro hlt
      exact .inr ⟨rfl, hlt⟩

/-- The lists, continued by `z`, differ for the first time at place `i`. -/
structure FirstDifference (z : α) (l m : List α) (i : Nat) : Prop where
  before : ∀ j < i, l.getD j z = m.getD j z
  here : l.getD i z ≠ m.getD i z

theorem padded_eq_or_firstDifference (z : α) (l m : List α) :
    padded z l = padded z m ∨ ∃ i, FirstDifference z l m i := by
  classical
  by_cases h : ∃ i, l.getD i z ≠ m.getD i z
  · refine .inr ⟨Nat.find h, ?_, Nat.find_spec h⟩
    intro j hj
    exact not_not.mp (Nat.find_min h hj)
  · push Not at h
    exact .inl (funext h)

theorem FirstDifference.symm {l m : List α} (h : FirstDifference z l m i) :
    FirstDifference z m l i :=
  ⟨fun j hj => (h.before j hj).symm, h.here.symm⟩

theorem FirstDifference.unique {l m : List α} (hi : FirstDifference z l m i)
    (hj : FirstDifference z l m j) : i = j := by
  rcases Nat.lt_trichotomy i j with hlt | rfl | hlt
  · exact absurd (hj.before i hlt) hi.here
  · rfl
  · exact absurd (hi.before j hlt) hj.here

theorem FirstDifference.map_lt_iff [PartialOrder β] {l m : List α}
    (h : FirstDifference z l m i) (f : α → β) :
    padded (f z) (l.map f) < padded (f z) (m.map f) ↔
      f (l.getD i z) < f (m.getD i z) ∨ f (l.getD i z) = f (m.getD i z) ∧
        padded (f z) ((l.drop (i + 1)).map f) < padded (f z) ((m.drop (i + 1)).map f) := by
  have hbefore : ∀ j < i, (l.map f).getD j (f z) = (m.map f).getD j (f z) := by
    intro j hj
    rw [List.getD_map, List.getD_map, h.before j hj]
  have hhead (k : List α) : ((k.map f).drop i).headD (f z) = f (k.getD i z) := by
    rw [← List.getD_map k z f, List.headD_eq_head?_getD, List.head?_drop,
      List.getD_eq_getElem?_getD]
  have htail (k : List α) : ((k.map f).drop i).tail = (k.drop (i + 1)).map f := by
    rw [List.tail_drop, List.map_drop]
  rw [padded_lt_drop hbefore, padded_lt_iff, hhead, hhead, htail, htail]

theorem FirstDifference.lt_iff [PartialOrder α] {l m : List α} (h : FirstDifference z l m i) :
    padded z l < padded z m ↔ l.getD i z < m.getD i z := by
  have hlt := h.map_lt_iff id
  simp only [List.map_id_fun, id_eq] at hlt
  rw [hlt]
  simp only [h.here, false_and, or_false]

theorem padded_map_lt [LinearOrder α] [Preorder β] {f : α → β} (hf : StrictMono f) {z : α}
    {l m : List α} :
    padded (f z) (l.map f) < padded (f z) (m.map f) ↔ padded z l < padded z m := by
  have hget (l : List α) (i : Nat) : padded (f z) (l.map f) i = f (padded z l i) :=
    List.getD_map l z f
  constructor
  · intro h
    obtain ⟨i, hbefore, hlt⟩ := h
    refine ⟨i, ?_, ?_⟩
    · intro j hj
      have he := hbefore j hj
      rw [hget, hget] at he
      exact hf.injective he
    · rw [hget, hget] at hlt
      exact hf.lt_iff_lt.mp hlt
  · intro h
    obtain ⟨i, hbefore, hlt⟩ := h
    refine ⟨i, ?_, ?_⟩
    · intro j hj
      rw [hget, hget, hbefore j hj]
    · rw [hget, hget]
      exact hf hlt

end Foundations
