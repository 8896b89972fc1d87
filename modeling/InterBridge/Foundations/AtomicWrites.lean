import Mathlib.Data.List.Infix
import Mathlib.Tactic.Common

namespace Foundations
set_option autoImplicit true

/-- A write to a durable map, which happens whole or not at all. -/
inductive AtomicWrite (κ α : Type) where
  | put (key : κ) (value : α)
  | erase (key : κ)

def AtomicWrite.key : AtomicWrite κ α → κ
  | .put key _ => key
  | .erase key => key

variable [DecidableEq κ]

def AtomicWrite.apply (map : κ → Option α) : AtomicWrite κ α → κ → Option α
  | .put key value => fun k => if k = key then some value else map k
  | .erase key => fun k => if k = key then none else map k

/-- The map after a list of writes; when power is lost it is the map after one of its prefixes. -/
def applyWrites (map : κ → Option α) (writes : List (AtomicWrite κ α)) : κ → Option α :=
  writes.foldl AtomicWrite.apply map

theorem applyWrites_cons (map : κ → Option α) (write : AtomicWrite κ α)
    (writes : List (AtomicWrite κ α)) :
    applyWrites map (write :: writes) = applyWrites (write.apply map) writes := rfl

theorem AtomicWrite.apply_of_ne (map : κ → Option α) {write : AtomicWrite κ α}
    (h : k ≠ write.key) : write.apply map k = map k := by
  cases write with
  | put key value => exact if_neg h
  | erase key => exact if_neg h

theorem applyWrites_of_forall_ne (map : κ → Option α) {writes : List (AtomicWrite κ α)}
    (h : ∀ write ∈ writes, k ≠ write.key) : applyWrites map writes k = map k := by
  induction writes generalizing map with
  | nil => rfl
  | cons write writes ih =>
    rw [List.forall_mem_cons] at h
    rw [applyWrites_cons, ih _ h.2]
    exact write.apply_of_ne map h.1

theorem applyWrites_of_cut (map : κ → Option α) {writes : List (AtomicWrite κ α)}
    (hcut : written <+: writes) (h : ∀ write ∈ writes, k ≠ write.key) :
    applyWrites map written k = map k := by
  apply applyWrites_of_forall_ne
  intro write hwrite
  exact h write (hcut.subset hwrite)

/-- The cuts of a list of writes, in the order they can happen. -/
theorem pairwise_inits {writes : List α} {r : List α → List α → Prop}
    (h : ∀ written written', written <+: written' → written' <+: writes → r written written') :
    writes.inits.Pairwise r := by
  induction writes generalizing r with
  | nil => exact List.pairwise_singleton r []
  | cons write writes ih =>
    rw [List.inits, List.pairwise_cons, List.pairwise_map]
    constructor
    · intro written hwritten
      obtain ⟨written, hcut, rfl⟩ := List.mem_map.mp hwritten
      rw [List.mem_inits] at hcut
      exact h [] _ List.nil_prefix (List.cons_prefix_cons.mpr ⟨rfl, hcut⟩)
    · apply ih
      intro written written' hle hcut
      exact h _ _ (List.cons_prefix_cons.mpr ⟨rfl, hle⟩) (List.cons_prefix_cons.mpr ⟨rfl, hcut⟩)

end Foundations
