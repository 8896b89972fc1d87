import Mathlib.Algebra.Group.Int.Defs
import Mathlib.Tactic.Common

namespace Foundations
set_option autoImplicit true

def FitsInt64 (n : Int) : Prop := -2 ^ 63 ≤ n ∧ n < 2 ^ 63

instance (n : Int) : Decidable (FitsInt64 n) := inferInstanceAs (Decidable (_ ∧ _))

/-- How the signed 64-bit additions and subtractions of a program are carried out. -/
structure Int64Ops (m : Type → Type) where
  add : Int64 → Int64 → m Int64
  sub : Int64 → Int64 → m Int64

/-- Two's complement results, as the processor computes them. -/
def Int64Ops.wrapping : Int64Ops Id :=
  ⟨fun a b => a + b, fun a b => a - b⟩

/-- No result where the exact one is out of range, which the language leaves undefined. -/
def Int64Ops.checked : Int64Ops Option :=
  ⟨fun a b => if FitsInt64 (a.toInt + b.toInt) then some (a + b) else none,
    fun a b => if FitsInt64 (a.toInt - b.toInt) then some (a - b) else none⟩

theorem FitsInt64.toInt_add {a b : Int64} (h : FitsInt64 (a.toInt + b.toInt)) :
    (a + b).toInt = a.toInt + b.toInt := by
  rw [Int64.toInt_add]
  obtain ⟨hl, hu⟩ := h
  exact Int.bmod_eq_of_le (by omega) (by omega)

theorem FitsInt64.toInt_sub {a b : Int64} (h : FitsInt64 (a.toInt - b.toInt)) :
    (a - b).toInt = a.toInt - b.toInt := by
  rw [Int64.toInt_sub]
  obtain ⟨hl, hu⟩ := h
  exact Int.bmod_eq_of_le (by omega) (by omega)

end Foundations
