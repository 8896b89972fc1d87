import InterBridge.Ota.VersionOrder
import Mathlib.Algebra.Order.Group.Unbundled.Int
import Mathlib.Data.List.TakeWhile

namespace InterBridge
open Foundations
set_option autoImplicit true

/-- A version made of decimal numbers with dots between them. -/
structure DottedDecimal where
  components : List Bytes
  nonempty : components ≠ []
  decimal : ∀ part ∈ components, part ≠ [] ∧ ∀ b ∈ part, FirmwareVersion.isDigit b

namespace DottedDecimal

def text (v : DottedDecimal) : Bytes := [46].intercalate v.components

def numbers (v : DottedDecimal) : List Nat := v.components.map FirmwareVersion.decimalValue

/-- The first number that differs is the greater one, missing numbers being zero. -/
def NumericallyNewer (v w : DottedDecimal) : Prop := padded 0 w.numbers < padded 0 v.numbers

/-- What is left of a number that an `int` need not hold. -/
def readable (n : Nat) : Nat := if n < 2 ^ 31 then n else 0

/-- Where the versions differ for the first time both numbers fit an `int`, or both are read as
zero and what follows is read to be in the order of these two. -/
def ReadInOrder (v w : DottedDecimal) : Prop :=
  ∀ i, FirstDifference 0 v.numbers w.numbers i →
    (v.numbers.getD i 0 < 2 ^ 31 ∧ w.numbers.getD i 0 < 2 ^ 31) ∨
    (readable (v.numbers.getD i 0) = readable (w.numbers.getD i 0) ∧
      (padded 0 ((w.numbers.drop (i + 1)).map readable) <
          padded 0 ((v.numbers.drop (i + 1)).map readable) ↔
        w.numbers.getD i 0 < v.numbers.getD i 0))

end DottedDecimal

theorem delimitedParts_append {delimiter : UInt8} {word : Bytes} (h : delimiter ∉ word)
    (part rest : Bytes) : delimitedParts delimiter part (word ++ rest) =
      delimitedParts delimiter (part ++ word) rest := by
  induction word generalizing part with
  | nil => rw [List.nil_append, List.append_nil]
  | cons b word ih =>
    obtain ⟨hb, hword⟩ := List.ne_and_not_mem_of_not_mem_cons h
    rw [List.cons_append, delimitedParts, if_neg (Ne.symm hb), ih hword, List.append_assoc,
      List.singleton_append]

theorem delimitedParts_intercalate {delimiter : UInt8} {words : List Bytes}
    (hwords : ∀ word ∈ words, word ≠ [] ∧ delimiter ∉ word) :
    delimitedParts delimiter [] ([delimiter].intercalate words) = words := by
  induction words with
  | nil => rfl
  | cons word words ih =>
    obtain ⟨hword, hwords⟩ := List.forall_mem_cons.mp hwords
    cases words with
    | nil =>
      rw [List.intercalate_singleton, ← List.append_nil word, delimitedParts_append hword.2,
        List.nil_append, delimitedParts, List.append_nil, if_neg hword.1]
    | cons next words =>
      rw [List.intercalate_cons_cons, List.append_assoc, delimitedParts_append hword.2,
        List.singleton_append, List.nil_append, delimitedParts, if_pos rfl, ih hwords]

namespace FirmwareVersion

theorem isDigit_range {b : UInt8} (h : isDigit b) : 48 ≤ b.toNat ∧ b.toNat ≤ 57 := by
  simp only [isDigit, Bool.and_eq_true, decide_eq_true_eq, UInt8.le_iff_toNat_le] at h
  exact h

theorem stoi_decimal {part : Bytes} (hne : part ≠ []) (hpart : ∀ b ∈ part, isDigit b) :
    (stoi part).getD 0 = DottedDecimal.readable (decimalValue part) := by
  obtain ⟨first, rest, rfl⟩ := List.exists_cons_of_ne_nil hne
  have hfirst := isDigit_range (hpart first List.mem_cons_self)
  have hspace : isSpace first = false := by
    simp only [isSpace, Bool.or_eq_false_iff, Bool.and_eq_false_iff, decide_eq_false_iff_not,
      UInt8.le_iff_toNat_le, ← UInt8.toNat_inj, UInt8.reduceToNat]
    omega
  have hsigned : signed (first :: rest) = (false, first :: rest) := by
    rw [signed]
    · intro tail he
      cases he
      exact absurd hfirst.1 (by decide)
    · intro tail he
      cases he
      exact absurd hfirst.1 (by decide)
  rw [stoi, List.dropWhile_cons_of_neg (by rw [hspace]; exact Bool.noConfusion), hsigned]
  dsimp only
  simp only [Bool.false_eq_true, if_false]
  rw [List.takeWhile_eq_self_iff.mpr hpart, if_neg hne, DottedDecimal.readable]
  by_cases hfits : decimalValue (first :: rest) < 2 ^ 31
  · rw [if_pos (by omega), if_pos hfits]
    rfl
  · rw [if_neg (by omega), if_neg hfits]
    rfl

end FirmwareVersion

namespace DottedDecimal

theorem parseVersionComponents_text (v : DottedDecimal) :
    FirmwareVersion.parseVersionComponents v.text =
      (v.numbers.map readable).map Nat.cast := by
  have hwords : ∀ part ∈ v.components, part ≠ [] ∧ 46 ∉ part := by
    intro part hpart
    refine ⟨(v.decimal part hpart).1, ?_⟩
    intro hdot
    exact absurd ((v.decimal part hpart).2 46 hdot) (by decide)
  rw [FirmwareVersion.parseVersionComponents, text, delimitedParts_intercalate hwords, numbers,
    List.map_map, List.map_map]
  apply List.map_congr_left
  intro part hpart
  exact FirmwareVersion.stoi_decimal (v.decimal part hpart).1 (v.decimal part hpart).2

theorem isNewerVersion_text (v w : DottedDecimal) : isNewerVersion v.text w.text ↔
    padded 0 (w.numbers.map readable) < padded 0 (v.numbers.map readable) := by
  rw [isNewerVersion_iff, FirmwareVersion.rank, FirmwareVersion.rank,
    parseVersionComponents_text, parseVersionComponents_text]
  exact padded_map_lt Int.natCast_strictMono

theorem readable_decides {x y : Nat} (hne : x ≠ y) (later : Prop) :
    ((readable y < readable x ∨ readable y = readable x ∧ later) ↔ y < x) ↔
      (x < 2 ^ 31 ∧ y < 2 ^ 31) ∨ (readable x = readable y ∧ (later ↔ y < x)) := by
  unfold readable
  by_cases hlater : later
  · simp only [hlater, and_true, true_iff]
    split_ifs <;> omega
  · simp only [hlater, and_false, or_false, false_iff]
    split_ifs <;> omega

/-- Versions are compared by their numbers exactly where the first numbers that differ are read
in their order. -/
theorem numericallyNewer_iff_readInOrder (v w : DottedDecimal) :
    (isNewerVersion v.text w.text ↔ v.NumericallyNewer w) ↔ v.ReadInOrder w := by
  have hzero : readable 0 = 0 := rfl
  rw [isNewerVersion_text, NumericallyNewer]
  rcases padded_eq_or_firstDifference 0 v.numbers w.numbers with he | ⟨i, hi⟩
  · have hread : padded 0 (v.numbers.map readable) = padded 0 (w.numbers.map readable) := by
      funext i
      have hv := List.getD_map v.numbers 0 readable (n := i)
      have hw := List.getD_map w.numbers 0 readable (n := i)
      have hvw : v.numbers.getD i 0 = w.numbers.getD i 0 := congrFun he i
      rw [hvw, ← hw] at hv
      exact hv
    rw [he, hread]
    constructor
    · intro _ i hi
      exact absurd (congrFun he i) hi.here
    · intro _
      exact iff_of_false (lt_irrefl _) (lt_irrefl _)
  · have hcondition : v.ReadInOrder w ↔
        (v.numbers.getD i 0 < 2 ^ 31 ∧ w.numbers.getD i 0 < 2 ^ 31) ∨
        (readable (v.numbers.getD i 0) = readable (w.numbers.getD i 0) ∧
          (padded 0 ((w.numbers.drop (i + 1)).map readable) <
              padded 0 ((v.numbers.drop (i + 1)).map readable) ↔
            w.numbers.getD i 0 < v.numbers.getD i 0)) := by
      constructor
      · intro h
        exact h i hi
      · intro h j hj
        rw [hj.unique hi]
        exact h
    have hread := hi.symm.map_lt_iff readable
    rw [hzero] at hread
    rw [hcondition, hi.symm.lt_iff, hread]
    exact readable_decides hi.here _

theorem decimal_of_all {components : List Bytes}
    (h : (components.all fun part => !part.isEmpty && part.all FirmwareVersion.isDigit) = true) :
    ∀ part ∈ components, part ≠ [] ∧ ∀ b ∈ part, FirmwareVersion.isDigit b := by
  intro part hpart
  have hpart := List.all_eq_true.mp h part hpart
  rw [Bool.and_eq_true, Bool.not_eq_true', List.isEmpty_eq_false_iff, List.all_eq_true] at hpart
  exact hpart

/-- A release, and one whose last number is the time it was built at. -/
def patched : DottedDecimal :=
  ⟨[ascii "1", ascii "0", ascii "5"], List.cons_ne_nil _ _, decimal_of_all (by decide)⟩

def timestamped : DottedDecimal :=
  ⟨[ascii "1", ascii "0", ascii "20240115093000"], List.cons_ne_nil _ _,
    decimal_of_all (by decide)⟩

theorem patched_replaces_timestamped :
    patched.text = ascii "1.0.5" ∧ timestamped.text = ascii "1.0.20240115093000" ∧
      isNewerVersion patched.text timestamped.text ∧ ¬ patched.NumericallyNewer timestamped := by
  refine ⟨by decide, by decide, by decide, ?_⟩
  have hfirst : FirstDifference 0 timestamped.numbers patched.numbers 2 :=
    ⟨by decide, by decide⟩
  rw [NumericallyNewer, hfirst.lt_iff]
  decide

end DottedDecimal

end InterBridge
