import Mathlib.Tactic.Common

namespace Foundations
set_option autoImplicit true

/-- A segment of a path: its text is given, or the value of a place. -/
inductive Segment (β η : Type) where
  | given (text : β)
  | place (name : η)
  deriving DecidableEq

def Segment.fill (values : η → β) : Segment β η → β
  | .given text => text
  | .place name => values name

/-- Whatever the places are filled with, two such paths differ: in length, or in a given segment. -/
def clash [DecidableEq β] : List (Segment β η) → List (Segment β η) → Bool
  | [], [] => false
  | .given s :: p, .given t :: q => s ≠ t || clash p q
  | _ :: p, _ :: q => clash p q
  | _, _ => true

theorem map_fill_ne_of_clash [DecidableEq β] {p q : List (Segment β η)} (h : clash p q = true)
    (v w : η → β) : p.map (Segment.fill v) ≠ q.map (Segment.fill w) := by
  induction p generalizing q with
  | nil =>
    cases q with
    | nil => exact absurd h Bool.false_ne_true
    | cons t q => exact (List.cons_ne_nil _ _).symm
  | cons s p ih =>
    cases q with
    | nil => exact List.cons_ne_nil _ _
    | cons t q =>
      intro heq
      rw [List.map_cons, List.map_cons, List.cons.injEq] at heq
      cases s with
      | place name => exact ih h heq.2
      | given s =>
        cases t with
        | place name => exact ih h heq.2
        | given t =>
          rw [clash, Bool.or_eq_true, decide_eq_true_iff] at h
          exact h.elim (fun hne => hne heq.1) (fun hrest => ih hrest heq.2)

theorem values_eq_of_map_fill_eq {p : List (Segment β η)} {v w : η → β}
    (h : p.map (Segment.fill v) = p.map (Segment.fill w)) (hname : .place name ∈ p) :
    v name = w name :=
  List.map_inj_left.mp h _ hname

/-- The path with its places filled. -/
def fillPath (separator : α) (values : η → List α) (p : List (Segment (List α) η)) : List α :=
  [separator].intercalate (p.map (Segment.fill values))

theorem fillPath_ne_nil {text : List α} (h : text ≠ []) (separator : α) (values : η → List α)
    (rest : List (Segment (List α) η)) : fillPath separator values (.given text :: rest) ≠ [] := by
  rw [fillPath, List.map_cons]
  cases rest with
  | nil =>
    rw [List.map_nil, List.intercalate_singleton]
    exact h
  | cons s rest =>
    rw [List.map_cons, List.intercalate_cons_cons, List.append_assoc]
    exact List.append_ne_nil_of_left_ne_nil h _

/-- The separator stands between the segments only. -/
def Unbroken (separator : α) (values : η → List α) (p : List (Segment (List α) η)) : Prop :=
  ∀ s ∈ p, separator ∉ s.fill values

theorem Unbroken.of_values {separator : α} {values : η → List α}
    (hvalues : ∀ name, separator ∉ values name) {p : List (Segment (List α) η)}
    (hgiven : ∀ text, .given text ∈ p → separator ∉ text) : Unbroken separator values p := by
  intro s hs
  cases s with
  | given text => exact hgiven text hs
  | place name => exact hvalues name

theorem map_fill_eq_of_fillPath_eq [DecidableEq α] {separator : α} {v w : η → List α}
    {p q : List (Segment (List α) η)} (hp : Unbroken separator v p) (hq : Unbroken separator w q)
    (hpne : p ≠ []) (hqne : q ≠ []) (h : fillPath separator v p = fillPath separator w q) :
    p.map (Segment.fill v) = q.map (Segment.fill w) := by
  have hsplit {u : η → List α} {r : List (Segment (List α) η)} (hr : Unbroken separator u r)
      (hrne : r ≠ []) : (fillPath separator u r).splitOn separator = r.map (Segment.fill u) := by
    apply List.splitOn_intercalate separator _ (mt List.map_eq_nil_iff.mp hrne)
    intro segment hsegment
    obtain ⟨s, hs, rfl⟩ := List.mem_map.mp hsegment
    exact hr s hs
  rw [← hsplit hp hpne, ← hsplit hq hqne, h]

/-- Of paths that pairwise clash, each shows which one it is and what its places were filled
with. -/
theorem fillPath_injective [DecidableEq α] {separator : α} {pattern : ι → List (Segment (List α) η)}
    (hclash : ∀ i j, i ≠ j → clash (pattern i) (pattern j) = true) {v w : η → List α} {i j : ι}
    (hi : Unbroken separator v (pattern i)) (hj : Unbroken separator w (pattern j))
    (hine : pattern i ≠ []) (hjne : pattern j ≠ [])
    (h : fillPath separator v (pattern i) = fillPath separator w (pattern j)) :
    i = j ∧ ∀ name, .place name ∈ pattern i → v name = w name := by
  have hsegments := map_fill_eq_of_fillPath_eq hi hj hine hjne h
  have hij : i = j := by
    by_contra hne
    exact map_fill_ne_of_clash (hclash i j hne) v w hsegments
  subst hij
  exact ⟨rfl, fun name hname => values_eq_of_map_fill_eq hsegments hname⟩

end Foundations
