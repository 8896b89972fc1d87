import InterBridge.Foundations.Transitions
import Mathlib.Data.List.Induction

namespace Foundations
set_option autoImplicit true

/-- Some entry of the history is marked, and every entry after it is as `hold` says. -/
def Since (hold mark : α → Prop) (ts : List α) : Prop :=
  ∃ earlier v later, ts = earlier ++ v :: later ∧ mark v ∧ ∀ w ∈ later, hold w

theorem not_since_nil {hold mark : α → Prop} : ¬ Since hold mark [] := by
  intro h
  obtain ⟨earlier, v, later, hts, _⟩ := h
  exact absurd hts.symm (List.append_ne_nil_of_right_ne_nil _ (List.cons_ne_nil v later))

theorem since_concat {ts : List α} :
    Since hold mark (ts ++ [u]) ↔ mark u ∨ hold u ∧ Since hold mark ts := by
  constructor
  · intro h
    obtain ⟨earlier, v, later, hts, hv, hlater⟩ := h
    rcases concat_eq_append_cons hts with ⟨rfl, rfl, rfl⟩ | ⟨later, rfl, rfl⟩
    · exact .inl hv
    · rw [List.forall_mem_append, List.forall_mem_singleton] at hlater
      exact .inr ⟨hlater.2, earlier, v, later, rfl, hv, hlater.1⟩
  · intro h
    rcases h with hu | ⟨hu, earlier, v, later, rfl, hv, hlater⟩
    · exact ⟨ts, u, [], rfl, hu, List.forall_mem_nil _⟩
    · refine ⟨earlier, v, later ++ [u], List.append_assoc _ _ _, hv, ?_⟩
      rw [List.forall_mem_append, List.forall_mem_singleton]
      exact ⟨hlater, hu⟩

theorem since_of_mem (h : v ∈ ts) (hv : mark v) (hhold : ∀ w ∈ ts, hold w) :
    Since hold mark ts := by
  obtain ⟨earlier, later, rfl⟩ := List.append_of_mem h
  exact ⟨earlier, v, later, rfl, hv, fun w hw =>
    hhold w (List.mem_append_right _ (List.mem_cons_of_mem _ hw))⟩

theorem since_map {f : α → β} {hold mark : β → Prop} {ts : List α} :
    Since hold mark (ts.map f) ↔ Since (fun a => hold (f a)) (fun a => mark (f a)) ts := by
  induction ts using List.reverseRecOn with
  | nil => exact iff_of_false not_since_nil not_since_nil
  | append_singleton ts u ih => rw [List.map_append, List.map_singleton, since_concat, since_concat,
      ih]

theorem Since.mono (h : Since hold mark ts) (hhold : ∀ w, hold w → hold' w)
    (hmark : ∀ v, mark v → mark' v) : Since hold' mark' ts := by
  obtain ⟨earlier, v, later, rfl, hv, hlater⟩ := h
  exact ⟨earlier, v, later, rfl, hmark v hv, fun w hw => hhold w (hlater w hw)⟩

theorem Since.append (h : Since hold mark ts) (hlater : ∀ w ∈ later, hold w) :
    Since hold mark (ts ++ later) := by
  obtain ⟨earlier, v, between, rfl, hv, hbetween⟩ := h
  refine ⟨earlier, v, between ++ later, List.append_assoc _ _ _, hv, ?_⟩
  rw [List.forall_mem_append]
  exact ⟨hbetween, hlater⟩

theorem Since.last (h : Since hold mark ts) : Since (fun w => hold w ∧ ¬ mark w) mark ts := by
  induction ts using List.reverseRecOn with
  | nil => exact absurd h not_since_nil
  | append_singleton ts u ih =>
    rw [since_concat]
    by_cases hu : mark u
    · exact .inl hu
    · have hold := (since_concat.mp h).resolve_left hu
      exact .inr ⟨⟨hold.1, hu⟩, ih hold.2⟩

theorem Since.unique (h : Since hold mark ts) (h' : Since hold mark' ts)
    (hmark : ∀ v, mark v → ¬ hold v) (hmark' : ∀ v, mark' v → ¬ hold v) :
    ∃ v, mark v ∧ mark' v := by
  induction ts using List.reverseRecOn with
  | nil => exact absurd h not_since_nil
  | append_singleton ts u ih =>
    rw [since_concat] at h h'
    rcases h with hu | ⟨hu, h⟩
    · rcases h' with hu' | ⟨hu', _⟩
      · exact ⟨u, hu, hu'⟩
      · exact absurd hu' (hmark u hu)
    · rcases h' with hu' | ⟨_, h'⟩
      · exact absurd hu (hmark' u hu')
      · exact ih h h'

theorem Since.of_append (h : Since hold mark (earlier ++ v :: later)) (hhold : ¬ hold v)
    (hmark : ¬ mark v) : Since hold mark later := by
  induction later using List.reverseRecOn with
  | nil =>
    rcases since_concat.mp h with hv | ⟨hv, _⟩
    · exact absurd hv hmark
    · exact absurd hv hhold
  | append_singleton later u ih =>
    rw [← List.cons_append, ← List.append_assoc, since_concat] at h
    rw [since_concat]
    exact h.imp_right fun hu => ⟨hu.1, ih hu.2⟩

/-- Every entry of the history was allowed after the entries before it. -/
def Lawful (allowed : List α → α → Prop) (ts : List α) : Prop :=
  ∀ earlier v later, ts = earlier ++ v :: later → allowed earlier v

theorem lawful_nil {allowed : List α → α → Prop} : Lawful allowed [] := by
  intro earlier v later hts
  exact absurd hts.symm (List.append_ne_nil_of_right_ne_nil _ (List.cons_ne_nil v later))

theorem lawful_concat {allowed : List α → α → Prop} {ts : List α} :
    Lawful allowed (ts ++ [u]) ↔ Lawful allowed ts ∧ allowed ts u := by
  constructor
  · intro h
    refine ⟨?_, h ts u [] rfl⟩
    intro earlier v later hts
    refine h earlier v (later ++ [u]) ?_
    rw [hts, List.append_assoc, List.cons_append]
  · rintro ⟨hts, hu⟩ earlier v later hsplit
    rcases concat_eq_append_cons hsplit with ⟨rfl, rfl, rfl⟩ | ⟨later', rfl, rfl⟩
    · exact hu
    · exact hts earlier v later' rfl

end Foundations
