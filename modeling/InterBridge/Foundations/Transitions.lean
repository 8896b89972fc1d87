import Mathlib.Tactic.Common

namespace Foundations
set_option autoImplicit true

/-- One step of a run, with the state it started from and the state it reached. -/
structure Transition (σ ι ο : Type) where
  before : σ
  input : ι
  output : ο
  after : σ

def Transition.of (step : σ → ι → σ × ο) (s : σ) (i : ι) : Transition σ ι ο :=
  ⟨s, i, (step s i).2, (step s i).1⟩

def finalState (step : σ → ι → σ × ο) (s : σ) : List ι → σ
  | [] => s
  | i :: is => finalState step (step s i).1 is

/-- The steps a deterministic machine takes on a sequence of inputs, in order. -/
def transitions (step : σ → ι → σ × ο) (s : σ) : List ι → List (Transition σ ι ο)
  | [] => []
  | i :: is => Transition.of step s i :: transitions step (step s i).1 is

@[simp] theorem finalState_append (step : σ → ι → σ × ο) (s : σ) (is js : List ι) :
    finalState step s (is ++ js) = finalState step (finalState step s is) js := by
  induction is generalizing s with
  | nil => rfl
  | cons i is ih => exact ih _

@[simp] theorem transitions_append (step : σ → ι → σ × ο) (s : σ) (is js : List ι) :
    transitions step s (is ++ js) =
      transitions step s is ++ transitions step (finalState step s is) js := by
  induction is generalizing s with
  | nil => rfl
  | cons i is ih =>
    simp only [List.cons_append, transitions, finalState]
    rw [ih]

theorem transitions_input (step : σ → ι → σ × ο) (s : σ) (is : List ι) :
    (transitions step s is).map Transition.input = is := by
  induction is generalizing s with
  | nil => rfl
  | cons i is ih => simp only [transitions, List.map_cons, ih, Transition.of]

/-- A map of states and inputs that a step commutes with, leaving its output alone. -/
def Commutes (step : σ → ι → σ × ο) (onState : σ → σ) (onInput : ι → ι) : Prop :=
  ∀ s i, step (onState s) (onInput i) = (onState (step s i).1, (step s i).2)

def Transition.map (onState : σ → σ) (onInput : ι → ι) (t : Transition σ ι ο) :
    Transition σ ι ο :=
  ⟨onState t.before, onInput t.input, t.output, onState t.after⟩

/-- Runs commute with what every step commutes with. -/
theorem Commutes.transitions {step : σ → ι → σ × ο} (h : Commutes step onState onInput) (s : σ)
    (is : List ι) : transitions step (onState s) (is.map onInput) =
      (transitions step s is).map (Transition.map onState onInput) := by
  induction is generalizing s with
  | nil => rfl
  | cons i is ih =>
    rw [List.map_cons, Foundations.transitions, Foundations.transitions, List.map_cons,
      Transition.of, h s i, ih]
    rfl

/-- Induction over a run, one step at the end at a time: the motive sees every step taken
so far together with the state they led to. -/
theorem run_induction {step : σ → ι → σ × ο} {s : σ}
    {motive : List (Transition σ ι ο) → σ → Prop} (start : motive [] s)
    (next : ∀ ts t i, motive ts t → motive (ts ++ [Transition.of step t i]) (step t i).1)
    (is : List ι) : motive (transitions step s is) (finalState step s is) := by
  have hrun : ∀ (is : List ι) (ts : List (Transition σ ι ο)) (t : σ), motive ts t →
      motive (ts ++ transitions step t is) (finalState step t is) := by
    intro is
    induction is with
    | nil =>
      intro ts t ht
      simpa only [transitions, finalState, List.append_nil] using ht
    | cons i is ih =>
      intro ts t ht
      have h := ih _ _ (next ts t i ht)
      simpa only [transitions, finalState, List.append_assoc, List.singleton_append] using h
  exact hrun is [] s start

theorem run_induction_ordered {step : σ → ι → σ × ο} {s : σ} {first : Transition σ ι ο}
    {r : Transition σ ι ο → Transition σ ι ο → Prop} {allowed : Transition σ ι ο → Prop}
    {motive : List (Transition σ ι ο) → σ → Prop} (start : motive [] s)
    (next : ∀ ts t i, motive ts t → (∀ u ∈ first :: ts, r u (.of step t i)) →
      allowed (.of step t i) → motive (ts ++ [.of step t i]) (step t i).1)
    (is : List ι) (horder : (first :: transitions step s is).Pairwise r)
    (hallowed : ∀ u ∈ transitions step s is, allowed u) :
    motive (transitions step s is) (finalState step s is) := by
  have hrun : (first :: transitions step s is).Pairwise r →
      (∀ u ∈ transitions step s is, allowed u) →
      motive (transitions step s is) (finalState step s is) := by
    apply run_induction (motive := fun ts t => (first :: ts).Pairwise r →
      (∀ u ∈ ts, allowed u) → motive ts t)
    · exact fun _ _ => start
    · intro ts t i ih horder hallowed
      rw [← List.cons_append, List.pairwise_append] at horder
      rw [List.forall_mem_append, List.forall_mem_singleton] at hallowed
      obtain ⟨hts, _, hlast⟩ := horder
      exact next ts t i (ih hts hallowed.1)
        (fun u hu => hlast u hu _ (List.mem_singleton_self _)) hallowed.2
  exact hrun horder hallowed

/-- Cutting a run at one of its steps cuts its inputs at the same place. -/
theorem transitions_split {step : σ → ι → σ × ο} {pre post : List (Transition σ ι ο)}
    (h : transitions step s is = pre ++ t :: post) :
    ∃ is₁ i is₂, is = is₁ ++ i :: is₂ ∧ pre = transitions step s is₁ ∧
      t = Transition.of step (finalState step s is₁) i ∧
      post = transitions step t.after is₂ := by
  induction is generalizing s pre with
  | nil => simp [transitions] at h
  | cons i is ih =>
    cases pre with
    | nil =>
      simp only [transitions, List.nil_append, List.cons.injEq] at h
      obtain ⟨rfl, rfl⟩ := h
      exact ⟨[], i, is, rfl, rfl, rfl, rfl⟩
    | cons u pre =>
      simp only [transitions, List.cons_append, List.cons.injEq] at h
      obtain ⟨rfl, h⟩ := h
      obtain ⟨is₁, j, is₂, rfl, rfl, ht, hp⟩ := ih h
      exact ⟨i :: is₁, j, is₂, rfl, rfl, ht, hp⟩

theorem transitions_cut {step : σ → ι → σ × ο} {pre post : List (Transition σ ι ο)}
    (h : transitions step s is = pre ++ post) :
    ∃ is₁ is₂, is = is₁ ++ is₂ ∧ pre = transitions step s is₁ ∧
      post = transitions step (finalState step s is₁) is₂ := by
  cases post with
  | nil =>
    rw [List.append_nil] at h
    exact ⟨is, [], (List.append_nil is).symm, h.symm, rfl⟩
  | cons t post =>
    obtain ⟨is₁, i, is₂, his, hpre, ht, hpost⟩ := transitions_split h
    refine ⟨is₁, i :: is₂, his, hpre, ?_⟩
    rw [hpost, ht]
    rfl

theorem getLast?_transitions {step : σ → ι → σ × ο} {first last : Transition σ ι ο} {is : List ι}
    (h : last ∈ (first :: transitions step first.after is).getLast?) :
    last.after = finalState step first.after is := by
  induction is generalizing first with
  | nil =>
    cases h
    rfl
  | cons i is ih =>
    rw [transitions, List.getLast?_cons_cons] at h
    exact ih h

theorem exists_of_mem_transitions {step : σ → ι → σ × ο} (h : t ∈ transitions step s is) :
    ∃ is₁ i is₂, is = is₁ ++ i :: is₂ ∧ t = Transition.of step (finalState step s is₁) i := by
  obtain ⟨pre, post, hts⟩ := List.append_of_mem h
  obtain ⟨is₁, i, is₂, his, _, ht, _⟩ := transitions_split hts
  exact ⟨is₁, i, is₂, his, ht⟩

theorem finalState_kept {step : σ → ι → σ × ο} (view : σ → α) (allowed : Transition σ ι ο → Prop)
    (hstep : ∀ s i, allowed (.of step s i) → view (step s i).1 = view s) {s : σ} {is : List ι}
    (h : ∀ t ∈ transitions step s is, allowed t) : view (finalState step s is) = view s := by
  induction is generalizing s with
  | nil => rfl
  | cons i is ih =>
    rw [transitions, List.forall_mem_cons] at h
    rw [finalState, ih h.2]
    exact hstep s i h.1

/-- Where a property is kept by a step exactly under a condition, it holds after every step of a
run exactly where every step meets the condition. -/
theorem transitions_after_iff {step : σ → ι → σ × ο} {p : σ → Prop} {q : σ → ι → Prop}
    (hstep : ∀ s i, p s → (p (step s i).1 ↔ q s i)) (hs : p s) (is : List ι) :
    (∀ t ∈ transitions step s is, p t.after) ↔ ∀ t ∈ transitions step s is, q t.before t.input := by
  induction is generalizing s with
  | nil => exact iff_of_true (List.forall_mem_nil _) (List.forall_mem_nil _)
  | cons i is ih =>
    rw [transitions, List.forall_mem_cons, List.forall_mem_cons]
    refine (and_congr_left' (hstep s i hs)).trans (and_congr_right fun hi => ?_)
    exact ih ((hstep s i hs).mpr hi)

/-- Where a step either leaves a view of the state alone or overwrites it, a run leaves the value
written last. -/
theorem finalState_lastWrite {step : σ → ι → σ × ο} {view : σ → α} {write? : σ → ι → Option α}
    (hstep : ∀ s i, view (step s i).1 = (write? s i).getD (view s)) (s : σ) (is : List ι) :
    view (finalState step s is) =
      ((transitions step s is).filterMap fun t => write? t.before t.input).getLast?.getD
        (view s) := by
  induction is generalizing s with
  | nil => rfl
  | cons i is ih =>
    rw [finalState, ih, hstep, transitions, List.filterMap_cons]
    dsimp only [Transition.of]
    cases write? s i with
    | none => rfl
    | some value =>
      rw [List.getLast?_cons]
      rfl

theorem exists_last {p : α → Prop} {l : List α} (h : ∃ a ∈ l, p a) :
    ∃ pre a post, l = pre ++ a :: post ∧ p a ∧ ∀ b ∈ post, ¬ p b := by
  induction l with
  | nil =>
    obtain ⟨a, ha, _⟩ := h
    exact absurd ha List.not_mem_nil
  | cons b l ih =>
    by_cases hl : ∃ a ∈ l, p a
    · obtain ⟨pre, a, post, rfl, ha, hpost⟩ := ih hl
      exact ⟨b :: pre, a, post, rfl, ha, hpost⟩
    · obtain ⟨a, hmem, ha⟩ := h
      rcases List.mem_cons.mp hmem with rfl | hmem
      · exact ⟨[], a, l, rfl, ha, fun c hc hp => hl ⟨c, hc, hp⟩⟩
      · exact absurd ⟨a, hmem, ha⟩ hl

theorem concat_eq_append_cons {ts pre post : List α} (h : ts ++ [u] = pre ++ t :: post) :
    (pre = ts ∧ t = u ∧ post = []) ∨ ∃ post', post = post' ++ [u] ∧ ts = pre ++ t :: post' := by
  rcases post.eq_nil_or_concat with rfl | ⟨post', v, rfl⟩
  · obtain ⟨rfl, hu⟩ := List.append_inj' h rfl
    simp only [List.cons.injEq, and_true] at hu
    exact .inl ⟨rfl, hu.symm, rfl⟩
  · rw [List.concat_eq_append, ← List.cons_append, ← List.append_assoc] at h
    obtain ⟨ht, hu⟩ := List.append_inj' h rfl
    simp only [List.cons.injEq, and_true] at hu
    subst hu
    exact .inr ⟨post', List.concat_eq_append, ht⟩

theorem append_eq_append_cons {xs ys before after : List α} (h : xs ++ ys = before ++ v :: after) :
    (∃ rest, xs = before ++ v :: rest ∧ after = rest ++ ys) ∨
      ∃ earlier, before = xs ++ earlier ∧ ys = earlier ++ v :: after := by
  rcases List.append_eq_append_iff.mp h with ⟨earlier, hbefore, hys⟩ | ⟨rest, hxs, hafter⟩
  · exact .inr ⟨earlier, hbefore, hys⟩
  · cases rest with
    | nil => exact .inr ⟨[], by rw [hxs, List.append_nil, List.append_nil], hafter.symm⟩
    | cons w rest =>
      rw [List.cons_append, List.cons.injEq] at hafter
      obtain ⟨rfl, rfl⟩ := hafter
      exact .inl ⟨rest, hxs, rfl⟩

/-- What follows the last marked place is one list. -/
theorem after_last_unique {p : α → Prop} {pre pre' post post' : List α}
    (h : pre ++ v :: post = pre' ++ w :: post') (hv : p v) (hw : p w) (hpost : ∀ u ∈ post, ¬ p u)
    (hpost' : ∀ u ∈ post', ¬ p u) : post = post' := by
  rcases append_eq_append_cons h with ⟨rest, _, hlast⟩ | ⟨earlier, _, hlast⟩
  · exact absurd hv (hpost' v (hlast ▸ List.mem_append_right _ List.mem_cons_self))
  · cases earlier with
    | nil =>
      rw [List.nil_append, List.cons.injEq] at hlast
      exact hlast.2
    | cons u earlier =>
      rw [List.cons_append, List.cons.injEq] at hlast
      exact absurd hw (hpost w (hlast.2 ▸ List.mem_append_right _ List.mem_cons_self))

/-- Two marked places in one list: the second mark is the first one, or after it, or before it. -/
theorem append_cons_cases {pre mid before after : List α}
    (h : pre ++ c :: mid = before ++ s :: after) : s = c ∨ s ∈ mid ∨ c ∈ after := by
  rcases List.append_eq_append_iff.mp h with ⟨rest, rfl, hrest⟩ | ⟨rest, rfl, hrest⟩
  · cases rest with
    | nil =>
      rw [List.nil_append, List.cons.injEq] at hrest
      exact .inl hrest.1.symm
    | cons d rest =>
      rw [List.cons_append, List.cons.injEq] at hrest
      rw [hrest.2]
      exact .inr (.inl (List.mem_append_right _ List.mem_cons_self))
  · cases rest with
    | nil =>
      rw [List.nil_append, List.cons.injEq] at hrest
      exact .inl hrest.1
    | cons d rest =>
      rw [List.cons_append, List.cons.injEq] at hrest
      rw [hrest.2]
      exact .inr (.inr (List.mem_append_right _ List.mem_cons_self))

end Foundations
