import InterBridge.Foundations.BoundedFifo

namespace Foundations
set_option autoImplicit true

/-- What a full queue drops to make room for one more element. -/
def droppedBy (capacity : Nat) (queue : List α) : List α :=
  if capacity ≤ queue.length then queue.take 1 else []

/-- The history of a queue: what was pushed is `gone` from the front or still queued, and what is
gone was delivered in the order of pushing or evicted. -/
def FifoLedger (pushed delivered evicted queue : List α) : Prop :=
  ∃ gone, pushed = gone ++ queue ∧ delivered.Sublist gone ∧
    ∀ a ∈ gone, a ∈ delivered ∨ a ∈ evicted

theorem FifoLedger.start : FifoLedger ([] : List α) [] [] [] :=
  ⟨[], rfl, .slnil, List.forall_mem_nil _⟩

theorem FifoLedger.delivered_sublist (h : FifoLedger pushed delivered evicted queue) :
    delivered.Sublist pushed := by
  obtain ⟨gone, rfl, hsublist, _⟩ := h
  exact hsublist.trans (List.sublist_append_left gone queue)

theorem FifoLedger.queue_sublist (h : FifoLedger pushed delivered evicted queue) :
    queue.Sublist pushed := by
  obtain ⟨gone, rfl, _⟩ := h
  exact List.sublist_append_right gone queue

/-- The elements pushed before a queued one are delivered, evicted, or queued before it. -/
theorem FifoLedger.before_queued (h : FifoLedger pushed delivered evicted (ahead ++ a :: behind)) :
    ∃ earlier, pushed = earlier ++ a :: behind ∧
      ∀ b ∈ earlier, b ∈ delivered ++ ahead ∨ b ∈ evicted := by
  obtain ⟨gone, rfl, _, hgone⟩ := h
  refine ⟨gone ++ ahead, by rw [List.append_assoc], ?_⟩
  intro b hb
  rcases List.mem_append.mp hb with hb | hb
  · exact (hgone b hb).imp_left (List.mem_append_left _)
  · exact .inl (List.mem_append_right _ hb)

theorem FifoLedger.deliver (h : FifoLedger pushed delivered evicted (out ++ queue)) :
    FifoLedger pushed (delivered ++ out) evicted queue := by
  obtain ⟨gone, rfl, hsublist, hgone⟩ := h
  refine ⟨gone ++ out, by rw [List.append_assoc], hsublist.append (.refl out), ?_⟩
  intro b hb
  rcases List.mem_append.mp hb with hb | hb
  · exact (hgone b hb).imp_left (List.mem_append_left _)
  · exact .inl (List.mem_append_right _ hb)

theorem FifoLedger.push {queue : List α} (h : FifoLedger pushed delivered evicted queue)
    (capacity : Nat) (a : α) :
    FifoLedger (pushed ++ [a]) delivered (evicted ++ droppedBy capacity queue)
      (pushBounded capacity queue a) := by
  obtain ⟨gone, rfl, hsublist, hgone⟩ := h
  have hkept : ∀ b ∈ gone, b ∈ delivered ∨ b ∈ evicted ++ droppedBy capacity queue :=
    fun b hb => (hgone b hb).imp_right (List.mem_append_left _)
  by_cases hfull : capacity ≤ queue.length
  · refine ⟨gone ++ queue.take 1, ?_, hsublist.trans (List.sublist_append_left _ _), ?_⟩
    · rw [pushBounded, if_pos hfull, ← List.drop_one, List.append_assoc, List.append_assoc,
        ← List.append_assoc (queue.take 1), List.take_append_drop]
    · intro b hb
      rcases List.mem_append.mp hb with hb | hb
      · exact hkept b hb
      · rw [droppedBy, if_pos hfull]
        exact .inr (List.mem_append_right _ hb)
  · refine ⟨gone, ?_, hsublist, hkept⟩
    rw [pushBounded, if_neg hfull, List.append_assoc]

theorem head_of_lost {queue : List α} (h : a ∈ queue) (hlost : a ∉ pushBounded capacity queue b) :
    capacity ≤ queue.length ∧ queue.head? = some a := by
  rw [pushBounded, List.mem_append, not_or] at hlost
  by_cases hfull : capacity ≤ queue.length
  · refine ⟨hfull, ?_⟩
    rw [if_pos hfull] at hlost
    cases queue with
    | nil => exact absurd h List.not_mem_nil
    | cons c queue =>
      rcases List.mem_cons.mp h with rfl | h
      · rfl
      · exact absurd h hlost.1
  · rw [if_neg hfull] at hlost
    exact absurd h hlost.1

theorem filter_key_cons [DecidableEq κ] {r : κ × α} {rows : List (κ × α)}
    (hn : ((r :: rows).map Prod.fst).Nodup) :
    ((r :: rows).filter fun row => row.1 ≠ r.1) = rows := by
  rw [List.map_cons, List.nodup_cons] at hn
  rw [List.filter_cons_of_neg (by simp)]
  apply List.filter_eq_self.mpr
  intro row hrow
  rw [decide_eq_true_iff]
  exact fun he => hn.1 (he ▸ List.mem_map_of_mem hrow)

end Foundations
