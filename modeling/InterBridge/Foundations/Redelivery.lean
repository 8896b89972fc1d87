import InterBridge.Foundations.FifoDelivery
import Mathlib.Data.List.Destutter

namespace Foundations
set_option autoImplicit true

section Repeats
variable [DecidableEq α]

theorem destutter'_ne_concat (as : List α) (a b : α) :
    (as ++ [b]).destutter' (· ≠ ·) a = if (a :: as).getLast? = some b then
      as.destutter' (· ≠ ·) a else as.destutter' (· ≠ ·) a ++ [b] := by
  induction as generalizing a with
  | nil =>
    rw [List.nil_append, List.destutter'_singleton, List.getLast?_singleton]
    by_cases heq : a = b
    · rw [if_neg (not_not_intro heq), if_pos (congrArg some heq)]
      rfl
    · rw [if_pos heq, if_neg (mt Option.some.inj heq)]
      rfl
  | cons c as ih =>
    rw [List.cons_append, List.getLast?_cons_cons]
    by_cases hne : a ≠ c
    · rw [List.destutter'_cons_pos _ hne, List.destutter'_cons_pos _ hne, ih]
      split
      · rfl
      · rfl
    · rw [List.destutter'_cons_neg _ hne, List.destutter'_cons_neg _ hne, ih, not_not.mp hne]

theorem destutter_ne_concat (as : List α) (b : α) :
    (as ++ [b]).destutter (· ≠ ·) = if as.getLast? = some b then as.destutter (· ≠ ·)
      else as.destutter (· ≠ ·) ++ [b] := by
  cases as with
  | nil => rfl
  | cons a as => exact destutter'_ne_concat as a b

theorem getLast?_destutter_ne (as : List α) : (as.destutter (· ≠ ·)).getLast? = as.getLast? := by
  induction as using List.reverseRecOn with
  | nil => rfl
  | append_singleton as b ih =>
    rw [destutter_ne_concat, List.getLast?_concat]
    split
    next hlast => exact ih.trans hlast
    next => exact List.getLast?_concat

end Repeats

/-- The history of a queue whose elements are sent before they are taken out, so that a loss of
power in between has the oldest one sent again: `gone` was sent or evicted, and `again` is the
oldest element if it was the last one sent. -/
structure Redelivery [DecidableEq α] (capacity : Nat) (pushed sent evicted queue : List α)
    (losses : Nat) : Prop where
  ledger : ∃ gone again, pushed = gone ++ queue ∧ again <+: queue.take 1 ∧
    (sent.destutter (· ≠ ·)).Sublist (gone ++ again) ∧ (∀ a ∈ again, sent.getLast? = some a) ∧
    (∀ a ∈ gone, a ∈ sent ∨ a ∈ evicted) ∧
    sent.length + again.length ≤ (sent.destutter (· ≠ ·)).length + losses
  room : evicted.length + queue.length ≤ pushed.length
  evictions : evicted.length ≤ pushed.length - capacity

namespace Redelivery
variable [DecidableEq α] {pushed sent evicted queue : List α}

theorem start (capacity : Nat) (queue : List α) : Redelivery capacity queue [] [] queue 0 :=
  ⟨⟨[], [], rfl, List.nil_prefix, .slnil, List.forall_mem_nil _, List.forall_mem_nil _,
    Nat.le_refl _⟩, Nat.le_of_eq (Nat.zero_add _), Nat.zero_le _⟩

theorem inOrder (h : Redelivery capacity pushed sent evicted queue losses) :
    (sent.destutter (· ≠ ·)).Sublist pushed := by
  obtain ⟨gone, again, rfl, hagain, hsublist, _⟩ := h.ledger
  exact hsublist.trans ((List.Sublist.refl gone).append
    (hagain.sublist.trans (List.take_sublist 1 queue)))

theorem repeats (h : Redelivery capacity pushed sent evicted queue losses) :
    sent.length ≤ (sent.destutter (· ≠ ·)).length + losses := by
  obtain ⟨_, _, _, _, _, _, _, hcount⟩ := h.ledger
  exact Nat.le_trans (Nat.le_add_right _ _) hcount

theorem complete (h : Redelivery capacity pushed sent evicted queue losses) (hmem : a ∈ pushed) :
    a ∈ queue ∨ a ∈ sent ∨ a ∈ evicted := by
  obtain ⟨gone, _, rfl, _, _, _, hgone, _⟩ := h.ledger
  rcases List.mem_append.mp hmem with hmem | hmem
  · exact .inr (hgone a hmem)
  · exact .inl hmem

theorem lose (h : Redelivery capacity pushed sent evicted queue losses) :
    Redelivery capacity pushed sent evicted queue (losses + 1) := by
  obtain ⟨gone, again, hpushed, hagain, hsublist, hlast, hgone, hcount⟩ := h.ledger
  exact ⟨⟨gone, again, hpushed, hagain, hsublist, hlast, hgone, Nat.le_succ_of_le hcount⟩,
    h.room, h.evictions⟩

theorem send (h : Redelivery capacity pushed sent evicted (a :: queue) losses)
    (hdistinct : pushed.Nodup) :
    ∃ gone, pushed = gone ++ a :: queue ∧
      ((sent ++ [a]).destutter (· ≠ ·)).Sublist (gone ++ [a]) ∧
      (∀ b ∈ gone, b ∈ sent ++ [a] ∨ b ∈ evicted) ∧
      (sent ++ [a]).length ≤ ((sent ++ [a]).destutter (· ≠ ·)).length + losses := by
  obtain ⟨gone, again, rfl, hagain, hsublist, hlast, hgone, hcount⟩ := h.ledger
  refine ⟨gone, rfl, ?_⟩
  have hgone' : ∀ b ∈ gone, b ∈ sent ++ [a] ∨ b ∈ evicted :=
    fun b hb => (hgone b hb).imp_left (List.mem_append_left _)
  rw [destutter_ne_concat, List.length_append, List.length_singleton]
  rcases List.prefix_cons_iff.mp hagain with rfl | ⟨rest, rfl, hrest⟩
  · -- `a` was not the last one sent: that one is gone.
    have hnew : sent.getLast? ≠ some a := by
      intro hsent
      rw [← getLast?_destutter_ne] at hsent
      have hmem := (List.append_nil gone ▸ hsublist).mem (List.mem_of_getLast? hsent)
      exact (List.nodup_append.mp hdistinct).2.2 a hmem a List.mem_cons_self rfl
    rw [List.append_nil] at hsublist
    rw [if_neg hnew, List.length_append, List.length_singleton]
    rw [List.length_nil] at hcount
    exact ⟨hsublist.append_right [a], hgone', by omega⟩
  · rw [List.take_zero, List.prefix_nil] at hrest
    subst hrest
    rw [if_pos (hlast a List.mem_cons_self)]
    exact ⟨hsublist, hgone', hcount⟩

theorem deliver (h : Redelivery capacity pushed sent evicted (a :: queue) losses)
    (hdistinct : pushed.Nodup) : Redelivery capacity pushed (sent ++ [a]) evicted queue losses := by
  obtain ⟨gone, hpushed, hsublist, hgone, hcount⟩ := h.send hdistinct
  have hroom := h.room
  rw [List.length_cons] at hroom
  refine ⟨⟨gone ++ [a], [], ?_, List.nil_prefix, ?_, List.forall_mem_nil _, ?_, hcount⟩,
    Nat.le_of_succ_le hroom, h.evictions⟩
  · rw [hpushed, List.append_assoc, List.singleton_append]
  · rw [List.append_nil]
    exact hsublist
  · rw [List.forall_mem_append, List.forall_mem_singleton]
    exact ⟨hgone, .inl (List.mem_append_right _ (List.mem_singleton_self a))⟩

theorem interrupt (h : Redelivery capacity pushed sent evicted (a :: queue) losses)
    (hdistinct : pushed.Nodup) :
    Redelivery capacity pushed (sent ++ [a]) evicted (a :: queue) (losses + 1) := by
  obtain ⟨gone, hpushed, hsublist, hgone, hcount⟩ := h.send hdistinct
  refine ⟨⟨gone, [a], hpushed, List.prefix_refl _, hsublist, ?_, hgone, ?_⟩, h.room, h.evictions⟩
  · rw [List.forall_mem_singleton]
    exact List.getLast?_concat
  · exact Nat.succ_le_succ hcount

theorem push (h : Redelivery capacity pushed sent evicted queue losses) (b : α) :
    Redelivery capacity (pushed ++ [b]) sent (evicted ++ droppedBy capacity queue)
      (pushBounded capacity queue b) losses := by
  obtain ⟨gone, again, hpushed, hagain, hsublist, hlast, hgone, hcount⟩ := h.ledger
  have hroom := h.room
  have hevictions := h.evictions
  by_cases hfull : capacity ≤ queue.length
  · have hlength : (queue.take 1).length + queue.tail.length = queue.length := by
      rw [← List.drop_one, ← List.length_append, List.take_append_drop]
    rw [pushBounded, droppedBy, if_pos hfull, if_pos hfull]
    refine ⟨⟨gone ++ queue.take 1, [], ?_, List.nil_prefix, ?_, List.forall_mem_nil _, ?_, ?_⟩,
      ?_, ?_⟩
    · rw [hpushed, List.append_assoc, List.append_assoc, ← List.append_assoc (queue.take 1),
        ← List.drop_one, List.take_append_drop]
    · rw [List.append_nil]
      exact hsublist.trans ((List.Sublist.refl gone).append hagain.sublist)
    · rw [List.forall_mem_append]
      exact ⟨fun a ha => (hgone a ha).imp_right (List.mem_append_left _),
        fun a ha => .inr (List.mem_append_right _ ha)⟩
    · exact Nat.le_trans (Nat.add_le_add_left (Nat.zero_le _) _) hcount
    · simp only [List.length_append, List.length_singleton]
      omega
    · have hone := List.length_take_le 1 queue
      simp only [List.length_append, List.length_singleton]
      omega
  · rw [pushBounded, droppedBy, if_neg hfull, if_neg hfull, List.append_nil]
    refine ⟨⟨gone, again, ?_, ?_, hsublist, hlast, hgone, hcount⟩, ?_, ?_⟩
    · rw [hpushed, List.append_assoc]
    · rw [List.prefix_take_iff] at hagain ⊢
      exact ⟨hagain.1.trans (List.prefix_append queue [b]), hagain.2⟩
    · simp only [List.length_append, List.length_singleton]
      omega
    · simp only [List.length_append, List.length_singleton]
      omega

end Redelivery
end Foundations
