import Mathlib.Data.List.DropRight
import Mathlib.Data.List.Induction
import Mathlib.Tactic.Common

namespace Foundations
set_option autoImplicit true

/-- Append at the back; a full queue loses its oldest element first. -/
def pushBounded (capacity : Nat) (rows : List α) (a : α) : List α :=
  (if capacity ≤ rows.length then rows.tail else rows) ++ [a]

theorem pushBounded_of_lt {capacity : Nat} {rows : List α} (h : rows.length < capacity) (a : α) :
    pushBounded capacity rows a = rows ++ [a] := by
  rw [pushBounded, if_neg (Nat.not_le_of_lt h)]

theorem pushBounded_length_le {capacity : Nat} {rows : List α} (hc : 0 < capacity)
    (h : rows.length ≤ capacity) (a : α) : (pushBounded capacity rows a).length ≤ capacity := by
  simp only [pushBounded, List.length_append, List.length_singleton]
  split
  · rw [List.length_tail]
    omega
  · omega

theorem mem_pushBounded {rows : List α} (h : x ∈ pushBounded capacity rows a) :
    x ∈ rows ∨ x = a := by
  rw [pushBounded, List.mem_append, List.mem_singleton] at h
  refine h.imp_left fun h => ?_
  split at h
  · exact List.mem_of_mem_tail h
  · exact h

theorem pushBounded_map (f : α → β) (capacity : Nat) (rows : List α) (a : α) :
    (pushBounded capacity rows a).map f = pushBounded capacity (rows.map f) (f a) := by
  simp only [pushBounded, List.length_map, List.map_append, List.map_cons, List.map_nil]
  split <;> simp only [List.map_tail]

theorem tail_rtake {capacity : Nat} {l : List α}
    (h : (l.rtake (capacity + 1)).length = capacity + 1) :
    (l.rtake (capacity + 1)).tail = l.rtake capacity := by
  simp only [List.rtake, List.length_drop, List.tail_drop] at h ⊢
  congr 1
  omega

/-- A bounded queue holds the most recent `capacity` elements ever pushed. -/
theorem pushBounded_rtake {capacity : Nat} (hc : 0 < capacity) (pushed : List α) (a : α) :
    pushBounded capacity (pushed.rtake capacity) a = (pushed ++ [a]).rtake capacity := by
  obtain ⟨n, rfl⟩ := Nat.exists_eq_succ_of_ne_zero (Nat.ne_of_gt hc)
  rw [List.rtake_concat_succ, pushBounded]
  have hle : (pushed.rtake (n + 1)).length ≤ n + 1 := by
    simp only [List.rtake, List.length_drop]
    omega
  split
  · next hfull => rw [tail_rtake (Nat.le_antisymm hle hfull)]
  · next hfull =>
    congr 1
    simp only [List.rtake, List.length_drop] at hfull ⊢
    congr 1
    omega

theorem rtake_of_length_le {rows : List α} (h : rows.length ≤ n) : rows.rtake n = rows := by
  rw [List.rtake, Nat.sub_eq_zero_of_le h, List.drop_zero]

theorem rtake_map (f : α → β) (n : Nat) (rows : List α) :
    (rows.rtake n).map f = (rows.map f).rtake n := by
  simp only [List.rtake, List.map_drop, List.length_map]

variable [DecidableEq κ]

/-- Overwrite the value of the first row with the given key. -/
def replaceFirst (k : κ) (a : α) : List (κ × α) → List (κ × α)
  | [] => []
  | r :: rows => if r.1 = k then (k, a) :: rows else r :: replaceFirst k a rows

/-- Insert into a bounded keyed queue: a key already present keeps its place. -/
def upsert (capacity : Nat) (rows : List (κ × α)) (k : κ) (a : α) : List (κ × α) :=
  if k ∈ rows.map Prod.fst then replaceFirst k a rows else pushBounded capacity rows (k, a)

theorem upsert_of_notMem {rows : List (κ × α)} (h : k ∉ rows.map Prod.fst) (capacity : Nat)
    (a : α) :
    upsert capacity rows k a = pushBounded capacity rows (k, a) :=
  if_neg h

theorem upsert_eq_rtake {rows : List (κ × α)} (hc : 0 < capacity) (hl : rows.length ≤ capacity)
    (hk : k ∉ rows.map Prod.fst) (a : α) :
    upsert capacity rows k a = (rows ++ [(k, a)]).rtake capacity := by
  have h := pushBounded_rtake hc rows (k, a)
  rw [rtake_of_length_le hl] at h
  rw [upsert_of_notMem hk, h]

omit [DecidableEq κ] in
theorem lookup_eq_none_iff_notMem [BEq κ] [LawfulBEq κ] {rows : List (κ × α)} :
    rows.lookup k = none ↔ k ∉ rows.map Prod.fst := by
  rw [List.lookup_eq_none_iff]
  constructor
  · rintro h hk
    obtain ⟨p, hp, rfl⟩ := List.mem_map.mp hk
    simpa using h p hp
  · intro h p hp
    rw [bne_iff_ne]
    rintro rfl
    exact h (List.mem_map_of_mem hp)

omit [DecidableEq κ] in
theorem mem_of_lookup_eq_some [BEq κ] [LawfulBEq κ] {rows : List (κ × α)}
    (h : rows.lookup k = some a) : (k, a) ∈ rows := by
  obtain ⟨l₁, l₂, rfl, _⟩ := List.lookup_eq_some_iff.mp h
  exact List.mem_append_right _ List.mem_cons_self

omit [DecidableEq κ] in
theorem lookup_of_mem [BEq κ] [LawfulBEq κ] {rows : List (κ × α)}
    (hn : (rows.map Prod.fst).Nodup) (h : (k, a) ∈ rows) : rows.lookup k = some a := by
  obtain ⟨before, after, rfl⟩ := List.append_of_mem h
  rw [List.map_append, List.map_cons, List.nodup_append] at hn
  rw [List.lookup_eq_some_iff]
  refine ⟨before, after, rfl, fun p hp => ?_⟩
  rw [bne_iff_ne]
  exact Ne.symm (hn.2.2 p.1 (List.mem_map_of_mem hp) k List.mem_cons_self)

omit [DecidableEq κ] in
theorem pushBounded_nodup_keys {rows : List (κ × α)} (hn : (rows.map Prod.fst).Nodup)
    (hk : k ∉ rows.map Prod.fst) (capacity : Nat) (a : α) :
    ((pushBounded capacity rows (k, a)).map Prod.fst).Nodup := by
  have hsub : ((if capacity ≤ rows.length then rows.tail else rows).map Prod.fst).Sublist
      (rows.map Prod.fst) := by
    apply List.Sublist.map
    split
    · exact List.tail_sublist _
    · exact .refl _
  simp only [pushBounded, List.map_append, List.map_cons, List.map_nil]
  rw [List.nodup_append]
  refine ⟨hn.sublist hsub, List.pairwise_singleton _ _, ?_⟩
  rintro x hx y hy rfl
  rw [List.mem_singleton] at hy
  subst hy
  exact hk (hsub.subset hx)

theorem replaceFirst_keys (k : κ) (a : α) (rows : List (κ × α)) :
    (replaceFirst k a rows).map Prod.fst = rows.map Prod.fst := by
  induction rows with
  | nil => rfl
  | cons r rows ih =>
    rw [replaceFirst]
    by_cases hr : r.1 = k
    · rw [if_pos hr, List.map_cons, List.map_cons, hr]
    · rw [if_neg hr, List.map_cons, List.map_cons, ih]

theorem replaceFirst_eq_map {rows : List (κ × α)} (hn : (rows.map Prod.fst).Nodup) (k : κ)
    (a : α) : replaceFirst k a rows = rows.map fun r => if r.1 = k then (k, a) else r := by
  induction rows with
  | nil => rfl
  | cons r rows ih =>
    rw [List.map_cons, List.nodup_cons] at hn
    rw [replaceFirst, List.map_cons]
    by_cases hr : r.1 = k
    · have hothers : rows.map (fun r => if r.1 = k then (k, a) else r) = rows := by
        conv_rhs => rw [← List.map_id rows]
        apply List.map_congr_left
        intro r' hr'
        apply if_neg
        intro hk
        rw [hr, ← hk] at hn
        exact hn.1 (List.mem_map_of_mem hr')
      rw [if_pos hr, if_pos hr, hothers]
    · rw [if_neg hr, if_neg hr, ih hn.2]

theorem upsert_nodup_keys {rows : List (κ × α)} (hn : (rows.map Prod.fst).Nodup)
    (capacity : Nat) (k : κ) (a : α) : ((upsert capacity rows k a).map Prod.fst).Nodup := by
  rw [upsert]
  by_cases hk : k ∈ rows.map Prod.fst
  · rw [if_pos hk, replaceFirst_keys]
    exact hn
  · rw [if_neg hk]
    exact pushBounded_nodup_keys hn hk capacity a

theorem upsert_length_le {rows : List (κ × α)} (hc : 0 < capacity) (hl : rows.length ≤ capacity)
    (k : κ) (a : α) : (upsert capacity rows k a).length ≤ capacity := by
  rw [upsert]
  by_cases hk : k ∈ rows.map Prod.fst
  · rw [if_pos hk, ← List.length_map Prod.fst, replaceFirst_keys, List.length_map]
    exact hl
  · rw [if_neg hk]
    exact pushBounded_length_le hc hl _

/-- Replaying the rows of a bounded keyed queue into an empty one rebuilds it. -/
theorem foldl_upsert_rows {capacity : Nat} {rows : List (κ × α)}
    (hn : (rows.map Prod.fst).Nodup) (hl : rows.length ≤ capacity) :
    rows.foldl (fun acc r => upsert capacity acc r.1 r.2) [] = rows := by
  suffices h : ∀ rest acc : List (κ × α), ((acc ++ rest).map Prod.fst).Nodup →
      (acc ++ rest).length ≤ capacity →
      rest.foldl (fun acc r => upsert capacity acc r.1 r.2) acc = acc ++ rest from
    h rows [] hn hl
  intro rest
  induction rest with
  | nil => intro acc _ _; exact (List.append_nil acc).symm
  | cons r rest ih =>
    intro acc hn hl
    have hk : r.1 ∉ acc.map Prod.fst := by
      rw [List.map_append, List.map_cons, List.nodup_append] at hn
      exact fun hmem => hn.2.2 r.1 hmem r.1 List.mem_cons_self rfl
    have hlt : acc.length < capacity := by
      simp only [List.length_append, List.length_cons] at hl
      omega
    rw [List.foldl_cons, upsert_of_notMem hk, pushBounded_of_lt hlt]
    have hr : acc ++ [(r.1, r.2)] ++ rest = acc ++ r :: rest := by
      rw [List.append_assoc, List.singleton_append]
    rw [ih (acc ++ [(r.1, r.2)]) (hr ▸ hn) (hr ▸ hl), hr]

theorem mem_upsert {rows : List (κ × α)} (hn : (rows.map Prod.fst).Nodup)
    (h : r ∈ upsert capacity rows k a) : r = (k, a) ∨ r.1 ≠ k ∧ r ∈ rows := by
  rw [upsert] at h
  by_cases hk : k ∈ rows.map Prod.fst
  · rw [if_pos hk, replaceFirst_eq_map hn, List.mem_map] at h
    obtain ⟨r', hr', he⟩ := h
    by_cases hkey : r'.1 = k
    · rw [if_pos hkey] at he
      exact .inl he.symm
    · rw [if_neg hkey] at he
      rw [← he]
      exact .inr ⟨hkey, hr'⟩
  · rw [if_neg hk] at h
    rcases mem_pushBounded h with hr | hr
    · refine .inr ⟨?_, hr⟩
      intro he
      rw [← he] at hk
      exact hk (List.mem_map_of_mem hr)
    · exact .inl hr

theorem upsert_keys (capacity : Nat) (rows : List (κ × α)) (k : κ) (a : α) :
    (upsert capacity rows k a).map Prod.fst =
      if k ∈ rows.map Prod.fst then rows.map Prod.fst
      else pushBounded capacity (rows.map Prod.fst) k := by
  rw [upsert]
  by_cases hk : k ∈ rows.map Prod.fst
  · rw [if_pos hk, if_pos hk, replaceFirst_keys]
  · rw [if_neg hk, if_neg hk, pushBounded_map]

/-- The rows inserted one after another into an empty queue. -/
def upsertAll (capacity : Nat) (rows : List (κ × α)) : List (κ × α) :=
  rows.foldl (fun acc r => upsert capacity acc r.1 r.2) []

/-- The keys that a bounded queue keeps, oldest first: one that is in it keeps its place, and
any other is the newest. -/
def keptKeys (capacity : Nat) (keys : List κ) : List κ :=
  keys.foldl (fun kept k => if k ∈ kept then kept else pushBounded capacity kept k) []

theorem upsertAll_concat (capacity : Nat) (rows : List (κ × α)) (r : κ × α) :
    upsertAll capacity (rows ++ [r]) = upsert capacity (upsertAll capacity rows) r.1 r.2 := by
  rw [upsertAll, List.foldl_append]
  rfl

theorem upsertAll_keys (capacity : Nat) (rows : List (κ × α)) :
    (upsertAll capacity rows).map Prod.fst = keptKeys capacity (rows.map Prod.fst) := by
  induction rows using List.reverseRecOn with
  | nil => rfl
  | append_singleton rows r ih =>
    rw [upsertAll_concat, upsert_keys, ih, keptKeys, keptKeys, List.map_append, List.foldl_append]
    rfl

theorem upsertAll_nodup_keys (capacity : Nat) (rows : List (κ × α)) :
    ((upsertAll capacity rows).map Prod.fst).Nodup := by
  induction rows using List.reverseRecOn with
  | nil => exact List.nodup_nil
  | append_singleton rows r ih =>
    rw [upsertAll_concat]
    exact upsert_nodup_keys ih capacity r.1 r.2

theorem upsertAll_length_le (hc : 0 < capacity) (rows : List (κ × α)) :
    (upsertAll capacity rows).length ≤ capacity := by
  induction rows using List.reverseRecOn with
  | nil => exact Nat.zero_le _
  | append_singleton rows r ih =>
    rw [upsertAll_concat]
    exact upsert_length_le hc ih r.1 r.2

/-- A kept key has the value it was inserted with last. -/
theorem lookup_of_mem_upsertAll [BEq κ] [LawfulBEq κ] {rows : List (κ × α)}
    (h : r ∈ upsertAll capacity rows) :
    rows.reverse.lookup r.1 = some r.2 := by
  induction rows using List.reverseRecOn with
  | nil => exact absurd h List.not_mem_nil
  | append_singleton rows last ih =>
    rw [upsertAll_concat] at h
    rw [List.reverse_concat, List.lookup_cons]
    rcases mem_upsert (upsertAll_nodup_keys capacity rows) h with rfl | ⟨hkey, hmem⟩
    · rw [beq_self_eq_true]
    · rw [beq_eq_false_iff_ne.mpr hkey]
      exact ih hmem

/-- Of rows with different keys the newest are kept. -/
theorem upsertAll_of_nodup (hc : 0 < capacity) {rows : List (κ × α)}
    (hn : (rows.map Prod.fst).Nodup) : upsertAll capacity rows = rows.rtake capacity := by
  induction rows using List.reverseRecOn with
  | nil => exact (List.rtake_nil capacity).symm
  | append_singleton rows r ih =>
    rw [List.map_append, List.nodup_append] at hn
    have hk : r.1 ∉ (upsertAll capacity rows).map Prod.fst := by
      rw [ih hn.1, rtake_map]
      intro hmem
      exact hn.2.2 r.1 (List.mem_of_mem_drop hmem) r.1 List.mem_cons_self rfl
    rw [upsertAll_concat, upsert_of_notMem hk, ih hn.1, pushBounded_rtake hc]

omit [DecidableEq κ] in
theorem filterMap_keys {rows : List (κ × α)} {value : κ → Option α}
    (h : ∀ r ∈ rows, value r.1 = some r.2) :
    (rows.map Prod.fst).filterMap (fun k => (value k).map fun a => (k, a)) = rows := by
  induction rows with
  | nil => rfl
  | cons r rows ih =>
    obtain ⟨hr, hrows⟩ := List.forall_mem_cons.mp h
    rw [List.map_cons, List.filterMap_cons, hr, ih hrows]
    rfl

/-- What is kept depends on the keys kept and on the last values of these only. -/
theorem upsertAll_eq [BEq κ] [LawfulBEq κ] (capacity : Nat) (rows : List (κ × α)) :
    upsertAll capacity rows =
      (keptKeys capacity (rows.map Prod.fst)).filterMap fun k =>
        (rows.reverse.lookup k).map fun a => (k, a) := by
  rw [← upsertAll_keys]
  exact (filterMap_keys fun r hr => lookup_of_mem_upsertAll hr).symm

/-- How many elements were pushed after the last occurrence of `k`. -/
def pushedSince (k : κ) (pushed : List κ) : Nat :=
  (pushed.reverse.takeWhile (· ≠ k)).length

/-- An element is still among the last `n` exactly when fewer than `n` came after it. -/
theorem mem_rtake_iff {n : Nat} {pushed : List κ} :
    k ∈ pushed.rtake n ↔ k ∈ pushed ∧ pushedSince k pushed < n := by
  rw [List.rtake_eq_reverse_take_reverse, List.mem_reverse, ← @List.mem_reverse _ k pushed,
    pushedSince]
  generalize pushed.reverse = l
  induction l generalizing n with
  | nil => simp
  | cons x l ih =>
    cases n with
    | zero => simp
    | succ n =>
      rw [List.take_succ_cons, List.mem_cons, List.mem_cons, ih, List.takeWhile_cons]
      by_cases hx : x = k
      · simp [hx]
      · simp [hx, Ne.symm hx]

end Foundations
