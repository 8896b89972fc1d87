import InterBridge.Foundations.History
import InterBridge.Foundations.WrappingClock
import Mathlib.Data.List.Chain

namespace Foundations
set_option autoImplicit true

/-- A level, read at a time on an unbounded clock. -/
structure LevelSample where
  level : Bool
  atMs : Nat
  deriving DecidableEq

/-- What a debouncer remembers: the raw level read last, when it last changed, and the level that
stands. Of the time it sees 32 bits. -/
structure Debouncer where
  debounceMs : UInt32
  rawLast : Bool := false
  lastRawChangeMs : UInt32 := 0
  hasLastRawChange : Bool := false
  debounced : Bool := false

namespace Debouncer

def observe (c : Debouncer) (raw : Bool) (nowMs : UInt32) : Debouncer :=
  if !c.hasLastRawChange || raw != c.rawLast then
    { c with rawLast := raw, lastRawChangeMs := nowMs, hasLastRawChange := true }
  else c

def settle (c : Debouncer) (raw : Bool) (nowMs : UInt32) : Debouncer :=
  { c with debounced := if c.debounceMs ≤ nowMs - c.lastRawChangeMs then raw else c.debounced }

def next (c : Debouncer) (s : LevelSample) : Debouncer :=
  (c.observe s.level (ms32 s.atMs)).settle s.level (ms32 s.atMs)

end Debouncer

/-- The level at the end of the history has been the same at every sample since one that is `d`
before `t`. -/
def StableFor (level : Bool) (d t : Nat) (history : List LevelSample) : Prop :=
  Since (fun w => w.level = level) (fun v => v.level = level ∧ v.atMs + d ≤ t) history

/-- Time does not go back, and each gap is less than half the range of the clock's readings. -/
def ShortGap (s t : LevelSample) : Prop := s.atMs ≤ t.atMs ∧ t.atMs < s.atMs + 2 ^ 31

instance (s t : LevelSample) : Decidable (ShortGap s t) := inferInstanceAs (Decidable (_ ∧ _))

theorem stableFor_concat {level : Bool} {d t : Nat} {history : List LevelSample} {s : LevelSample} :
    StableFor level d t (history ++ [s]) ↔
      s.level = level ∧ (s.atMs + d ≤ t ∨ StableFor level d t history) := by
  rw [StableFor, StableFor, since_concat, and_or_left]

/-- A debouncer that has seen the history, the last sample of it at `last`: its raw level stands
since `change`, and differs from the debounced one only for less than the debounce time. -/
structure Debouncer.Stands (c : Debouncer) (history : List LevelSample) (change last : Nat) :
    Prop where
  has : c.hasLastRawChange = true
  since : c.lastRawChangeMs = ms32 change
  change_le : change ≤ last
  stable_iff : ∀ d t, StableFor c.rawLast d t history ↔ change + d ≤ t
  not_stable : ∀ level d t, level ≠ c.rawLast → ¬ StableFor level d t history
  pending : c.debounced ≠ c.rawLast → last < change + c.debounceMs.toNat

namespace Debouncer

theorem observe_changed {c : Debouncer}
    (h : c.hasLastRawChange = false ∨ raw ≠ c.rawLast) (nowMs : UInt32) :
    c.observe raw nowMs =
      { c with rawLast := raw, lastRawChangeMs := nowMs, hasLastRawChange := true } := by
  rw [observe, if_pos]
  rw [Bool.or_eq_true, Bool.not_eq_true', bne_iff_ne]
  exact h

theorem observe_same {c : Debouncer} (h : c.hasLastRawChange = true) (nowMs : UInt32) :
    c.observe c.rawLast nowMs = c := by
  rw [observe, if_neg]
  rw [h, bne_self_eq_false]
  decide

theorem next_changed {c : Debouncer} {s : LevelSample}
    (h : c.hasLastRawChange = false ∨ s.level ≠ c.rawLast) (hd : 0 < c.debounceMs) :
    c.next s = { c with
      rawLast := s.level, lastRawChangeMs := ms32 s.atMs, hasLastRawChange := true } := by
  rw [next, observe_changed h, settle, if_neg]
  rw [UInt32.sub_self]
  exact UInt32.not_le.mpr hd

theorem next_same {c : Debouncer} {s : LevelSample} (h : c.hasLastRawChange = true)
    (hs : s.level = c.rawLast) : c.next s = c.settle s.level (ms32 s.atMs) := by
  rw [next, hs, observe_same h]

/-- While the two levels differ, the wrapped distance to the last raw change is the true one. -/
theorem Stands.settled_iff {c : Debouncer} (h : c.Stands history change last)
    (hd : c.debounceMs.toNat ≤ 2 ^ 31) (hdiffer : c.debounced ≠ c.rawLast) (hle : last ≤ now)
    (hnow : now < last + 2 ^ 31) :
    c.debounceMs ≤ ms32 now - c.lastRawChangeMs ↔ change + c.debounceMs.toNat ≤ now := by
  have hpending := h.pending hdiffer
  have hchange := h.change_le
  rw [h.since, UInt32.le_iff_toNat_le, ms32_sub_toNat (hchange.trans hle)]
  omega

theorem stands_of_changed {c : Debouncer} {s : LevelSample}
    (h : c.hasLastRawChange = false ∨ s.level ≠ c.rawLast) (hd : 0 < c.debounceMs)
    (hnew : ∀ d t, ¬ StableFor s.level d t history) :
    (c.next s).Stands (history ++ [s]) s.atMs s.atMs := by
  rw [next_changed h hd]
  refine ⟨rfl, rfl, Nat.le_refl _, ?_, ?_, ?_⟩
  · intro d t
    rw [stableFor_concat]
    exact ⟨fun h => h.2.resolve_right (hnew d t), fun h => ⟨rfl, .inl h⟩⟩
  · intro level d t hlevel hstable
    exact hlevel (stableFor_concat.mp hstable).1.symm
  · intro _
    exact Nat.lt_add_of_pos_right (UInt32.lt_iff_toNat_lt.mp hd)

theorem Stands.next_same {c : Debouncer} {s : LevelSample} (h : c.Stands history change last)
    (hs : s.level = c.rawLast) (hd : c.debounceMs.toNat ≤ 2 ^ 31) (hle : last ≤ s.atMs)
    (hnow : s.atMs < last + 2 ^ 31) : (c.next s).Stands (history ++ [s]) change s.atMs := by
  rw [Debouncer.next_same h.has hs]
  refine ⟨h.has, h.since, h.change_le.trans hle, ?_, ?_, ?_⟩
  · intro d t
    change StableFor c.rawLast d t (history ++ [s]) ↔ _
    rw [stableFor_concat, h.stable_iff]
    have hchange := h.change_le
    constructor
    · intro hstable
      rcases hstable.2 with hstable | hstable <;> omega
    · exact fun hstable => ⟨hs, .inr hstable⟩
  · intro level d t hlevel hstable
    exact hlevel ((stableFor_concat.mp hstable).1.symm.trans hs)
  · intro hpending
    change (if _ then s.level else c.debounced) ≠ c.rawLast at hpending
    split at hpending
    · exact absurd hs hpending
    · next hsettled =>
      rw [h.settled_iff hd hpending hle hnow, Nat.not_le] at hsettled
      exact hsettled

/-- The debounced level changes exactly when another raw level has been stable long enough. -/
theorem Stands.changes_iff {c : Debouncer} {s : LevelSample} (h : c.Stands history change last)
    (hd : 0 < c.debounceMs) (hd' : c.debounceMs.toNat ≤ 2 ^ 31) (hle : last ≤ s.atMs)
    (hnow : s.atMs < last + 2 ^ 31) :
    (c.next s).debounced ≠ c.debounced ↔ s.level ≠ c.debounced ∧
      StableFor s.level c.debounceMs.toNat s.atMs (history ++ [s]) := by
  have hpos := UInt32.lt_iff_toNat_lt.mp hd
  have hlate : ¬ s.atMs + c.debounceMs.toNat ≤ s.atMs :=
    Nat.not_le.mpr (Nat.lt_add_of_pos_right hpos)
  rw [stableFor_concat]
  by_cases hs : s.level = c.rawLast
  · rw [Debouncer.next_same h.has hs, hs, h.stable_iff]
    change (if c.debounceMs ≤ _ - c.lastRawChangeMs then _ else _) ≠ c.debounced ↔ _
    by_cases hdiffer : c.debounced = c.rawLast
    · rw [hdiffer, ite_self]
      exact iff_of_false (fun hne => hne rfl) (fun hne => hne.1 rfl)
    · have hsettled := h.settled_iff hd' hdiffer hle hnow
      by_cases hstable : change + c.debounceMs.toNat ≤ s.atMs
      · rw [if_pos (hsettled.mpr hstable)]
        exact iff_of_true (Ne.symm hdiffer) ⟨Ne.symm hdiffer, rfl, .inr hstable⟩
      · rw [if_neg (mt hsettled.mp hstable)]
        exact iff_of_false (fun hne => hne rfl) fun hne => hne.2.2.elim hlate hstable
  · rw [next_changed (.inr hs) hd]
    refine iff_of_false (fun hne => hne rfl) fun hne => ?_
    exact hne.2.2.elim hlate (h.not_stable _ _ _ hs)

/-- Where a debouncer stands after a history: fresh before the first sample. -/
def Follows (c : Debouncer) (history : List LevelSample) : Prop :=
  (history = [] ∧ c.hasLastRawChange = false) ∨
    ∃ last ∈ history.getLast?, ∃ change, c.Stands history change last.atMs

theorem next_debounceMs (c : Debouncer) (s : LevelSample) :
    (c.next s).debounceMs = c.debounceMs := by
  rw [next, settle, observe]
  split <;> rfl

theorem Follows.next {c : Debouncer} (h : c.Follows history) (hd : 0 < c.debounceMs)
    (hd' : c.debounceMs.toNat ≤ 2 ^ 31) (hgap : ∀ last ∈ history.getLast?, ShortGap last s) :
    (c.next s).Follows (history ++ [s]) := by
  refine .inr ⟨s, List.getLast?_concat, ?_⟩
  rcases h with ⟨rfl, hhas⟩ | ⟨last, hlast, change, hstands⟩
  · exact ⟨s.atMs, stands_of_changed (.inl hhas) hd fun d t => not_since_nil⟩
  · obtain ⟨hle, hnow⟩ := hgap last hlast
    by_cases hs : s.level = c.rawLast
    · exact ⟨change, hstands.next_same hs hd' hle hnow⟩
    · exact ⟨s.atMs, stands_of_changed (.inr hs) hd fun d t => hstands.not_stable _ _ _ hs⟩

theorem Follows.changes_iff {c : Debouncer} (h : c.Follows history) (hd : 0 < c.debounceMs)
    (hd' : c.debounceMs.toNat ≤ 2 ^ 31) (hgap : ∀ last ∈ history.getLast?, ShortGap last s) :
    (c.next s).debounced ≠ c.debounced ↔ s.level ≠ c.debounced ∧
      StableFor s.level c.debounceMs.toNat s.atMs (history ++ [s]) := by
  rcases h with ⟨rfl, hhas⟩ | ⟨last, hlast, change, hstands⟩
  · rw [next_changed (.inl hhas) hd]
    refine iff_of_false (fun hne => hne rfl) fun hne => ?_
    have hpos := UInt32.lt_iff_toNat_lt.mp hd
    rcases (stableFor_concat.mp hne.2).2 with hlate | hnil
    · exact absurd hlate (Nat.not_le.mpr (Nat.lt_add_of_pos_right hpos))
    · exact not_since_nil hnil
  · obtain ⟨hle, hnow⟩ := hgap last hlast
    exact hstands.changes_iff hd hd' hle hnow

end Debouncer

section Machine
variable {step : σ → ι → σ × ο} {view : σ → Debouncer} {sample : ι → LevelSample} {s : σ}

/-- A machine whose memory of a level is that of a debouncer. -/
def Debounces (step : σ → ι → σ × ο) (view : σ → Debouncer) (sample : ι → LevelSample) : Prop :=
  ∀ s i, view (step s i).1 = (view s).next (sample i)

theorem Debounces.debounceMs (h : Debounces step view sample) (s : σ) (is : List ι) :
    (view (finalState step s is)).debounceMs = (view s).debounceMs := by
  induction is generalizing s with
  | nil => rfl
  | cons i is ih => rw [finalState, ih, h, Debouncer.next_debounceMs]

theorem Debounces.follows (h : Debounces step view sample)
    (hfresh : (view s).hasLastRawChange = false) (hd : 0 < (view s).debounceMs)
    (hd' : (view s).debounceMs.toNat ≤ 2 ^ 31) (is : List ι)
    (hclock : (is.map sample).IsChain ShortGap) :
    (view (finalState step s is)).Follows (is.map sample) := by
  induction is using List.reverseRecOn with
  | nil => exact .inl ⟨rfl, hfresh⟩
  | append_singleton is i ih =>
    rw [List.map_append, List.map_singleton, List.isChain_append] at hclock
    rw [finalState_append, List.map_append]
    change (view (step _ i).1).Follows _
    rw [h]
    apply (ih hclock.1).next
    · rwa [h.debounceMs]
    · rwa [h.debounceMs]
    · exact fun last hlast => hclock.2.2 last hlast _ rfl

/-- Over a run the level changes exactly where another raw level has been read at every sample
since one at least the debounce time before. -/
def ExactlyDebounced (d : UInt32) (sample : ι → LevelSample) (level : σ → Bool)
    (ts : List (Transition σ ι ο)) : Prop :=
  ∀ before u after, ts = before ++ u :: after →
    (level u.after ≠ level u.before ↔ (sample u.input).level ≠ level u.before ∧
      Since (fun w => (sample w.input).level = (sample u.input).level)
        (fun v => (sample v.input).level = (sample u.input).level ∧
          (sample v.input).atMs + d.toNat ≤ (sample u.input).atMs) (before ++ [u]))

theorem Debounces.exactlyDebounced (h : Debounces step view sample) (s : σ)
    (hfresh : (view s).hasLastRawChange = false) (hd : 0 < (view s).debounceMs)
    (hd' : (view s).debounceMs.toNat ≤ 2 ^ 31) {is : List ι}
    (hclock : (is.map sample).IsChain ShortGap) :
    ExactlyDebounced (view s).debounceMs sample (fun s => (view s).debounced)
      (transitions step s is) := by
  intro before u after hts
  obtain ⟨is₁, i, is₂, rfl, rfl, rfl, _⟩ := transitions_split hts
  have hsplit : is₁ ++ i :: is₂ = is₁ ++ [i] ++ is₂ := by simp
  rw [hsplit, List.map_append, List.map_append] at hclock
  have hclock₁ := hclock.left_of_append
  rw [List.isChain_append] at hclock₁
  have hfollows := h.follows hfresh hd hd' is₁ hclock₁.1
  have hkept := h.debounceMs s is₁
  rw [← hkept] at hd hd'
  have hiff := hfollows.changes_iff hd hd' fun last hlast => hclock₁.2.2 last hlast (sample i) rfl
  have hmap : is₁.map sample ++ [sample i] =
      (transitions step s is₁ ++ [Transition.of step (finalState step s is₁) i]).map
        (sample ∘ Transition.input) := by
    rw [List.map_append, ← List.map_map, transitions_input]
    rfl
  rw [hmap, StableFor, since_map, hkept] at hiff
  dsimp only [Transition.of] at hiff ⊢
  rw [h]
  exact hiff

end Machine
end Foundations
