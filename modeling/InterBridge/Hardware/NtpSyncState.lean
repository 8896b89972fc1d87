import InterBridge.Foundations.History
import InterBridge.Foundations.WrappingClock

namespace InterBridge
open Foundations
set_option autoImplicit true

/-- The gate between a completed synchronization and a clock that is trusted. -/
structure NtpSyncState where
  settleMs : UInt32 := 1000
  completedAtMs : UInt32 := 0
  completed : Bool := false
  deriving DecidableEq

/-- A call of one of the operations. -/
inductive NtpCall where
  | synchronizationStarted
  | synchronizationCompleted
  | isTrustworthy (synchronizationInProgress : Bool)
  deriving DecidableEq

/-- A call and its time, of which the program sees 32 bits. -/
structure NtpInput where
  call : NtpCall
  atMs : Nat
  deriving DecidableEq

abbrev NtpTransition := Transition NtpSyncState NtpInput (Option Bool)

/-- The rule at the head of the main loops' iteration: the session is dropped. -/
def dropsSession (wifiConnected timeValid connected : Bool) : Bool :=
  (!wifiConnected || !timeValid) && connected

namespace NtpSyncState

def constructed (settleMs : UInt32) : NtpSyncState where
  settleMs := settleMs

def synchronizationStarted (s : NtpSyncState) : NtpSyncState := { s with completed := false }

def synchronizationCompleted (s : NtpSyncState) (nowMs : UInt32) : NtpSyncState :=
  { s with completed := true, completedAtMs := nowMs }

def isTrustworthy (s : NtpSyncState) (nowMs : UInt32) (synchronizationInProgress : Bool) : Bool :=
  s.completed && !synchronizationInProgress && s.settleMs ≤ nowMs - s.completedAtMs

/-- One call, with its answer where it has one. -/
def step (s : NtpSyncState) (input : NtpInput) : NtpSyncState × Option Bool :=
  match input.call with
  | .synchronizationStarted => (s.synchronizationStarted, none)
  | .synchronizationCompleted => (s.synchronizationCompleted (ms32 input.atMs), none)
  | .isTrustworthy inProgress => (s, some (s.isTrustworthy (ms32 input.atMs) inProgress))

/-- The settling window opens at a completion, and again each time the counter has gone round. -/
def Settling (settleMs : UInt32) (completedAtMs atMs : Nat) : Prop :=
  ∃ rounds, completedAtMs + rounds * 2 ^ 32 ≤ atMs ∧
    atMs < completedAtMs + rounds * 2 ^ 32 + settleMs.toNat

/-- A synchronization completed, nothing was started since, and the last completion does not
settle at this time. -/
def Settled (settleMs : UInt32) (inputs : List NtpInput) (atMs : Nat) : Prop :=
  Since (fun w => w.call ≠ .synchronizationStarted ∧ w.call ≠ .synchronizationCompleted)
    (fun v => v.call = .synchronizationCompleted ∧ ¬ Settling settleMs v.atMs atMs) inputs

def LastCompleted (inputs : List NtpInput) (v : NtpInput) : Prop :=
  ∃ before after, inputs = before ++ v :: after ∧ v.call = .synchronizationCompleted ∧
    ∀ w ∈ after, w.call ≠ .synchronizationCompleted

/-- Once the clock is trusted, it stays trusted until a synchronization is started, and with Wi-Fi
up no session is dropped. -/
structure TrustKept (ts : List NtpTransition) : Prop where
  trusted : ∀ earlier r between u later, ts = earlier ++ r :: (between ++ u :: later) →
    r.output = some true → (∀ v ∈ between, v.input.call ≠ .synchronizationStarted) →
    u.input.call = .isTrustworthy false → u.output = some true
  session : ∀ earlier r between u later, ts = earlier ++ r :: (between ++ u :: later) →
    r.output = some true → (∀ v ∈ between, v.input.call ≠ .synchronizationStarted) →
    u.input.call = .isTrustworthy false →
    ∀ timeValid connected, u.output = some timeValid → dropsSession true timeValid connected = false

/-- From a call that finds the clock settled until a synchronization is started, no call falls
into a settling window. -/
def StaysSettled (settleMs : UInt32) (inputs : List NtpInput) : Prop :=
  ∀ earlier q between u later, inputs = earlier ++ q :: (between ++ u :: later) →
    q.call = .isTrustworthy false → Settled settleMs earlier q.atMs →
    (∀ w ∈ between, w.call ≠ .synchronizationStarted) → u.call = .isTrustworthy false →
    ∀ v, LastCompleted (earlier ++ q :: between) v → ¬ Settling settleMs v.atMs u.atMs

theorem settle_le_iff {settleMs : UInt32} {completedAtMs atMs : Nat} (h : completedAtMs ≤ atMs) :
    settleMs ≤ ms32 atMs - ms32 completedAtMs ↔ ¬ Settling settleMs completedAtMs atMs := by
  rw [UInt32.le_iff_toNat_le, ms32_sub_toNat h]
  constructor
  · intro hsettled hsettling
    obtain ⟨rounds, hopen, hclosed⟩ := hsettling
    omega
  · intro hsettled
    by_contra hlt
    apply hsettled
    refine ⟨(atMs - completedAtMs) / 2 ^ 32, ?_, ?_⟩
    · omega
    · omega

theorem finalState_concat (s : NtpSyncState) (inputs : List NtpInput) (input : NtpInput) :
    finalState step s (inputs ++ [input]) = (step (finalState step s inputs) input).1 := by
  rw [finalState_append]
  rfl

theorem settleMs_run (settleMs : UInt32) (inputs : List NtpInput) :
    (finalState step (constructed settleMs) inputs).settleMs = settleMs := by
  induction inputs using List.reverseRecOn with
  | nil => rfl
  | append_singleton inputs input ih =>
    rw [finalState_concat, step]
    cases input.call with
    | synchronizationStarted => exact ih
    | synchronizationCompleted => exact ih
    | isTrustworthy => exact ih

/-- What the gate answers is a matter of the last completion alone. -/
theorem isTrustworthy_run (settleMs : UInt32) (inputs : List NtpInput)
    (hpast : ∀ v ∈ inputs, v.atMs ≤ atMs) :
    (finalState step (constructed settleMs) inputs).isTrustworthy (ms32 atMs) false = true ↔
      Settled settleMs inputs atMs := by
  induction inputs using List.reverseRecOn with
  | nil => exact iff_of_false Bool.false_ne_true not_since_nil
  | append_singleton inputs input ih =>
    rw [List.forall_mem_append, List.forall_mem_singleton] at hpast
    have hsettle := settleMs_run settleMs inputs
    have hih := ih hpast.1
    rw [finalState_concat, step, Settled, since_concat]
    cases hcall : input.call with
    | synchronizationStarted =>
      apply iff_of_false Bool.false_ne_true
      intro hsince
      rcases hsince with ⟨hcompleted, _⟩ | ⟨⟨hheld, _⟩, _⟩
      · cases hcompleted
      · exact hheld rfl
    | synchronizationCompleted =>
      have hheld (p : Prop) : ¬ ((NtpCall.synchronizationCompleted ≠ .synchronizationStarted ∧
          NtpCall.synchronizationCompleted ≠ .synchronizationCompleted) ∧ p) :=
        fun hheld => hheld.1.2 rfl
      rw [or_iff_left (hheld _), and_iff_right rfl, ← settle_le_iff hpast.2]
      simp only [isTrustworthy, synchronizationCompleted, hsettle, Bool.true_and, Bool.not_false,
        decide_eq_true_iff]
    | isTrustworthy inProgress =>
      constructor
      · intro htrusted
        exact .inr ⟨⟨NtpCall.noConfusion, NtpCall.noConfusion⟩, hih.mp htrusted⟩
      · intro hsince
        rcases hsince with ⟨hcompleted, _⟩ | ⟨_, hsettled⟩
        · cases hcompleted
        · exact hih.mpr hsettled

theorem trusted_iff (settleMs : UInt32) (inputs : List NtpInput)
    (hsorted : (inputs.map NtpInput.atMs).Pairwise (· ≤ ·))
    (hts : transitions step (constructed settleMs) inputs = earlier ++ u :: later) :
    u.output = some true ↔ u.input.call = .isTrustworthy false ∧
      Settled settleMs (earlier.map Transition.input) u.input.atMs := by
  obtain ⟨is₁, input, is₂, rfl, rfl, rfl, _⟩ := transitions_split hts
  have hpast : ∀ v ∈ is₁, v.atMs ≤ input.atMs := by
    rw [List.pairwise_map, List.pairwise_append] at hsorted
    exact fun v hv => hsorted.2.2 v hv input List.mem_cons_self
  rw [transitions_input, Transition.of, ← isTrustworthy_run settleMs is₁ hpast]
  dsimp only [step]
  cases input.call with
  | synchronizationStarted =>
    exact iff_of_false (Option.some_ne_none true).symm fun h => NtpCall.noConfusion h.1
  | synchronizationCompleted =>
    exact iff_of_false (Option.some_ne_none true).symm fun h => NtpCall.noConfusion h.1
  | isTrustworthy inProgress =>
    rw [Option.some_inj, NtpCall.isTrustworthy.injEq]
    cases inProgress with
    | false => exact (and_iff_right rfl).symm
    | true =>
      rw [isTrustworthy, Bool.not_true, Bool.and_false, Bool.false_and]
      exact iff_of_false Bool.false_ne_true fun h => Bool.false_ne_true h.1.symm

theorem LastCompleted.eq (h : LastCompleted inputs v) (h' : LastCompleted inputs v') : v = v' := by
  obtain ⟨before, after, hv, hcompleted, hafter⟩ := h
  obtain ⟨before', after', hv', hcompleted', hafter'⟩ := h'
  rcases append_cons_cases (hv.symm.trans hv') with heq | hmem | hmem
  · exact heq.symm
  · exact absurd hcompleted' (hafter v' hmem)
  · exact absurd hcompleted (hafter' v hmem)

theorem settled_iff {settleMs : UInt32} : Settled settleMs inputs atMs ↔
    Since (fun w => w.call ≠ .synchronizationStarted)
      (fun v => v.call = .synchronizationCompleted) inputs ∧
    ∀ v, LastCompleted inputs v → ¬ Settling settleMs v.atMs atMs := by
  constructor
  · intro h
    refine ⟨h.mono (fun w hw => hw.1) (fun v hv => hv.1), ?_⟩
    intro v hv
    obtain ⟨before, v', after, hinputs, ⟨hcompleted, hsettled⟩, hafter⟩ := h
    have heq : v = v' := hv.eq ⟨before, after, hinputs, hcompleted, fun w hw => (hafter w hw).2⟩
    rw [heq]
    exact hsettled
  · intro h
    obtain ⟨before, v, after, hinputs, hcompleted, hafter⟩ := h.1.last
    refine ⟨before, v, after, hinputs, ⟨hcompleted, h.2 v ?_⟩, hafter⟩
    exact ⟨before, after, hinputs, hcompleted, fun w hw => (hafter w hw).2⟩

/-- Trust is kept exactly where no later call falls into a settling window. -/
theorem trustKept_iff (settleMs : UInt32) (inputs : List NtpInput)
    (hsorted : (inputs.map NtpInput.atMs).Pairwise (· ≤ ·)) :
    TrustKept (transitions step (constructed settleMs) inputs) ↔ StaysSettled settleMs inputs := by
  constructor
  · intro h earlier q between u later hinputs hq hsettled hbetween hu
    have hmap := (transitions_input step (constructed settleMs) inputs).trans hinputs
    obtain ⟨before, fromFirst, hts, rfl, hfirst⟩ := List.map_eq_append_iff.mp hmap
    obtain ⟨r, rest, rfl, rfl, hrest⟩ := List.map_eq_cons_iff.mp hfirst
    obtain ⟨mid, fromLast, rfl, rfl, hlast⟩ := List.map_eq_append_iff.mp hrest
    obtain ⟨t, after, rfl, rfl, rfl⟩ := List.map_eq_cons_iff.mp hlast
    have hr := (trusted_iff settleMs inputs hsorted hts).mpr ⟨hq, hsettled⟩
    have hnone : ∀ v ∈ mid, v.input.call ≠ .synchronizationStarted :=
      fun v hv => hbetween v.input (List.mem_map_of_mem hv)
    have ht := h.trusted before r mid t after hts hr hnone hu
    rw [← List.cons_append, ← List.append_assoc] at hts
    have hkept := ((trusted_iff settleMs inputs hsorted hts).mp ht).2
    rw [List.map_append, List.map_cons, settled_iff] at hkept
    exact hkept.2
  · intro h
    have htrusted : ∀ earlier r between u later,
        transitions step (constructed settleMs) inputs = earlier ++ r :: (between ++ u :: later) →
        r.output = some true → (∀ v ∈ between, v.input.call ≠ .synchronizationStarted) →
        u.input.call = .isTrustworthy false → u.output = some true := by
      intro earlier r between u later hts hr hbetween hu
      obtain ⟨hq, hsettled⟩ := (trusted_iff settleMs inputs hsorted hts).mp hr
      have hinputs := transitions_input step (constructed settleMs) inputs
      rw [hts, List.map_append, List.map_cons, List.map_append, List.map_cons] at hinputs
      have hnone : ∀ w ∈ between.map Transition.input, w.call ≠ .synchronizationStarted :=
        List.forall_mem_map.mpr hbetween
      rw [← List.cons_append, ← List.append_assoc] at hts
      rw [trusted_iff settleMs inputs hsorted hts, List.map_append, List.map_cons, settled_iff]
      refine ⟨hu, (settled_iff.mp hsettled).1.append ?_, ?_⟩
      · rw [List.forall_mem_cons, hq]
        exact ⟨NtpCall.noConfusion, hnone⟩
      · exact h _ _ _ _ _ hinputs.symm hq hsettled hnone hu
    constructor
    · exact htrusted
    · intro earlier r between u later hts hr hbetween hu timeValid connected hanswer
      have hu := htrusted earlier r between u later hts hr hbetween hu
      cases hanswer.symm.trans hu
      rfl

/-- SNTP synchronizes again after an hour, and the main loop comes round half a second later. -/
def resynchronized : List NtpInput :=
  [⟨.synchronizationStarted, 4000⟩, ⟨.synchronizationCompleted, 5000⟩, ⟨.isTrustworthy false, 6000⟩,
    ⟨.synchronizationCompleted, 3605000⟩, ⟨.isTrustworthy false, 3605500⟩]

/-- The counter goes round once. -/
def rolledOver : List NtpInput :=
  [⟨.synchronizationCompleted, 5000⟩, ⟨.isTrustworthy false, 6000⟩,
    ⟨.isTrustworthy false, 4294972796⟩]

theorem trust_lost : ¬ TrustKept (transitions step (constructed 1000) resynchronized) ∧
    ¬ TrustKept (transitions step (constructed 1000) rolledOver) := by
  constructor
  · intro h
    have hlast := h.trusted _ _ [_] _ [] (List.take_append_drop 2 _).symm rfl (by decide) rfl
    exact absurd hlast (by decide)
  · intro h
    have hlast := h.trusted _ _ [] _ [] (List.take_append_drop 1 _).symm rfl (by decide) rfl
    exact absurd hlast (by decide)

theorem rolledOver_trustKept_iff :
    TrustKept (transitions step (constructed 1000) rolledOver) ↔ StaysSettled 1000 rolledOver :=
  trustKept_iff 1000 rolledOver (by decide)

end NtpSyncState
end InterBridge
