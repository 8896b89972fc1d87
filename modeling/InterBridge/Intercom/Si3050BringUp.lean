import InterBridge.Foundations.History
import InterBridge.Intercom.Si3050Controller

namespace InterBridge
open Foundations
set_option autoImplicit true

/-- A call of the controller, with what the clock or the bus answers in it. -/
inductive Si3050Op where
  | initializeSequence (isRunning : Bool)
  | transferRaw (out answer : UInt8)

inductive Si3050Answer where
  | initialized (result : Si3050InitResult)
  | transferred (answer : Option UInt8)
  deriving DecidableEq

abbrev Si3050Transition := Transition Si3050Controller Si3050Op (Si3050Answer × List Si3050Call)

def si3050Step (c : Si3050Controller) :
    Si3050Op → Si3050Controller × Si3050Answer × List Si3050Call
  | .initializeSequence isRunning =>
    let (c, result, calls) := c.initializeSequence isRunning
    (c, .initialized result, calls)
  | .transferRaw out answer =>
    let (answer, calls) := c.transferRaw out answer
    (c, .transferred answer, calls)

def si3050Run (config : Si3050Config) (ops : List Si3050Op) : List Si3050Transition :=
  transitions si3050Step { config } ops

/-- The calls made on the collaborators, over a whole run. -/
def si3050Calls (ts : List Si3050Transition) : List Si3050Call := ts.flatMap fun u => u.output.2

def Si3050Call.IsTransfer : Si3050Call → Prop
  | .transfer _ _ => True
  | _ => False

/-- A call that only a bring-up that succeeds leads to. -/
def Si3050Call.NeedsBringUp (call : Si3050Call) : Prop :=
  call = .setAsserted false ∨ call.IsTransfer

/-- The calls of a bring-up up to the release of /RESET. -/
def untilRelease (config : Si3050Config) (tmr : UInt32) : List Si3050Call :=
  [.setAsserted true, .holdClockIdleHigh, .clockStart config.pclkHz config.fsyncHz,
    .clockIsRunning true, .delayMicroseconds tmr]

/-- The datasheet's order, in the calls a run makes. -/
structure DatasheetOrder (config : Si3050Config) (ts : List Si3050Transition) : Prop where
  /-- /RESET is released only behind a clock that runs, with SCLK high, after ten of its cycles. -/
  release : ∀ earlier later, si3050Calls ts = earlier ++ .setAsserted false :: later →
    ∃ before tmr, earlier = before ++ untilRelease config tmr ∧ ShortestWait 10 config.pclkHz tmr
  /-- The bus is used only after 64 more cycles, and /RESET stays released. -/
  transfer : ∀ earlier out answer later, si3050Calls ts = earlier ++ .transfer out answer :: later →
    ∃ before settle transfers, earlier =
        before ++ .setAsserted false :: .delayMicroseconds settle :: transfers ∧
      ShortestWait 64 config.pclkHz settle ∧ ∀ call ∈ transfers, call.IsTransfer
  /-- A bring-up that fails leaves /RESET asserted and the bus closed. -/
  failed : ∀ u ∈ ts, ∀ result, u.output.1 = .initialized result → result ≠ .ready →
    Since (· ≠ .setAsserted false) (· = .setAsserted true) u.output.2 ∧
      u.after.isReady = false ∧ ∀ out answer, u.after.transferRaw out answer = (none, [])
  /-- Once ready, always ready, and initializing again touches nothing. -/
  kept : ∀ earlier u between w later, ts = earlier ++ u :: (between ++ w :: later) →
    u.output.1 = .initialized .ready → ∀ isRunning, w.input = .initializeSequence isRunning →
    w.output = (.initialized .ready, [])

/-- The calls of a run: nothing that needs the bring-up before it, and only transfers after it. -/
def BroughtUp (config : Si3050Config) (calls : List Si3050Call) (c : Si3050Controller) : Prop :=
  c.config = config ∧
    if c.ready then
      ∃ failed tmr settle transfers, calls = failed ++ untilRelease config tmr ++
          .setAsserted false :: .delayMicroseconds settle :: transfers ∧
        ShortestWait 10 config.pclkHz tmr ∧ ShortestWait 64 config.pclkHz settle ∧
        (∀ call ∈ failed, ¬ call.NeedsBringUp) ∧ ∀ call ∈ transfers, call.IsTransfer
    else ∀ call ∈ calls, ¬ call.NeedsBringUp

theorem not_needsBringUp {call : Si3050Call} (hrelease : call ≠ .setAsserted false)
    (htransfer : ¬ call.IsTransfer) : ¬ call.NeedsBringUp :=
  fun h => h.elim hrelease htransfer

theorem untilRelease_not_needsBringUp (config : Si3050Config) (tmr : UInt32) :
    ∀ call ∈ untilRelease config tmr, ¬ call.NeedsBringUp := by
  intro call hcall
  simp only [untilRelease, List.mem_cons, List.not_mem_nil, or_false] at hcall
  rcases hcall with rfl | rfl | rfl | rfl | rfl <;> exact not_needsBringUp nofun id

/-- The ways a call of `initialize` can go. -/
inductive Initialized (c : Si3050Controller) :
    Si3050Controller × Si3050InitResult × List Si3050Call → Prop
  | already (ready : c.ready = true) : Initialized c (c, .ready, [])
  | failed (idle : c.ready = false) (result : Si3050InitResult) (notReady : result ≠ .ready)
    (calls : List Si3050Call) (closed : ∀ call ∈ calls, ¬ call.NeedsBringUp)
    (asserted : .setAsserted true ∈ calls) : Initialized c (c, result, calls)
  | brought (idle : c.ready = false) (pclk : c.config.pclkHz ≠ 0) :
    Initialized c ({ c with ready := true }, .ready,
      [.busBegin, .setChipSelect false] ++ untilRelease c.config
          (si3050CyclesToMicroseconds kSi3050MinPclkCyclesBeforeResetRelease c.config.pclkHz) ++
        [.setAsserted false, .delayMicroseconds (si3050PllSettleMicroseconds c.config.pclkHz)])

theorem initializeSequence_initialized (c : Si3050Controller) (isRunning : Bool) :
    Initialized c (c.initializeSequence isRunning) := by
  rw [Si3050Controller.initializeSequence]
  cases hready : c.ready with
  | true => exact .already hready
  | false =>
    rw [if_neg Bool.false_ne_true]
    split
    · refine .failed hready .invalidConfig nofun _ ?_ (List.mem_singleton_self _)
      rw [List.forall_mem_singleton]
      exact not_needsBringUp nofun id
    · next hconfig =>
      rw [not_or] at hconfig
      cases isRunning with
      | false =>
        refine .failed hready .clockNotRunning nofun _ ?_ (by simp)
        intro call hcall
        simp only [List.mem_cons, List.not_mem_nil, or_false] at hcall
        rcases hcall with rfl | rfl | rfl | rfl | rfl | rfl <;> exact not_needsBringUp nofun id
      | true => exact .brought hready hconfig.1

theorem si3050Calls_concat (ts : List Si3050Transition) (u : Si3050Transition) :
    si3050Calls (ts ++ [u]) = si3050Calls ts ++ u.output.2 := by
  rw [si3050Calls, List.flatMap_append, List.flatMap_singleton]
  rfl

theorem BroughtUp.initialized (h : BroughtUp config calls c) (hr : Initialized c r) :
    BroughtUp config (calls ++ r.2.2) r.1 := by
  obtain ⟨hconfig, hcalls⟩ := h
  cases hr with
  | already hready =>
    rw [List.append_nil]
    exact ⟨hconfig, hcalls⟩
  | failed hidle result hne more hclosed hasserted =>
    rw [hidle, if_neg Bool.false_ne_true] at hcalls
    refine ⟨hconfig, ?_⟩
    rw [hidle, if_neg Bool.false_ne_true, List.forall_mem_append]
    exact ⟨hcalls, hclosed⟩
  | brought hidle hpclk =>
    rw [hidle, if_neg Bool.false_ne_true] at hcalls
    refine ⟨hconfig, ?_⟩
    rw [hconfig] at hpclk
    rw [if_pos rfl, hconfig]
    have htmr := si3050CyclesToMicroseconds_shortest kSi3050MinPclkCyclesBeforeResetRelease
      (by decide) hpclk
    have hsettle := si3050CyclesToMicroseconds_shortest 64 (by decide) hpclk
    refine ⟨calls ++ [.busBegin, .setChipSelect false], _, _, [], ?_, htmr, hsettle, ?_,
      List.forall_mem_nil _⟩
    · dsimp only [si3050PllSettleMicroseconds]
      rw [List.append_assoc, List.append_assoc, List.append_assoc]
    · rw [List.forall_mem_append]
      refine ⟨hcalls, fun call hcall => ?_⟩
      simp only [List.mem_cons, List.not_mem_nil, or_false] at hcall
      rcases hcall with rfl | rfl <;> exact not_needsBringUp nofun id

theorem BroughtUp.transferRaw (h : BroughtUp config calls c) (out answer : UInt8) :
    BroughtUp config (calls ++ (c.transferRaw out answer).2) c := by
  obtain ⟨hconfig, hcalls⟩ := h
  refine ⟨hconfig, ?_⟩
  rw [Si3050Controller.transferRaw]
  cases hready : c.ready with
  | false =>
    rw [hready] at hcalls
    rw [Bool.not_false, if_pos rfl, List.append_nil]
    exact hcalls
  | true =>
    rw [hready, if_pos rfl] at hcalls
    obtain ⟨failed, tmr, settle, transfers, rfl, htmr, hsettle, hfailed, htransfers⟩ := hcalls
    rw [Bool.not_true, if_neg Bool.false_ne_true, if_pos rfl]
    refine ⟨failed, tmr, settle, transfers ++ [.transfer out answer], ?_, htmr, hsettle, hfailed,
      ?_⟩
    · simp only [List.append_assoc, List.cons_append]
    · rw [List.forall_mem_append, List.forall_mem_singleton]
      exact ⟨htransfers, trivial⟩

theorem broughtUp_run (config : Si3050Config) (ops : List Si3050Op) :
    BroughtUp config (si3050Calls (si3050Run config ops))
      (finalState si3050Step { config } ops) := by
  apply run_induction (motive := fun ts c => BroughtUp config (si3050Calls ts) c)
  · exact ⟨rfl, List.forall_mem_nil _⟩
  · intro ts c op h
    rw [si3050Calls_concat]
    cases op with
    | initializeSequence isRunning =>
      exact h.initialized (initializeSequence_initialized c isRunning)
    | transferRaw out answer => exact h.transferRaw out answer

/-- Where /RESET is released, the run has waited before. -/
theorem BroughtUp.release (h : BroughtUp config calls c)
    (hcalls : calls = earlier ++ .setAsserted false :: later) :
    ∃ before tmr, earlier = before ++ untilRelease config tmr ∧
      ShortestWait 10 config.pclkHz tmr := by
  have hmem : .setAsserted false ∈ calls := by
    rw [hcalls]
    exact List.mem_append_right _ List.mem_cons_self
  obtain ⟨_, h⟩ := h
  split at h
  · obtain ⟨failed, tmr, settle, transfers, hsplit, htmr, _, hfailed, htransfers⟩ := h
    have hbefore : .setAsserted false ∉ failed ++ untilRelease config tmr := by
      intro hrelease
      rcases List.mem_append.mp hrelease with hrelease | hrelease
      · exact hfailed _ hrelease (.inl rfl)
      · exact untilRelease_not_needsBringUp config tmr _ hrelease (.inl rfl)
    have hafter : .setAsserted false ∉ Si3050Call.delayMicroseconds settle :: transfers := by
      intro hrelease
      rcases List.mem_cons.mp hrelease with hrelease | hrelease
      · cases hrelease
      · exact htransfers _ hrelease
    rw [hsplit, List.append_cons_inj_of_notMem hbefore hafter] at hcalls
    exact ⟨failed, tmr, hcalls.1.symm, htmr⟩
  · exact absurd (.inl rfl) (h _ hmem)

/-- The bus is used only when the PLL has settled. -/
theorem BroughtUp.transfer (h : BroughtUp config calls c)
    (hcalls : calls = earlier ++ .transfer out answer :: later) :
    ∃ before settle transfers, earlier =
        before ++ .setAsserted false :: .delayMicroseconds settle :: transfers ∧
      ShortestWait 64 config.pclkHz settle ∧ ∀ call ∈ transfers, call.IsTransfer := by
  have hmem : .transfer out answer ∈ calls := by
    rw [hcalls]
    exact List.mem_append_right _ List.mem_cons_self
  obtain ⟨_, h⟩ := h
  split at h
  · obtain ⟨failed, tmr, settle, transfers, hsplit, _, hsettle, hfailed, htransfers⟩ := h
    have hbefore : .transfer out answer ∉ failed ++ untilRelease config tmr ++
        [.setAsserted false, .delayMicroseconds settle] := by
      intro htransfer
      rcases List.mem_append.mp htransfer with htransfer | htransfer
      · rcases List.mem_append.mp htransfer with htransfer | htransfer
        · exact hfailed _ htransfer (.inr trivial)
        · exact untilRelease_not_needsBringUp config tmr _ htransfer (.inr trivial)
      · simp only [List.mem_cons, reduceCtorEq, List.not_mem_nil, or_self] at htransfer
    have hsplit' : failed ++ untilRelease config tmr ++
        [.setAsserted false, .delayMicroseconds settle] ++ transfers =
        earlier ++ .transfer out answer :: later := by
      rw [← hcalls, hsplit, List.append_assoc]
      rfl
    rcases append_eq_append_cons hsplit' with ⟨rest, hrest, _⟩ | ⟨earlier', rfl, rfl⟩
    · refine absurd ?_ hbefore
      rw [hrest]
      exact List.mem_append_right _ List.mem_cons_self
    · refine ⟨failed ++ untilRelease config tmr, settle, earlier', ?_, hsettle, fun call hcall =>
        htransfers call (List.mem_append_left _ hcall)⟩
      rw [List.append_assoc]
      rfl
  · exact absurd (.inr trivial) (h _ hmem)

theorem si3050Step_ready {c : Si3050Controller} (h : c.ready = true) (op : Si3050Op) :
    (si3050Step c op).1.ready = true := by
  cases op with
  | initializeSequence isRunning =>
    change (c.initializeSequence isRunning).1.ready = true
    rw [Si3050Controller.initializeSequence, if_pos h]
    exact h
  | transferRaw out answer => exact h

theorem ready_kept {c : Si3050Controller} (h : c.ready = true) (ops : List Si3050Op) :
    (finalState si3050Step c ops).ready = true := by
  induction ops generalizing c with
  | nil => exact h
  | cons op ops ih => exact ih (si3050Step_ready h op)

theorem ready_of_initialized {c : Si3050Controller} {op : Si3050Op}
    (h : (si3050Step c op).2.1 = .initialized .ready) : (si3050Step c op).1.ready = true := by
  cases op with
  | initializeSequence isRunning =>
    change Si3050Answer.initialized (c.initializeSequence isRunning).2.1 = _ at h
    change (c.initializeSequence isRunning).1.ready = true
    have hcases := initializeSequence_initialized c isRunning
    generalize c.initializeSequence isRunning = r at h hcases
    cases hcases with
    | already hready => exact hready
    | failed _ result hne => exact absurd (Si3050Answer.initialized.inj h) hne
    | brought => rfl
  | transferRaw out answer => cases h

theorem si3050Step_already {c : Si3050Controller} (h : c.ready = true) (isRunning : Bool) :
    (si3050Step c (.initializeSequence isRunning)).2 = (.initialized .ready, []) := by
  change (Si3050Answer.initialized (c.initializeSequence isRunning).2.1,
    (c.initializeSequence isRunning).2.2) = _
  rw [Si3050Controller.initializeSequence, if_pos h]

theorem failed_of_initialized {c : Si3050Controller} {op : Si3050Op}
    (h : (si3050Step c op).2.1 = .initialized result) (hne : result ≠ .ready) :
    Since (· ≠ .setAsserted false) (· = .setAsserted true) (si3050Step c op).2.2 ∧
      (si3050Step c op).1.isReady = false ∧
      ∀ out answer, (si3050Step c op).1.transferRaw out answer = (none, []) := by
  cases op with
  | initializeSequence isRunning =>
    change Si3050Answer.initialized (c.initializeSequence isRunning).2.1 = _ at h
    change Since _ _ (c.initializeSequence isRunning).2.2 ∧
      (c.initializeSequence isRunning).1.isReady = false ∧ ∀ out answer,
        (c.initializeSequence isRunning).1.transferRaw out answer = (none, [])
    have hcases := initializeSequence_initialized c isRunning
    generalize c.initializeSequence isRunning = r at h hcases
    cases hcases with
    | already => exact absurd (Si3050Answer.initialized.inj h).symm hne
    | failed hidle result hne calls hclosed hasserted =>
      refine ⟨since_of_mem hasserted rfl fun call hcall hrelease => ?_, hidle, fun out answer => ?_⟩
      · exact hclosed call hcall (.inl hrelease)
      · rw [Si3050Controller.transferRaw, hidle]
        rfl
    | brought => exact absurd (Si3050Answer.initialized.inj h).symm hne
  | transferRaw out answer => cases h

/-- Every run keeps the datasheet's order, and its waits are exact. -/
theorem datasheetOrder_run (config : Si3050Config) (ops : List Si3050Op) :
    DatasheetOrder config (si3050Run config ops) ∧
      ∀ pclkHz, 1 ≤ pclkHz → WaitExact kSi3050MinPclkCyclesBeforeResetRelease pclkHz ∧
        WaitExact 64 pclkHz := by
  refine ⟨?_, fun pclkHz hpclk => ?_⟩
  · have hrun := broughtUp_run config ops
    constructor
    · exact fun earlier later hcalls => hrun.release hcalls
    · exact fun earlier out answer later hcalls => hrun.transfer hcalls
    · intro u hu result hresult hne
      obtain ⟨_, op, _, _, rfl⟩ := exists_of_mem_transitions hu
      exact failed_of_initialized hresult hne
    · intro earlier u between w later hts hready isRunning hw
      obtain ⟨_, _, _, _, _, hu, hrest⟩ := transitions_split hts
      obtain ⟨ops₁, op, _, _, _, rfl, _⟩ := transitions_split hrest.symm
      rw [hu] at hready
      have hkept := ready_kept (ready_of_initialized hready) ops₁
      change op = _ at hw
      rw [hw, hu]
      exact si3050Step_already hkept isRunning
  · have hne : pclkHz ≠ 0 := by
      rintro rfl
      exact absurd hpclk (by decide)
    exact ⟨waitExact (by decide) hne, waitExact (by decide) hne⟩

/-- A bring-up against a clock that does not start, one against a clock that does, a transfer. -/
theorem datasheetOrder_retry :
    DatasheetOrder {} (si3050Run {} [.initializeSequence false, .initializeSequence true,
        .transferRaw 1 2]) ∧
      WaitExact kSi3050MinPclkCyclesBeforeResetRelease 1024000 ∧ WaitExact 64 1024000 :=
  ⟨(datasheetOrder_run {} _).1, (datasheetOrder_run {} []).2 1024000 (by decide)⟩

end InterBridge
