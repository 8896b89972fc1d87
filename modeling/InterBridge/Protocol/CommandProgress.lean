import InterBridge.Protocol.ProcessorEffects

namespace InterBridge
open Foundations
set_option autoImplicit true

namespace RemoteCommandProcessor

/-- What happened to `p` happened to `q` too. -/
structure Continues (p q : RemoteCommandProcessor τ δ) : Prop where
  deviceId : q.deviceId = p.deviceId
  topics : q.topics = p.topics
  log : p.log <+: q.log

/-- From `p` to `q` messages may have arrived, and the log goes on. -/
structure OnlyArrived (p q : RemoteCommandProcessor τ δ) : Prop where
  received : OnlyReceived p q
  log : p.log <+: q.log

/-- Every payload of `target` was started, the commands among them were handled, and all that they
were owed was published. -/
structure Answered [ArduinoJson] (target : List Bytes) (p : RemoteCommandProcessor τ δ) :
    Prop where
  started : target <+: p.startedPayloads
  published : ∃ handled, handled <+: p.handledCommands ∧
    handled.map Prod.fst =
      target.filterMap (fun payload => (parseCommand payload p.deviceId).command) ∧
    (handled.flatMap fun h => h.2.messages p.topics) <+: p.publishedMessages

/-- The payloads of `target` arrived, and `n` calls are enough to answer those that still wait. -/
structure Within [ArduinoJson] (target : List Bytes) (n : Nat) (p : RemoteCommandProcessor τ δ) :
    Prop where
  delivered : p.Delivered
  arrived : target <+: p.acceptedPayloads
  answered : p.Answered target ∨ ∃ waiting, target = p.startedPayloads ++ waiting ∧
    2 * waiting.length + p.outbox.length ≤ n

namespace Continues
variable {p q r : RemoteCommandProcessor τ δ}

theorem refl (p : RemoteCommandProcessor τ δ) : Continues p p := ⟨rfl, rfl, List.prefix_rfl⟩

theorem trans (h : Continues p q) (h' : Continues q r) : Continues p r :=
  ⟨h'.deviceId.trans h.deviceId, h'.topics.trans h.topics, h.log.trans h'.log⟩

theorem of_keeps (h : Keeps p q) (hlog : q.log = p.log ++ events) : Continues p q :=
  ⟨h.deviceId, h.topics, hlog ▸ List.prefix_append _ _⟩

theorem accepted (h : Continues p q) : p.acceptedPayloads <+: q.acceptedPayloads := by
  rw [acceptedPayloads, acceptedPayloads, h.topics]
  exact h.log.filterMap _

theorem answered [ArduinoJson] (h : Continues p q) (hanswered : p.Answered target) :
    q.Answered target := by
  obtain ⟨hstarted, handled, hhandled, hparsed, hpublished⟩ := hanswered
  refine ⟨hstarted.trans (h.log.filterMap _), handled, hhandled.trans (h.log.filterMap _), ?_, ?_⟩
  · rw [h.deviceId]
    exact hparsed
  · rw [h.topics]
    exact hpublished.trans (h.log.filterMap _)

theorem of_effect [ArduinoJson] (h : Effect p q) : Continues p q := by
  cases h with
  | arrived _ harrived => exact of_keeps harrived.keeps harrived.log
  | drained _ _ _ _ hkeeps _ _ hlog => exact of_keeps hkeeps hlog
  | invalid _ _ hstarted => exact of_keeps hstarted.keeps hstarted.log
  | accepted _ _ _ _ _ _ _ _ _ hstarted => exact of_keeps hstarted.keeps hstarted.log
  | terminal _ _ _ _ _ _ _ _ hstarted => exact of_keeps hstarted.keeps hstarted.log

end Continues

namespace OnlyArrived
variable {p q r : RemoteCommandProcessor τ δ}

theorem refl (p : RemoteCommandProcessor τ δ) : OnlyArrived p p := ⟨.refl p, List.prefix_rfl⟩

theorem trans (h : OnlyArrived p q) (h' : OnlyArrived q r) : OnlyArrived p r :=
  ⟨h.received.trans h'.received, h.log.trans h'.log⟩

theorem returned (p : RemoteCommandProcessor τ δ) (reply : TransportReply τ) :
    OnlyArrived p (p.returned reply) := by
  obtain ⟨events, harrived⟩ := Arrived.returned p reply
  exact ⟨.returned p reply, harrived.log ▸ List.prefix_append _ _⟩

theorem continues (h : OnlyArrived p q) : Continues p q :=
  ⟨h.received.deviceId, h.received.topics, h.log⟩

end OnlyArrived

section Served
variable [IDeviceTransport τ]

/-- Whatever is published now goes through. -/
def Publishes (transport : τ) : Prop :=
  ∀ message qos, (IDeviceTransport.publish transport message qos).ok = true

theorem drainOutbox_published {p : RemoteCommandProcessor τ δ} (h : Publishes p.transport) :
    p.drainOutbox.outbox = p.outbox.tail ∧ p.drainOutbox.startedPayloads = p.startedPayloads := by
  rw [drainOutbox]
  split
  next hout =>
    rw [hout, List.tail_nil]
    exact ⟨rfl, rfl⟩
  next front rest hout =>
    obtain ⟨q, ok, hq, he⟩ := publish_eq p front.message front.qos
    have hok : ok = true := by
      rw [← h front.message front.qos]
      exact (congrArg Prod.snd he).symm
    have hstarted : (q.note (.published front.message true)).startedPayloads = p.startedPayloads :=
      (note_startedPayloads q _).trans ((List.append_nil _).trans hq.started)
    rw [he, hok]
    dsimp only
    rw [Bool.not_true, if_neg Bool.false_ne_true]
    refine ⟨?_, (OnlyReceived.diagnose _ _).started.trans hstarted⟩
    rw [diagnose_eq]
    exact congrArg List.tail hq.outbox

theorem publishOrQueue_published {p : RemoteCommandProcessor τ δ} (h : Publishes p.transport)
    (entry : PendingResponse) : (p.publishOrQueue entry).1.outbox = p.outbox := by
  obtain ⟨q, ok, hq, he⟩ := publish_eq p entry.message entry.qos
  have hok : ok = true := by
    rw [← h entry.message entry.qos]
    exact (congrArg Prod.snd he).symm
  rw [publishOrQueue, he, hok]
  exact hq.outbox

omit [IDeviceTransport τ] in
theorem enqueue_length (p : RemoteCommandProcessor τ δ) (entry : PendingResponse) :
    (p.enqueue entry).1.outbox.length ≤ p.outbox.length + 1 := by
  rw [enqueue]
  split
  · exact Nat.le_succ _
  · exact Nat.le_of_eq List.length_append

variable [ArduinoJson]

/-- Of the responses to a command at most the last is left for later. -/
theorem respond_published {p : RemoteCommandProcessor τ δ} (h : Publishes p.transport)
    (hempty : p.outbox = []) (responses : CommandResponses) (seq : UInt32) :
    (p.respond responses seq).1.outbox.length ≤ 1 := by
  have hdecided : Publishes (p.diagnoseDecision responses seq).transport := by
    rw [diagnoseDecision_eq]
    exact h
  have hout : (p.diagnoseDecision responses seq).outbox = [] := by
    rw [diagnoseDecision_eq]
    exact hempty
  rw [respond]
  split
  · rw [respondAccepted]
    dsimp only
    rw [diagnose_eq, diagnose_eq]
    refine Nat.le_trans (enqueue_length _ _) (Nat.succ_le_succ ?_)
    dsimp only
    rw [publishOrQueue_published hdecided, hout]
    exact Nat.le_refl _
  · rw [respondTerminal]
    dsimp only
    rw [diagnose_eq]
    dsimp only
    rw [publishOrQueue_published hdecided, hout]
    exact Nat.zero_le _

variable [IDedupCache δ]

theorem processPayload_published {p : RemoteCommandProcessor τ δ} (h : Publishes p.transport)
    (hempty : p.outbox = []) (clock : ClockAnswers) (payload : Bytes) :
    (p.processPayload clock payload).1.outbox.length ≤ 1 ∧
      (p.processPayload clock payload).1.startedPayloads = p.startedPayloads := by
  rw [processPayload]
  split
  next =>
    refine ⟨?_, (OnlyReceived.diagnose _ _).started⟩
    rw [diagnose_eq]
    exact Nat.le_trans (Nat.le_of_eq (congrArg List.length hempty)) (Nat.zero_le _)
  next command _ =>
    dsimp only
    refine ⟨?_, ?_⟩
    · apply respond_published
      · exact h
      · exact hempty
    · refine (Answers.respond _ _ _ ?_).started.trans ?_
      · exact hempty
      · exact (note_startedPayloads _ _).trans (List.append_nil _)

end Served

namespace Within
variable [ArduinoJson] {p q : RemoteCommandProcessor τ δ}

theorem start (h : p.Delivered) :
    Within p.acceptedPayloads (p.outbox.length + 2 * p.pendingPayloads.length) p :=
  ⟨h, List.prefix_rfl, .inr ⟨p.pendingPayloads, h.arrivals, Nat.le_of_eq (Nat.add_comm _ _)⟩⟩

theorem mono (h : Within target n p) (hle : n ≤ n') : Within target n' p := by
  refine ⟨h.delivered, h.arrived, ?_⟩
  rcases h.answered with hanswered | ⟨waiting, hwaiting, hwork⟩
  · exact .inl hanswered
  · exact .inr ⟨waiting, hwaiting, Nat.le_trans hwork hle⟩

theorem arrive (h : Within target n p) (harrived : OnlyArrived p q) : Within target n q := by
  refine ⟨harrived.received.delivered h.delivered,
    h.arrived.trans harrived.continues.accepted, ?_⟩
  rcases h.answered with hanswered | ⟨waiting, hwaiting, hle⟩
  · exact .inl (harrived.continues.answered hanswered)
  · refine .inr ⟨waiting, ?_, ?_⟩
    · rw [harrived.received.started]
      exact hwaiting
    · rw [harrived.received.outbox]
      exact hle

theorem done (h : p.Delivered) (hout : p.outbox = []) : p.Answered p.startedPayloads := by
  refine ⟨List.prefix_rfl, p.handledCommands, List.prefix_rfl, h.handled, ?_⟩
  have hresponses := h.responses
  rw [outboxMessages, hout, List.map_nil, List.append_nil] at hresponses
  rw [hresponses]

theorem zero (h : Within target 0 p) : p.Answered target := by
  rcases h.answered with hanswered | ⟨waiting, hwaiting, hle⟩
  · exact hanswered
  · have hnone : waiting = [] := List.length_eq_zero_iff.mp (by omega)
    have hout : p.outbox = [] := List.length_eq_zero_iff.mp (by omega)
    rw [hwaiting, hnone, List.append_nil]
    exact done h.delivered hout

variable [IDeviceTransport τ] [IDedupCache δ]

theorem processPending (h : Within target (n + 1) p) (hpublishes : Publishes p.transport)
    (clock : ClockAnswers) : Within target n (p.processPending clock) := by
  have hcontinues := Continues.of_effect (p.processPending_effect clock)
  refine ⟨h.delivered.processPending clock, h.arrived.trans hcontinues.accepted, ?_⟩
  rcases h.answered with hanswered | ⟨waiting, hwaiting, hle⟩
  · exact .inl (hcontinues.answered hanswered)
  by_cases hout : p.outbox = []
  · cases waiting with
    | nil =>
      rw [List.append_nil] at hwaiting
      rw [hwaiting]
      exact .inl (hcontinues.answered (done h.delivered hout))
    | cons payload waiting =>
      have hpending : payload :: waiting <+: p.pendingPayloads := by
        have harrived := h.arrived
        rw [hwaiting, h.delivered.arrivals] at harrived
        exact (List.prefix_append_right_inj _).mp harrived
      obtain ⟨rest, hrest⟩ := hpending
      have htaken : ({ p with pendingPayloads := waiting ++ rest }.note
          (.started payload)).startedPayloads = p.startedPayloads ++ [payload] :=
        note_startedPayloads _ _
      obtain ⟨hone, hstarted⟩ := processPayload_published
        (p := { p with pendingPayloads := waiting ++ rest }.note (.started payload)) hpublishes
        hout clock payload
      rw [RemoteCommandProcessor.processPending, if_neg (not_not.mpr hout), ← hrest]
      refine .inr ⟨waiting, ?_, ?_⟩
      · refine hwaiting.trans ?_
        rw [← List.singleton_append, ← List.append_assoc, ← htaken, ← hstarted]
        rfl
      · rw [List.length_cons] at hle
        refine Nat.le_trans (Nat.add_le_add_left hone _) ?_
        omega
  · obtain ⟨hshorter, hstarted⟩ := drainOutbox_published hpublishes
    have hpositive := List.length_pos_iff.mpr hout
    rw [RemoteCommandProcessor.processPending, if_pos hout]
    refine .inr ⟨waiting, ?_, ?_⟩
    · rw [hstarted]
      exact hwaiting
    · rw [hshorter, List.length_tail]
      omega

end Within
end RemoteCommandProcessor
end InterBridge
