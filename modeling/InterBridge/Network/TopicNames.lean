import InterBridge.Foundations.PathPatterns
import InterBridge.Network.MqttTopics
import InterBridge.Network.MqttTransport

namespace InterBridge
open Foundations
set_option autoImplicit true

namespace MqttTopics

theorem ne_of_suffixes {topic topic' ending ending' : Bytes} (h : ending <:+ topic)
    (h' : ending' <:+ topic') (hne : ¬ ending <:+ ending' ∧ ¬ ending' <:+ ending) :
    topic ≠ topic' := by
  rintro rfl
  exact (List.suffix_or_suffix_of_suffix h h').elim hne.1 hne.2

theorem eventsIngest_suffix (topics : MqttTopics) : ascii "/events" <:+ topics.eventsIngest :=
  List.suffix_append _ _

/-- Whatever the device and the rules are called, only events go to the events topic. -/
theorem healthIngest_ne_eventsIngest (topics : MqttTopics) :
    topics.healthIngest ≠ topics.eventsIngest :=
  ne_of_suffixes (List.suffix_append _ (ascii "/health")) topics.eventsIngest_suffix (by decide)

theorem responsesIngest_ne_eventsIngest (topics : MqttTopics) :
    topics.responsesIngest ≠ topics.eventsIngest :=
  ne_of_suffixes (List.suffix_append _ (ascii "/responses")) topics.eventsIngest_suffix
    (by decide)

theorem shadowUpdate_ne_eventsIngest (topics : MqttTopics) :
    topics.shadowUpdate ≠ topics.eventsIngest :=
  ne_of_suffixes (List.suffix_append _ (ascii "update")) topics.eventsIngest_suffix (by decide)

theorem responsesIngest_ne_healthIngest (topics : MqttTopics) :
    topics.responsesIngest ≠ topics.healthIngest :=
  ne_of_suffixes (List.suffix_append _ (ascii "/responses"))
    (List.suffix_append _ (ascii "/health")) (by decide)

theorem shadowUpdate_ne_healthIngest (topics : MqttTopics) :
    topics.shadowUpdate ≠ topics.healthIngest :=
  ne_of_suffixes (List.suffix_append _ (ascii "update")) (List.suffix_append _ (ascii "/health"))
    (by decide)

end MqttTopics

/-- The names a topic is built from. -/
inductive TopicPlace where
  | deviceId | ingestRuleName | responseRuleName | shadowName | jobId | templateName
  deriving DecidableEq

/-- The topics there are. -/
inductive TopicName where
  | commands | eventsIngest | healthIngest | responsesIngest
  | shadowUpdate | shadowUpdateAccepted | shadowUpdateRejected | shadowUpdateDelta
  | shadowGet | shadowGetAccepted | shadowGetRejected
  | jobsNotifyNext | jobsNextGet | jobsNextGetAccepted | jobsNextGetRejected
  | jobsUpdate | jobsUpdateAccepted | jobsUpdateRejected
  | fleetProvisioningCreateCertFromCsr | fleetProvisioningCreateCertFromCsrAccepted
  | fleetProvisioningCreateCertFromCsrRejected | fleetProvisioningRegisterThing
  | fleetProvisioningRegisterThingAccepted | fleetProvisioningRegisterThingRejected
  deriving DecidableEq

namespace TopicName

/-- How a topic is put together. -/
def pattern : TopicName → List (Segment Bytes TopicPlace)
  | commands => [.given (ascii "interbridge"), .place .deviceId, .given (ascii "commands")]
  | eventsIngest => ingest .ingestRuleName (ascii "events")
  | healthIngest => ingest .ingestRuleName (ascii "health")
  | responsesIngest => ingest .responseRuleName (ascii "responses")
  | shadowUpdate => shadow [ascii "update"]
  | shadowUpdateAccepted => shadow [ascii "update", ascii "accepted"]
  | shadowUpdateRejected => shadow [ascii "update", ascii "rejected"]
  | shadowUpdateDelta => shadow [ascii "update", ascii "delta"]
  | shadowGet => shadow [ascii "get"]
  | shadowGetAccepted => shadow [ascii "get", ascii "accepted"]
  | shadowGetRejected => shadow [ascii "get", ascii "rejected"]
  | jobsNotifyNext => jobs [.given (ascii "notify-next")]
  | jobsNextGet => jobs [.given (ascii "$next"), .given (ascii "get")]
  | jobsNextGetAccepted =>
    jobs [.given (ascii "$next"), .given (ascii "get"), .given (ascii "accepted")]
  | jobsNextGetRejected =>
    jobs [.given (ascii "$next"), .given (ascii "get"), .given (ascii "rejected")]
  | jobsUpdate => jobs [.place .jobId, .given (ascii "update")]
  | jobsUpdateAccepted =>
    jobs [.place .jobId, .given (ascii "update"), .given (ascii "accepted")]
  | jobsUpdateRejected =>
    jobs [.place .jobId, .given (ascii "update"), .given (ascii "rejected")]
  | fleetProvisioningCreateCertFromCsr => certificates []
  | fleetProvisioningCreateCertFromCsrAccepted => certificates [ascii "accepted"]
  | fleetProvisioningCreateCertFromCsrRejected => certificates [ascii "rejected"]
  | fleetProvisioningRegisterThing => templates []
  | fleetProvisioningRegisterThingAccepted => templates [ascii "accepted"]
  | fleetProvisioningRegisterThingRejected => templates [ascii "rejected"]
where
  ingest (rule : TopicPlace) (last : Bytes) : List (Segment Bytes TopicPlace) :=
    [.given (ascii "$aws"), .given (ascii "rules"), .place rule, .given (ascii "interbridge"),
      .place .deviceId, .given last]
  shadow (suffix : List Bytes) : List (Segment Bytes TopicPlace) :=
    [.given (ascii "$aws"), .given (ascii "things"), .place .deviceId, .given (ascii "shadow"),
      .given (ascii "name"), .place .shadowName] ++ suffix.map .given
  jobs (suffix : List (Segment Bytes TopicPlace)) : List (Segment Bytes TopicPlace) :=
    [.given (ascii "$aws"), .given (ascii "things"), .place .deviceId, .given (ascii "jobs")] ++
      suffix
  certificates (suffix : List Bytes) : List (Segment Bytes TopicPlace) :=
    [.given (ascii "$aws"), .given (ascii "certificates"), .given (ascii "create-from-csr"),
      .given (ascii "json")] ++ suffix.map .given
  templates (suffix : List Bytes) : List (Segment Bytes TopicPlace) :=
    [.given (ascii "$aws"), .given (ascii "provisioning-templates"), .place .templateName,
      .given (ascii "provision"), .given (ascii "json")] ++ suffix.map .given

def all : List TopicName :=
  [commands, eventsIngest, healthIngest, responsesIngest, shadowUpdate, shadowUpdateAccepted,
    shadowUpdateRejected, shadowUpdateDelta, shadowGet, shadowGetAccepted, shadowGetRejected,
    jobsNotifyNext, jobsNextGet, jobsNextGetAccepted, jobsNextGetRejected, jobsUpdate,
    jobsUpdateAccepted, jobsUpdateRejected, fleetProvisioningCreateCertFromCsr,
    fleetProvisioningCreateCertFromCsrAccepted, fleetProvisioningCreateCertFromCsrRejected,
    fleetProvisioningRegisterThing, fleetProvisioningRegisterThingAccepted,
    fleetProvisioningRegisterThingRejected]

theorem mem_all (name : TopicName) : name ∈ all := by
  cases name with
  | _ => decide

/-- No two topics are ever the same, whatever is filled in. -/
theorem pattern_clash (i j : TopicName) (h : i ≠ j) : clash i.pattern j.pattern = true := by
  have hall : ∀ i ∈ all, ∀ j ∈ all, i ≠ j → clash i.pattern j.pattern = true := by
    decide +kernel
  exact hall i (mem_all i) j (mem_all j) h

theorem given_unbroken (name : TopicName) (text : Bytes) (h : .given text ∈ name.pattern) :
    47 ∉ text := by
  have hall : ∀ name ∈ all, ∀ segment ∈ name.pattern,
      47 ∉ Segment.fill (fun _ : TopicPlace => []) segment := by
    decide +kernel
  exact hall name (mem_all name) _ h

theorem pattern_headed (name : TopicName) :
    ∃ text rest, name.pattern = .given text :: rest ∧ text ≠ [] := by
  cases name with
  | _ => exact ⟨_, _, rfl, by decide⟩

theorem pattern_ne_nil (name : TopicName) : name.pattern ≠ [] := by
  obtain ⟨text, rest, hpattern, _⟩ := name.pattern_headed
  rw [hpattern]
  exact List.cons_ne_nil _ _

end TopicName

/-- The configuration of the topics with the names that are not part of it here: the job's, and the
provisioning template's. -/
structure NamedTopics extends MqttTopics where
  jobId : Bytes
  templateName : Bytes

namespace NamedTopics

/-- The topic that its builder returns. -/
def topic (topics : NamedTopics) : TopicName → Bytes
  | .commands => topics.commands
  | .eventsIngest => topics.eventsIngest
  | .healthIngest => topics.healthIngest
  | .responsesIngest => topics.responsesIngest
  | .shadowUpdate => topics.shadowUpdate
  | .shadowUpdateAccepted => topics.shadowUpdateAccepted
  | .shadowUpdateRejected => topics.shadowUpdateRejected
  | .shadowUpdateDelta => topics.shadowUpdateDelta
  | .shadowGet => topics.shadowGet
  | .shadowGetAccepted => topics.shadowGetAccepted
  | .shadowGetRejected => topics.shadowGetRejected
  | .jobsNotifyNext => topics.jobsNotifyNext
  | .jobsNextGet => topics.jobsNextGet
  | .jobsNextGetAccepted => topics.jobsNextGetAccepted
  | .jobsNextGetRejected => topics.jobsNextGetRejected
  | .jobsUpdate => topics.jobsUpdate topics.jobId
  | .jobsUpdateAccepted => topics.jobsUpdateAccepted topics.jobId
  | .jobsUpdateRejected => topics.jobsUpdateRejected topics.jobId
  | .fleetProvisioningCreateCertFromCsr => MqttTopics.fleetProvisioningCreateCertFromCsr
  | .fleetProvisioningCreateCertFromCsrAccepted =>
    MqttTopics.fleetProvisioningCreateCertFromCsrAccepted
  | .fleetProvisioningCreateCertFromCsrRejected =>
    MqttTopics.fleetProvisioningCreateCertFromCsrRejected
  | .fleetProvisioningRegisterThing =>
    MqttTopics.fleetProvisioningRegisterThing topics.templateName
  | .fleetProvisioningRegisterThingAccepted =>
    MqttTopics.fleetProvisioningRegisterThingAccepted topics.templateName
  | .fleetProvisioningRegisterThingRejected =>
    MqttTopics.fleetProvisioningRegisterThingRejected topics.templateName

def value (topics : NamedTopics) : TopicPlace → Bytes
  | .deviceId => topics.deviceId
  | .ingestRuleName => topics.ingestRuleName
  | .responseRuleName => topics.responseRuleName
  | .shadowName => topics.shadowName
  | .jobId => topics.jobId
  | .templateName => topics.templateName

theorem topic_eq_fillPath (topics : NamedTopics) {name : TopicName}
    (htemplate : .place .templateName ∈ name.pattern → topics.templateName ≠ []) :
    topics.topic name = fillPath 47 topics.value name.pattern := by
  cases name with
  | fleetProvisioningRegisterThing | fleetProvisioningRegisterThingAccepted
  | fleetProvisioningRegisterThingRejected =>
    have hnamed : topics.templateName.isEmpty = false :=
      List.isEmpty_eq_false_iff.mpr (htemplate (by decide))
    simp only [topic, MqttTopics.fleetProvisioningRegisterThing,
      MqttTopics.fleetProvisioningRegisterThingAccepted,
      MqttTopics.fleetProvisioningRegisterThingRejected, hnamed, Bool.false_eq_true, if_false,
      fillPath, TopicName.pattern, TopicName.pattern.templates, List.map_cons, List.map_nil,
      List.cons_append, List.nil_append, Segment.fill, value, List.intercalate_cons_cons,
      List.intercalate_singleton, List.append_assoc]
    rfl
  | _ =>
    simp only [topic, MqttTopics.commands, MqttTopics.eventsIngest, MqttTopics.healthIngest,
      MqttTopics.responsesIngest, MqttTopics.shadowUpdate, MqttTopics.shadowUpdateAccepted,
      MqttTopics.shadowUpdateRejected, MqttTopics.shadowUpdateDelta, MqttTopics.shadowGet,
      MqttTopics.shadowGetAccepted, MqttTopics.shadowGetRejected, MqttTopics.shadowTopic,
      MqttTopics.jobsNotifyNext, MqttTopics.jobsNextGet, MqttTopics.jobsNextGetAccepted,
      MqttTopics.jobsNextGetRejected, MqttTopics.jobsUpdate, MqttTopics.jobsUpdateAccepted,
      MqttTopics.jobsUpdateRejected, MqttTopics.jobsTopic, fillPath, TopicName.pattern,
      TopicName.pattern.ingest, TopicName.pattern.shadow, TopicName.pattern.jobs,
      TopicName.pattern.certificates, List.map_cons, List.map_nil, List.cons_append,
      List.nil_append, Segment.fill, value, List.intercalate_cons_cons,
      List.intercalate_singleton, List.append_assoc]
    rfl

/-- The only topics there are none of are those of a template without a name. -/
theorem topic_eq_nil_iff (topics : NamedTopics) (name : TopicName) :
    topics.topic name = [] ↔
      .place .templateName ∈ name.pattern ∧ topics.templateName = [] := by
  constructor
  · intro hnil
    by_contra hnamed
    obtain ⟨text, rest, hpattern, htext⟩ := name.pattern_headed
    rw [topic_eq_fillPath topics fun huses hempty => hnamed ⟨huses, hempty⟩, hpattern] at hnil
    exact fillPath_ne_nil htext _ _ _ hnil
  · intro hunnamed
    obtain ⟨huses, hempty⟩ := hunnamed
    have hisEmpty : topics.templateName.isEmpty = true := List.isEmpty_iff.mpr hempty
    cases name with
    | fleetProvisioningRegisterThing | fleetProvisioningRegisterThingAccepted
    | fleetProvisioningRegisterThingRejected => exact if_pos hisEmpty
    | _ => exact absurd huses (by decide)

end NamedTopics

theorem slash_notMem_of_validDeviceId {id : Bytes}
    (h : Esp32AwsIotTransport.validDeviceId id = true) : 47 ∉ id := by
  rw [Esp32AwsIotTransport.validDeviceId] at h
  split at h
  · exact absurd h Bool.false_ne_true
  next hshape =>
    rw [Bool.or_eq_true, decide_eq_true_iff, decide_eq_true_iff, not_or, not_not, not_not]
      at hshape
    rw [← List.take_append_drop 3 id, hshape.2, List.mem_append, not_or]
    exact ⟨by decide, fun hmem => absurd (List.all_eq_true.mp h _ hmem) (by decide)⟩

/-- The names are what a topic can be built from: the device's id is one that a session may be
opened with, and no other name has a separator in it. -/
structure NamedTopics.Proper (topics : NamedTopics) : Prop where
  deviceId : Esp32AwsIotTransport.validDeviceId topics.deviceId = true
  names : ∀ place, place ≠ .deviceId → 47 ∉ topics.value place

/-- Over all configurations: there is every topic but the three of a template without a name; and
a topic that there is shows which one it is, and every name it was built from. So no two devices
share one, those of fleet provisioning apart, and no message can be taken for one of another
kind. -/
theorem topic_injective {topics topics' : NamedTopics} (h : topics.Proper) (h' : topics'.Proper)
    (name name' : TopicName) :
    (topics.topic name = [] ↔ .place .templateName ∈ name.pattern ∧ topics.templateName = []) ∧
      (topics.topic name ≠ [] → topics.topic name = topics'.topic name' →
        name = name' ∧ ∀ place, .place place ∈ name.pattern →
          topics.value place = topics'.value place) := by
  refine ⟨topics.topic_eq_nil_iff name, fun hne heq => ?_⟩
  have hunbroken {proper : NamedTopics} (hproper : proper.Proper) (name : TopicName) :
      Unbroken 47 proper.value name.pattern := by
    apply Unbroken.of_values _ (TopicName.given_unbroken name)
    intro place
    by_cases hplace : place = .deviceId
    · rw [hplace]
      exact slash_notMem_of_validDeviceId hproper.deviceId
    · exact hproper.names place hplace
  have hne' : topics'.topic name' ≠ [] := heq ▸ hne
  rw [Ne, NamedTopics.topic_eq_nil_iff] at hne hne'
  rw [topics.topic_eq_fillPath fun huses hempty => hne ⟨huses, hempty⟩,
    topics'.topic_eq_fillPath fun huses hempty => hne' ⟨huses, hempty⟩] at heq
  exact fillPath_injective TopicName.pattern_clash (hunbroken h name) (hunbroken h' name')
    (TopicName.pattern_ne_nil name) (TopicName.pattern_ne_nil name') heq

/-- A device with the names of the bench environment, which has no template. -/
def benchTopics (deviceId : Bytes) : NamedTopics where
  deviceId := deviceId
  ingestRuleName := ascii "interbridge_dev_ingest_rule"
  responseRuleName := ascii "interbridge_dev_response_rule"
  jobId := ascii "job-1"
  templateName := []

theorem benchTopics_proper {deviceId : Bytes}
    (h : Esp32AwsIotTransport.validDeviceId deviceId = true) : (benchTopics deviceId).Proper := by
  refine ⟨h, fun place hplace => ?_⟩
  cases place with
  | deviceId => exact absurd rfl hplace
  | templateName => exact List.not_mem_nil
  | _ =>
    change 47 ∉ ascii _
    decide

/-- The shadow's name does not show in where the events go, but the device does. -/
theorem benchTopics_injective :
    let deviceId := ascii "ib-0123456789abcdef0123456789abcdef"
    let renamed : NamedTopics := { benchTopics deviceId with shadowName := ascii "other" }
    TopicName.eventsIngest = TopicName.eventsIngest ∧
      ∀ place, .place place ∈ TopicName.eventsIngest.pattern →
        (benchTopics deviceId).value place = renamed.value place :=
  (topic_injective (benchTopics_proper (by decide))
    ⟨by decide, fun place _ => by cases place with | _ => decide⟩ .eventsIngest
    .eventsIngest).2 (by decide) rfl

end InterBridge
