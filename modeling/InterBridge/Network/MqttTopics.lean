import InterBridge.Foundations.Json

namespace InterBridge
open Foundations
set_option autoImplicit true

/-- The topic builder with the configuration it was built from. -/
structure MqttTopics where
  deviceId : Bytes
  ingestRuleName : Bytes
  responseRuleName : Bytes
  shadowName : Bytes := ascii "interbridge"
  deriving DecidableEq

namespace MqttTopics

def clientId (deviceId : Bytes) : Bytes := deviceId

def commands (topics : MqttTopics) : Bytes :=
  ascii "interbridge/" ++ topics.deviceId ++ ascii "/commands"

def eventsIngest (topics : MqttTopics) : Bytes :=
  ascii "$aws/rules/" ++ topics.ingestRuleName ++ ascii "/interbridge/" ++ topics.deviceId ++
    ascii "/events"

def healthIngest (topics : MqttTopics) : Bytes :=
  ascii "$aws/rules/" ++ topics.ingestRuleName ++ ascii "/interbridge/" ++ topics.deviceId ++
    ascii "/health"

def responsesIngest (topics : MqttTopics) : Bytes :=
  ascii "$aws/rules/" ++ topics.responseRuleName ++ ascii "/interbridge/" ++ topics.deviceId ++
    ascii "/responses"

def shadowTopic (topics : MqttTopics) (suffix : Bytes) : Bytes :=
  ascii "$aws/things/" ++ topics.deviceId ++ ascii "/shadow/name/" ++ topics.shadowName ++
    ascii "/" ++ suffix

def shadowUpdate (topics : MqttTopics) : Bytes := topics.shadowTopic (ascii "update")

def shadowUpdateAccepted (topics : MqttTopics) : Bytes :=
  topics.shadowTopic (ascii "update/accepted")

def shadowUpdateRejected (topics : MqttTopics) : Bytes :=
  topics.shadowTopic (ascii "update/rejected")

def shadowUpdateDelta (topics : MqttTopics) : Bytes := topics.shadowTopic (ascii "update/delta")

def shadowGet (topics : MqttTopics) : Bytes := topics.shadowTopic (ascii "get")

def shadowGetAccepted (topics : MqttTopics) : Bytes := topics.shadowTopic (ascii "get/accepted")

def shadowGetRejected (topics : MqttTopics) : Bytes := topics.shadowTopic (ascii "get/rejected")

def jobsTopic (topics : MqttTopics) (suffix : Bytes) : Bytes :=
  ascii "$aws/things/" ++ topics.deviceId ++ ascii "/jobs/" ++ suffix

def jobsNotifyNext (topics : MqttTopics) : Bytes := topics.jobsTopic (ascii "notify-next")

def jobsNextGet (topics : MqttTopics) : Bytes := topics.jobsTopic (ascii "$next/get")

def jobsNextGetAccepted (topics : MqttTopics) : Bytes :=
  topics.jobsTopic (ascii "$next/get/accepted")

def jobsNextGetRejected (topics : MqttTopics) : Bytes :=
  topics.jobsTopic (ascii "$next/get/rejected")

def jobsUpdate (topics : MqttTopics) (jobId : Bytes) : Bytes :=
  topics.jobsTopic (jobId ++ ascii "/update")

def jobsUpdateAccepted (topics : MqttTopics) (jobId : Bytes) : Bytes :=
  topics.jobsTopic (jobId ++ ascii "/update/accepted")

def jobsUpdateRejected (topics : MqttTopics) (jobId : Bytes) : Bytes :=
  topics.jobsTopic (jobId ++ ascii "/update/rejected")

def fleetProvisioningCreateCertFromCsr : Bytes := ascii "$aws/certificates/create-from-csr/json"

def fleetProvisioningCreateCertFromCsrAccepted : Bytes :=
  ascii "$aws/certificates/create-from-csr/json/accepted"

def fleetProvisioningCreateCertFromCsrRejected : Bytes :=
  ascii "$aws/certificates/create-from-csr/json/rejected"

/-- The topics of a provisioning template; `templateName` is its name in the configuration. -/
def fleetProvisioningRegisterThing (templateName : Bytes) : Bytes :=
  if templateName.isEmpty then []
  else ascii "$aws/provisioning-templates/" ++ templateName ++ ascii "/provision/json"

def fleetProvisioningRegisterThingAccepted (templateName : Bytes) : Bytes :=
  if templateName.isEmpty then []
  else ascii "$aws/provisioning-templates/" ++ templateName ++ ascii "/provision/json/accepted"

def fleetProvisioningRegisterThingRejected (templateName : Bytes) : Bytes :=
  if templateName.isEmpty then []
  else ascii "$aws/provisioning-templates/" ++ templateName ++ ascii "/provision/json/rejected"

end MqttTopics
end InterBridge
