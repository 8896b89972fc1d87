import InterBridge.Foundations.Transitions
import InterBridge.Foundations.WrappingClock
import InterBridge.Foundations.BoundedFifo
import InterBridge.Foundations.PathPatterns
import InterBridge.Foundations.SignedArithmetic
import InterBridge.Storage.PersistentStore
import InterBridge.Protocol.ArduinoJson
import InterBridge.Protocol.Messages
import InterBridge.Protocol.ParseCommand
import InterBridge.Protocol.CommandCache
import InterBridge.Protocol.CommandHandler
import InterBridge.Protocol.DedupReplay
import InterBridge.Protocol.AtMostOnceAcceptance
import InterBridge.Network.DeviceTransport
import InterBridge.Network.MqttTopics
import InterBridge.Protocol.RemoteCommandProcessor
import InterBridge.Protocol.ResponseDelivery
import InterBridge.Hardware.Button
import InterBridge.Hardware.ButtonHold
import InterBridge.Network.Wifi
import InterBridge.Provisioning.FleetProvisioning
import InterBridge.Provisioning.ProvisioningManager
import InterBridge.Provisioning.StoredConfiguration
import InterBridge.Provisioning.ConfigurationKept
import InterBridge.Provisioning.NeverProvisioned
import InterBridge.Network.MqttTransport
import InterBridge.Core.StateMachine
import InterBridge.MainLoop.UpdateNetwork
import InterBridge.MainLoop.ReconnectGate
import InterBridge.Network.BrokenOff
import InterBridge.MainLoop.ReconnectStorm
import InterBridge.Core.RandomId
import InterBridge.Core.CallFlow
import InterBridge.Dev.DevRingButton
import InterBridge.Dev.DevRingEvent
import InterBridge.Foundations.FifoDelivery
import InterBridge.Dev.OutboxDelivery
import InterBridge.Dev.SessionOrder
import InterBridge.Network.BrokenSession
import InterBridge.Network.InboundSessions
import InterBridge.MainLoop.OutboxFlush
import InterBridge.MainLoop.Subscription
import InterBridge.Dev.MqttSmokeState
import InterBridge.Dev.SmokeSteps
import InterBridge.Dev.SmokeProgress
import InterBridge.Dev.SmokeReconnect
import InterBridge.Dev.SmokeGates
import InterBridge.Dev.SmokeAttempts
import InterBridge.Dev.SmokeRollover
import InterBridge.Dev.SmokeRecovery
import InterBridge.Hardware.NtpSyncState
import InterBridge.Ota.FirmwareVersion
import InterBridge.Ota.OtaManager
import InterBridge.Aws.Jobs
import InterBridge.Aws.VerifiedInstall
import InterBridge.Protocol.PersistentOutbox
import InterBridge.Protocol.AttributableCommands
import InterBridge.Provisioning.DeviceIdentity
import InterBridge.Provisioning.FactoryResetCoordinator
import InterBridge.Provisioning.OperationWrites
import InterBridge.MainLoop.Device
import InterBridge.MainLoop.StoredCredentials
import InterBridge.MainLoop.WifiConfiguration
import InterBridge.MainLoop.PermanentIdentity
import InterBridge.Provisioning.BleProvisioning
import InterBridge.Dev.BleMqttMain
import InterBridge.Dev.WifiOwnership
import InterBridge.Foundations.PaddedOrder
import InterBridge.Ota.VersionOrder
import InterBridge.Ota.NumericVersions
import InterBridge.Network.ReconnectBackoff
import InterBridge.Protocol.LoadedEntries
import InterBridge.Protocol.ProcessorEffects
import InterBridge.Protocol.LastResult
import InterBridge.Protocol.DiagnosticTrace
import InterBridge.Provisioning.ManagerCalls
import InterBridge.Provisioning.AdvertisingState
import InterBridge.Provisioning.ProvisioningWindow
import InterBridge.Provisioning.LifecycleEvents
import InterBridge.Provisioning.NewNetwork
import InterBridge.Foundations.Debounce
import InterBridge.Intercom.RingDetector
import InterBridge.Intercom.LineDetector
import InterBridge.Dev.DevRingPulses
import InterBridge.Hardware.ButtonActions
import InterBridge.Hardware.DebouncedLevels
import InterBridge.Intercom.PcmClock
import InterBridge.Intercom.PcmClockOwnership
import InterBridge.Intercom.PcmClockGate
import InterBridge.Intercom.Si3050BringUp
import InterBridge.Provisioning.OnboardingWindow
import InterBridge.Dev.RetryLadders
import InterBridge.Dev.SmokeFlags
import InterBridge.Provisioning.IdentityAgreement
import InterBridge.Dev.RingSessions
import InterBridge.Dev.DevEntryPoints
import InterBridge.Protocol.ProcessorTransport
import InterBridge.Network.WireOrder
import InterBridge.Network.AcceptedMessages
import InterBridge.Network.TopicNames
import InterBridge.Network.OutgoingMessages
import InterBridge.Dev.DevSessions
import InterBridge.Dev.DevWireOrder
import InterBridge.MainLoop.MainSessions
import InterBridge.MainLoop.MainWireOrder
import InterBridge.MainLoop.PowerLoss
import InterBridge.Network.ClientLink
import InterBridge.MainLoop.MainRecovery
import InterBridge.MainLoop.HealthCadence
import InterBridge.MainLoop.CommandsAnswered
import InterBridge.MainLoop.Loopback
import InterBridge.MainLoop.ProductionLoop
import InterBridge.MainLoop.ProductionRuns
import InterBridge.MainLoop.ProductionEvents
import InterBridge.MainLoop.ProductionOffline
import InterBridge.Foundations.Redelivery
import InterBridge.Dev.DevActions
import InterBridge.Dev.DevServing
import InterBridge.Dev.DevComesOnline
