import KernAid.Encoding
import KernAid.CrashLogic
import KernAid.Protocol
import KernAid.RepairRecords
import KernAid.Replay
import KernAid.WireAgreement
import KernAid.Lifecycle
import KernAid.ReplayInvariant
import KernAid.ReplayGuarantees
import KernAid.Json
import KernAid.JsonValue
import KernAid.JsonReader
import KernAid.JsonNumber
import KernAid.Unicode
import KernAid.CanonicalJson
import KernAid.EventEncoding
import KernAid.Progress
import KernAid.Compaction
import KernAid.CompactionReplay
import KernAid.CompactionGuarantees
import KernAid.BackupFiles
import KernAid.VaultStore
import KernAid.EventEffects
import KernAid.StoreInvariant
import KernAid.StoreSteps
import KernAid.PendingFiles
import KernAid.Operations
import KernAid.TransactionOperations
import KernAid.Recovery
import KernAid.Runs
import KernAid.RunGuarantees
import KernAid.CrashAtomicity
import KernAid.FileGuarantees
import KernAid.OperationResults
import KernAid.TombstoneRuns
import KernAid.WrittenEvents
import KernAid.Fleet.Values
import KernAid.Fleet.Inventory
import KernAid.Fleet.Outbox
import KernAid.Fleet.WorkOrders
import KernAid.Fleet.WorkOrderRuns
import KernAid.Fleet.ServiceReceipts
import KernAid.Fleet.IncidentClosure
import KernAid.Fleet.ReceiptRuns
import KernAid.Fleet.WorkOrderClaims
import KernAid.Fleet.Licenses
import KernAid.Fleet.LicenseRuns
import KernAid.Fleet.LicenseEvaluation
import KernAid.Vault.MountActivation
import KernAid.Vault.MountCleanup
import KernAid.Vault.MountStart
import KernAid.ShiftRegister
import KernAid.Vault.ProfileClassifier
import KernAid.Vault.DeviceLayout
import KernAid.Storage.SecureJournal
import KernAid.Storage.Chain
import KernAid.Storage.Calls
import KernAid.Storage.Replays
import KernAid.Storage.SharedJournal
import KernAid.Broker.VaultClient
import KernAid.Broker.VaultClientRuns
import KernAid.RetainedLog
import KernAid.Fleet.IncidentCases
import KernAid.Fleet.IncidentRuns
import KernAid.Update.Manifests
import KernAid.Update.Device
import KernAid.Update.Staging
import KernAid.Update.StagingSteps
import KernAid.Update.StagingRuns
import KernAid.Update.Activation
import KernAid.Update.Engine
import KernAid.Update.ActivationSteps
import KernAid.Update.EngineSteps
import KernAid.Update.SlotSafety
import KernAid.Update.Reactivation
import KernAid.Update.FinalizeRetries
import KernAid.Update.StagingProgress
import KernAid.Update.CycleProgress
import KernAid.Update.BootState
import KernAid.Update.BootRuns
