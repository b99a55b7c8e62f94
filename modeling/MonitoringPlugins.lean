import MonitoringPlugins.Handler.Stock
import MonitoringPlugins.Manifest.Json
import MonitoringPlugins.Manifest.Loading
import MonitoringPlugins.Plugin.Management
import MonitoringPlugins.Registry.Generations
import MonitoringPlugins.Registry.Loader
import MonitoringPlugins.Registry.Query
import MonitoringPlugins.Json.Reader
import MonitoringPlugins.Proofs.Runs
import MonitoringPlugins.Proofs.Coherence
import MonitoringPlugins.Proofs.LinearHistory
import MonitoringPlugins.Proofs.CheckRulesets
import MonitoringPlugins.Proofs.Contents
import MonitoringPlugins.Proofs.LoadOrder
import MonitoringPlugins.Proofs.AtomicUpdates
import MonitoringPlugins.Proofs.RelevantSections
import MonitoringPlugins.Proofs.ManifestEffect
import MonitoringPlugins.Proofs.FailedManifest
import MonitoringPlugins.Proofs.Alike
import MonitoringPlugins.Proofs.Compaction
import MonitoringPlugins.Proofs.Drafts
import MonitoringPlugins.Proofs.WellFormedManifest
import MonitoringPlugins.Proofs.Reload
import MonitoringPlugins.Proofs.SplitManifest
import MonitoringPlugins.Proofs.StoredVariant
import MonitoringPlugins.Proofs.RefusedChecks
import MonitoringPlugins.Proofs.GenerationNumbers
import MonitoringPlugins.Proofs.Tables
import MonitoringPlugins.Proofs.OrderedJson
import MonitoringPlugins.Proofs.DecodedStructures
import MonitoringPlugins.Proofs.JsonForms
import MonitoringPlugins.Proofs.LosslessManifest
import MonitoringPlugins.Proofs.DefaultParameters
import MonitoringPlugins.Proofs.ManagementVariants
import MonitoringPlugins.Proofs.Redetection
import MonitoringPlugins.Proofs.Resolution
import MonitoringPlugins.Plugin.Settings
import MonitoringPlugins.Proofs.FirstFault
import MonitoringPlugins.Proofs.ReferredHandlers
import MonitoringPlugins.Proofs.RefusedDrafts
import MonitoringPlugins.Proofs.StoppedManifest
import MonitoringPlugins.Text.ByteOrder
import MonitoringPlugins.Proofs.LinkFaults
import MonitoringPlugins.Proofs.Descriptions
import MonitoringPlugins.Proofs.ManagementNames
import MonitoringPlugins.Proofs.RulesetStore
import MonitoringPlugins.Proofs.RegistrationLog
import MonitoringPlugins.Name.Json
import MonitoringPlugins.Proofs.JsonStrings
import MonitoringPlugins.Proofs.NameOrigins
