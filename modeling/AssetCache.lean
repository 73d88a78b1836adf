import AssetCache.Bench.Opening
import AssetCache.Bench.Probe
import AssetCache.Bench.Reaping
import AssetCache.Record.Json
import AssetCache.Settings.Json
import AssetCache.Proofs.Agreement
import AssetCache.Proofs.Digests
import AssetCache.Proofs.Keys
import AssetCache.Proofs.Content.Stages
import AssetCache.Proofs.Depots
import AssetCache.Proofs.Content.Steps
import AssetCache.Proofs.Content.Accounting
import AssetCache.Proofs.Content.Integrity
import AssetCache.Proofs.Content.Alone
import AssetCache.Proofs.Content.Ledger
import AssetCache.Proofs.Content.Race
import AssetCache.Proofs.Content.Residue
import AssetCache.Proofs.Stream.Polls
import AssetCache.Proofs.Transfers
import AssetCache.Proofs.Team
import AssetCache.Proofs.Conduct
import AssetCache.Proofs.Content.Sharing
import AssetCache.Proofs.Content.Calls
import AssetCache.Proofs.Cache.Slots
import AssetCache.Proofs.Cache.Owners
import AssetCache.Proofs.Cache.Accounts
import AssetCache.Proofs.Cache.References
import AssetCache.Proofs.Cache.Alone
import AssetCache.Proofs.Cache.Refinement
import AssetCache.Proofs.Descriptor.Lifecycle
import AssetCache.Proofs.Descriptor.Reopening
import AssetCache.Proofs.Descriptor.Backends
import AssetCache.Proofs.Cache.Errands
import AssetCache.Proofs.Cache.History
import AssetCache.Proofs.Cache.Invalidation
import AssetCache.Proofs.Cache.Rivals
import AssetCache.Proofs.Stream.Ingestion
import AssetCache.Proofs.Forward.Order
import AssetCache.Proofs.Forward.StandIn
import AssetCache.Proofs.Forward.Loop
import AssetCache.Proofs.Cache.Eviction
import AssetCache.Proofs.Stream.Certification
import AssetCache.Proofs.Cache.Coverage
import AssetCache.Proofs.Cache.Releases
import AssetCache.Proofs.Blob.Directory
import AssetCache.Proofs.Blob.Renaming
import AssetCache.Proofs.Cache.Sweeps
import AssetCache.Proofs.Cache.Idle
import AssetCache.Proofs.Cache.Failures
import AssetCache.Proofs.Blob.Puts
import AssetCache.Proofs.Blob.Confinement
import AssetCache.Proofs.MediaType.Prefixes
import AssetCache.Proofs.MediaType.Signatures
import AssetCache.Proofs.MediaType.Markup
import AssetCache.Proofs.Json.Tokens
import AssetCache.Proofs.Json.Records
import AssetCache.Proofs.Record.Json
import AssetCache.Proofs.Instants
import AssetCache.Proofs.Cache.Retention
import AssetCache.Proofs.Cache.Lifetimes
import AssetCache.Proofs.Duration.Text
import AssetCache.Proofs.Settings.Formats
import AssetCache.Proofs.Settings.Environment
import AssetCache.Proofs.Blob.Layout
