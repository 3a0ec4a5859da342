import MonolithSplit.Analytics.Emitter
import MonolithSplit.Analytics.Event
import MonolithSplit.Generation
import MonolithSplit.Jobs.Lifecycle
import MonolithSplit.Jobs.Store
import MonolithSplit.Jobs.Tasks
import MonolithSplit.Json.Binary64
import MonolithSplit.Json.Error
import MonolithSplit.Json.Number
import MonolithSplit.Json.Reader
import MonolithSplit.Json.Shortest
import MonolithSplit.Json.Value
import MonolithSplit.Json.Write
import MonolithSplit.Main
import MonolithSplit.Model.DataType
import MonolithSplit.Model.Resource
import MonolithSplit.Model.Snapshot
import MonolithSplit.Network.Host
import MonolithSplit.Network.Http
import MonolithSplit.Network.Idna
import MonolithSplit.Network.Idna.Mapping
import MonolithSplit.Network.Idna.Properties
import MonolithSplit.Network.Idna.Punycode
import MonolithSplit.Network.Percent
import MonolithSplit.Network.Url
import MonolithSplit.Prompt.Guidelines
import MonolithSplit.Prompt.Payload
import MonolithSplit.Proofs.Allotment
import MonolithSplit.Proofs.FencedText
import MonolithSplit.Proofs.FieldTypes
import MonolithSplit.Proofs.Flow
import MonolithSplit.Proofs.JobRuns
import MonolithSplit.Proofs.JobStore
import MonolithSplit.Proofs.KeepFirst
import MonolithSplit.Proofs.Reconcile
import MonolithSplit.Proofs.Reporting
import MonolithSplit.Proofs.ResourceMap
import MonolithSplit.Proofs.SecondPass
import MonolithSplit.Proofs.StagedWrites
import MonolithSplit.Proofs.StatusCheck
import MonolithSplit.Proposal.Recommendation
import MonolithSplit.Proposal.Reconcile
import MonolithSplit.Protocol.Aliases
import MonolithSplit.Protocol.Answer
import MonolithSplit.Protocol.Dispatch
import MonolithSplit.Protocol.Process
import MonolithSplit.Protocol.Queries
import MonolithSplit.Protocol.Session
import MonolithSplit.Protocol.Setup
import MonolithSplit.Protocol.Track
import MonolithSplit.Redesign
import MonolithSplit.Schema.FromText
import MonolithSplit.Schema.FromValue
import MonolithSplit.Schema.Shape
import MonolithSplit.Server.Catalogue
import MonolithSplit.Server.Connection
import MonolithSplit.Server.Rpc
import MonolithSplit.Server.Tools
import MonolithSplit.Settings
import MonolithSplit.Store
import MonolithSplit.Store.Location
import MonolithSplit.Store.Staging
import MonolithSplit.Text.Canonical
import MonolithSplit.Text.Canonical.Tables
import MonolithSplit.Text.CodePointTable
import MonolithSplit.Text.Printable
import MonolithSplit.Proofs.StoreConfinement
import MonolithSplit.Proofs.Duplicates
