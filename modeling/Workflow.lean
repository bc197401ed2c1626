import Workflow.Dictionary
import Workflow.Text.Blank
import Workflow.Text.Encoding
import Workflow.Decimal.Shortest
import Workflow.Decimal.Literal
import Workflow.Json.Printer
import Workflow.Json.Parser
import Workflow.Json.Decoder
import Workflow.Graph.Basic
import Workflow.Graph.Codec
import Workflow.Graph.Chain
import Workflow.Schema.Codec
import Workflow.Validation
import Workflow.Event
import Workflow.Definition.Record
import Workflow.Definition.Reconstruct
import Workflow.Execution.Page
import Workflow.Text.Padding
import Workflow.Backend.Store
import Workflow.Execution.Tracker
import Workflow.Editor
import Workflow.Http.Client
import Workflow.Http.DomainName
import Workflow.Http.Script
import Workflow.Toml.Parser
import Workflow.Settings
import Workflow.CommandLine.Run
import Workflow.Main
import Workflow.Proofs.Graph.Links
import Workflow.Proofs.Graph.Reach
import Workflow.Proofs.Validation.Rules
import Workflow.Proofs.Validation.Sections
import Workflow.Proofs.Definition.Compile
import Workflow.Proofs.Validation.Compilability
import Workflow.Proofs.Validation.Connecting
import Workflow.Proofs.Definition.Chain
import Workflow.Proofs.Graph.SinglePath
import Workflow.Proofs.Definition.RoundTrip
import Workflow.Proofs.Definition.SoundChain
import Workflow.Proofs.Backend.History
import Workflow.Proofs.Execution.Following
import Workflow.Proofs.Execution.Polling
import Workflow.Proofs.Execution.Sampling
import Workflow.Proofs.Editor.Saving
import Workflow.Proofs.Dictionary
import Workflow.Proofs.Json.Decoding
import Workflow.Proofs.Graph.Codec
import Workflow.Proofs.Definition.Stored
import Workflow.Proofs.Backend.Kept
import Workflow.Proofs.Editor.Reopening
import Workflow.Proofs.Graph.Edits
import Workflow.Proofs.Definition.EmptyTypes
import Workflow.Proofs.Editor.EmptyTypes
import Workflow.Proofs.Graph.Consistency
import Workflow.Proofs.Validation.DuplicateIds
import Workflow.Proofs.Validation.Orphans
import Workflow.Proofs.Execution.Sharing
import Workflow.Proofs.Json.Scanning
import Workflow.Proofs.Json.ReadBack
import Workflow.Proofs.Json.Readable
import Workflow.Proofs.Json.TextDecoding
import Workflow.Proofs.Json.Sources
import Workflow.Proofs.Json.Fields
import Workflow.Proofs.Json.Parts
import Workflow.Proofs.Graph.Members
import Workflow.Proofs.Graph.Reading
import Workflow.Proofs.Graph.Reload
import Workflow.Proofs.Graph.ChainOrder
import Workflow.Proofs.Graph.Patching
import Workflow.Proofs.Validation.Arrangement
import Workflow.Proofs.Backend.Interleaving
import Workflow.Proofs.Backend.Effects
import Workflow.Proofs.Backend.LastSaves
import Workflow.Proofs.Editor.Sharing
import Workflow.Proofs.Json.Agreement
import Workflow.Proofs.Definition.Conditions
import Workflow.Proofs.Definition.KindOrder
import Workflow.Proofs.Graph.LeastIds
import Workflow.Proofs.Json.Converting
import Workflow.Proofs.Graph.TwoReaders
import Workflow.Proofs.Schema.Checking
import Workflow.Proofs.Graph.Renaming
import Workflow.Proofs.Validation.Renaming
import Workflow.Proofs.Time.Calendar
import Workflow.Proofs.Time.ReadBack
import Workflow.Proofs.Definition.ReadBack
import Workflow.Proofs.Definition.Members
import Workflow.Proofs.Execution.Members
import Workflow.Proofs.Execution.ReadBack
import Workflow.Proofs.Graph.Undoing
import Workflow.Proofs.Http.Escaping
import Workflow.Proofs.Http.Segments
import Workflow.Proofs.Http.Reading
import Workflow.Proofs.Http.Addressing
import Workflow.Proofs.Http.Answers
import Workflow.Proofs.Http.Outcomes
import Workflow.Proofs.Http.Refusals
import Workflow.Proofs.Schema.Registering
import Workflow.Proofs.Graph.BreadthFirst
