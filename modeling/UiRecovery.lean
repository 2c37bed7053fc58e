import UiRecovery.Assembly.Assembler
import UiRecovery.Assembly.Dispatch
import UiRecovery.Assembly.Perform
import UiRecovery.Assembly.Reconstruction
import UiRecovery.Assembly.Run
import UiRecovery.Assembly.Work
import UiRecovery.Attr
import UiRecovery.Attribution
import UiRecovery.Code.Facts
import UiRecovery.Code.Program
import UiRecovery.Code.Query
import UiRecovery.Code.Table
import UiRecovery.Code.Value
import UiRecovery.Collection.OrderedMap
import UiRecovery.Collection.OrderedSet
import UiRecovery.Dialog
import UiRecovery.Error
import UiRecovery.Guid
import UiRecovery.Idiom
import UiRecovery.InputType
import UiRecovery.Json.Basic
import UiRecovery.Json.Decimal
import UiRecovery.Json.Plain
import UiRecovery.Json.Reader
import UiRecovery.Json.Record
import UiRecovery.Json.Writer
import UiRecovery.Log
import UiRecovery.Menu
import UiRecovery.Origin
import UiRecovery.Proofs.Accesses
import UiRecovery.Proofs.Actions
import UiRecovery.Proofs.Allocations
import UiRecovery.Proofs.Answers
import UiRecovery.Proofs.Attributing
import UiRecovery.Proofs.Batches
import UiRecovery.Proofs.CallRecord
import UiRecovery.Proofs.ChildLists
import UiRecovery.Proofs.Closing
import UiRecovery.Proofs.Commuting
import UiRecovery.Proofs.Confinement
import UiRecovery.Proofs.CopyLoop
import UiRecovery.Proofs.Copying
import UiRecovery.Proofs.Coverage
import UiRecovery.Proofs.Dangling
import UiRecovery.Proofs.Decisions
import UiRecovery.Proofs.Dispatch
import UiRecovery.Proofs.Drafts
import UiRecovery.Proofs.DynamicIds
import UiRecovery.Proofs.Effects
import UiRecovery.Proofs.Evidence
import UiRecovery.Proofs.Findings
import UiRecovery.Proofs.Flattening
import UiRecovery.Proofs.Footprint
import UiRecovery.Proofs.Growth
import UiRecovery.Proofs.Guarded
import UiRecovery.Proofs.Handles
import UiRecovery.Proofs.Histories
import UiRecovery.Proofs.Identity
import UiRecovery.Proofs.Images
import UiRecovery.Proofs.Independence
import UiRecovery.Proofs.JsonReading
import UiRecovery.Proofs.JsonSpelling
import UiRecovery.Proofs.Listings
import UiRecovery.Proofs.Lockstep
import UiRecovery.Proofs.Lookups
import UiRecovery.Proofs.Loops
import UiRecovery.Proofs.MenuCopies
import UiRecovery.Proofs.Merging
import UiRecovery.Proofs.Moves
import UiRecovery.Proofs.Multimap
import UiRecovery.Proofs.Nearest
import UiRecovery.Proofs.Ownership
import UiRecovery.Proofs.Pairing
import UiRecovery.Proofs.Persistence
import UiRecovery.Proofs.Placeholders
import UiRecovery.Proofs.Provenance
import UiRecovery.Proofs.Quoting
import UiRecovery.Proofs.Reach
import UiRecovery.Proofs.Renaming
import UiRecovery.Proofs.Repeating
import UiRecovery.Proofs.Roots
import UiRecovery.Proofs.Setters
import UiRecovery.Proofs.SettingsText
import UiRecovery.Proofs.Settling
import UiRecovery.Proofs.Shown
import UiRecovery.Proofs.Signatures
import UiRecovery.Proofs.Skipping
import UiRecovery.Proofs.Tagging
import UiRecovery.Proofs.Touches
import UiRecovery.Proofs.Tracking
import UiRecovery.Proofs.Twins
import UiRecovery.Proofs.Visits
import UiRecovery.Proofs.Walks
import UiRecovery.Scene.Basic
import UiRecovery.Scene.Copy
import UiRecovery.Scene.Walk
import UiRecovery.Settings
import UiRecovery.Signature
import UiRecovery.Text.Blank
import UiRecovery.Text.Quoted
import UiRecovery.Text.Unassigned
import UiRecovery.Text.Unseen
import UiRecovery.Toolkit
import UiRecovery.Widget
