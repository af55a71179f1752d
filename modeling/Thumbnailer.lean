import Thumbnailer.Batch.Event
import Thumbnailer.Batch.Inputs
import Thumbnailer.Batch.Plan
import Thumbnailer.Batch.Run
import Thumbnailer.Cache.Basic
import Thumbnailer.Cache.Key
import Thumbnailer.Capabilities
import Thumbnailer.Codec
import Thumbnailer.CommandLine
import Thumbnailer.Config
import Thumbnailer.Config.File
import Thumbnailer.Deadline
import Thumbnailer.Decimal
import Thumbnailer.Digest.Sha256
import Thumbnailer.Engine
import Thumbnailer.Engine.Pixels
import Thumbnailer.Engine.Rehearsal
import Thumbnailer.Engine.Session
import Thumbnailer.Engine.Settings
import Thumbnailer.Engine.Shared
import Thumbnailer.Files
import Thumbnailer.Files.Disk
import Thumbnailer.Files.Walk
import Thumbnailer.Format
import Thumbnailer.Geometry
import Thumbnailer.Main
import Thumbnailer.Options
import Thumbnailer.Orientation
import Thumbnailer.Path
import Thumbnailer.Pipeline
import Thumbnailer.Procedure
import Thumbnailer.Program
import Thumbnailer.Proofs.Acceptance
import Thumbnailer.Proofs.Agreement
import Thumbnailer.Proofs.Axes
import Thumbnailer.Proofs.Batch.Accounting
import Thumbnailer.Proofs.Batch.Assignment
import Thumbnailer.Proofs.Batch.Course
import Thumbnailer.Proofs.Batch.Filing
import Thumbnailer.Proofs.Batch.Independence
import Thumbnailer.Proofs.Batch.Mirror
import Thumbnailer.Proofs.Batch.Partition
import Thumbnailer.Proofs.Batch.Prepared
import Thumbnailer.Proofs.Batch.Underway
import Thumbnailer.Proofs.Box
import Thumbnailer.Proofs.Cache.Consistency
import Thumbnailer.Proofs.Cache.Contents
import Thumbnailer.Proofs.Cache.Economy
import Thumbnailer.Proofs.Cache.Eviction
import Thumbnailer.Proofs.Cache.Key
import Thumbnailer.Proofs.Cache.Ledger
import Thumbnailer.Proofs.Cache.Queue
import Thumbnailer.Proofs.Cache.Statistics
import Thumbnailer.Proofs.Cache.Transparency
import Thumbnailer.Proofs.Colours
import Thumbnailer.Proofs.Components
import Thumbnailer.Proofs.Contract
import Thumbnailer.Proofs.Conversation
import Thumbnailer.Proofs.Cover
import Thumbnailer.Proofs.Depiction
import Thumbnailer.Proofs.Dimensions
import Thumbnailer.Proofs.Disk
import Thumbnailer.Proofs.Excerpt
import Thumbnailer.Proofs.Expiry
import Thumbnailer.Proofs.Failure
import Thumbnailer.Proofs.Gestures
import Thumbnailer.Proofs.Groups
import Thumbnailer.Proofs.Growth
import Thumbnailer.Proofs.Guards
import Thumbnailer.Proofs.Interference
import Thumbnailer.Proofs.Interleaving
import Thumbnailer.Proofs.Lifecycle
import Thumbnailer.Proofs.Magnitude
import Thumbnailer.Proofs.Margins
import Thumbnailer.Proofs.Order
import Thumbnailer.Proofs.Ownership.Adequacy
import Thumbnailer.Proofs.Ownership.Discipline
import Thumbnailer.Proofs.Ownership.Scene
import Thumbnailer.Proofs.Ownership.Sole
import Thumbnailer.Proofs.Pixels
import Thumbnailer.Proofs.Protocol
import Thumbnailer.Proofs.Rearrangement
import Thumbnailer.Proofs.Reduction
import Thumbnailer.Proofs.Saliency.Checked
import Thumbnailer.Proofs.Saliency.Choice
import Thumbnailer.Proofs.Saliency.Grid
import Thumbnailer.Proofs.Saliency.Plain
import Thumbnailer.Proofs.Saliency.Search
import Thumbnailer.Proofs.Saliency.Sums
import Thumbnailer.Proofs.Schedules
import Thumbnailer.Proofs.Slashes
import Thumbnailer.Proofs.Toml.Merge
import Thumbnailer.Proofs.Toml.Reading
import Thumbnailer.Proofs.Upright
import Thumbnailer.Proofs.Windows
import Thumbnailer.Raster.Basic
import Thumbnailer.Raster.Convert
import Thumbnailer.Raster.Saliency
import Thumbnailer.Report
import Thumbnailer.Scale
import Thumbnailer.Scale.Exact
import Thumbnailer.Size
import Thumbnailer.Text.Quoted
import Thumbnailer.Text.Reading
import Thumbnailer.Text.Unprinted
import Thumbnailer.Text.Utf8
import Thumbnailer.Toml.Document
import Thumbnailer.Toml.Moment
import Thumbnailer.Toml.Number
import Thumbnailer.Toml.Record
import Thumbnailer.Toml.Text
import Thumbnailer.Toml.Value
