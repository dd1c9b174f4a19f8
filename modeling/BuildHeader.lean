import BuildHeader.Main
import BuildHeader.Proofs.Run.Frame
import BuildHeader.Proofs.Run.Layers
import BuildHeader.Proofs.Template.Leftmost
import BuildHeader.Proofs.Template.Locality
import BuildHeader.Proofs.Template.InPlace
import BuildHeader.Proofs.Template.Relevance
import BuildHeader.Proofs.Template.Delivery
import BuildHeader.Proofs.Config.Delimiter
import BuildHeader.Proofs.Run.Stages
import BuildHeader.Proofs.Run.Rehearsal
import BuildHeader.Proofs.Run.Culprit
import BuildHeader.Proofs.Config.Discovery
import BuildHeader.Proofs.Mapping.History
import BuildHeader.Proofs.Run.Orders
import BuildHeader.Proofs.Run.Columns
import BuildHeader.Proofs.Run.Unlogged
import BuildHeader.Proofs.Template.Redelimited
import BuildHeader.Proofs.Template.Staged
import BuildHeader.Proofs.Template.Scan
import BuildHeader.Proofs.Build.Builtins
import BuildHeader.Proofs.Build.VersionTemplate
import BuildHeader.Proofs.Mapping.JsonReading
import BuildHeader.Proofs.CommandLine.Layers
import BuildHeader.Proofs.File.Ways
import BuildHeader.Proofs.Template.Independence
import BuildHeader.Proofs.Config.ByName
import BuildHeader.Proofs.Config.Reordered
import BuildHeader.Proofs.CommandLine.RoundTrip
