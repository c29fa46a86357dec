import DiagramDiff.CommandLine.Run
import DiagramDiff.Main
import DiagramDiff.Mermaid.Printer
import DiagramDiff.Json.Reader
import DiagramDiff.Proofs.Text.Characters
import DiagramDiff.Proofs.Text.Scanning
import DiagramDiff.Proofs.Text.Layout
import DiagramDiff.Proofs.Mermaid.Comments
import DiagramDiff.Proofs.Mermaid.LinkLines
import DiagramDiff.Proofs.Mermaid.Declarations
import DiagramDiff.Proofs.Mermaid.TagLines
import DiagramDiff.Proofs.Mermaid.Entries
import DiagramDiff.Proofs.Mermaid.WrittenMembers
import DiagramDiff.Proofs.Mermaid.WrittenClasses
import DiagramDiff.Proofs.Mermaid.SpelledLinks
import DiagramDiff.Proofs.Mermaid.WrittenLinks
import DiagramDiff.Proofs.Mermaid.RoundTrip
import DiagramDiff.Proofs.Mermaid.WellFormed
import DiagramDiff.Proofs.Mermaid.LinkLayout
import DiagramDiff.Proofs.Mermaid.ClassLayout
import DiagramDiff.Proofs.Mermaid.ClassHeaders
import DiagramDiff.Proofs.Mermaid.InlineBodies
import DiagramDiff.Proofs.Mermaid.PlainLayout
import DiagramDiff.Proofs.Mermaid.LineEndings
import DiagramDiff.Proofs.Comparison.Account
import DiagramDiff.Proofs.Comparison.Verdict
import DiagramDiff.Proofs.Comparison.SelfComparison
import DiagramDiff.Proofs.Mermaid.Concatenation
import DiagramDiff.Proofs.Diagram.Merging
import DiagramDiff.Proofs.Mermaid.TypeArguments
import DiagramDiff.Proofs.Mermaid.TypedProperties
import DiagramDiff.Proofs.Mermaid.LabelPlaces
import DiagramDiff.Proofs.Mermaid.LabelText
import DiagramDiff.Proofs.Mermaid.LinkEnds
import DiagramDiff.Proofs.Mermaid.BlankLabels
import DiagramDiff.Proofs.Mermaid.CutPlaces
import DiagramDiff.Proofs.Comparison.FindingOrigins
import DiagramDiff.Proofs.Comparison.Rearrangement
import DiagramDiff.Proofs.Comparison.RenameMatching
import DiagramDiff.Proofs.Json.Atoms
import DiagramDiff.Proofs.Json.RoundTrip
import DiagramDiff.Proofs.Codec.Extensions
import DiagramDiff.Proofs.Codec.RoundTrip
import DiagramDiff.Proofs.CommandLine.Endings
import DiagramDiff.Proofs.CommandLine.JsonLines
import DiagramDiff.Proofs.CommandLine.ArgumentItems
import DiagramDiff.Proofs.Attribution.Scopes
import DiagramDiff.Proofs.Attribution.MarkedLines
import DiagramDiff.Proofs.Attribution.ShownLines
import DiagramDiff.Proofs.Attribution.MemberPlaces
import DiagramDiff.Proofs.Attribution.OpenedBodies
import DiagramDiff.Proofs.Attribution.ChangedProperties
import DiagramDiff.Proofs.Attribution.NamedThings
import DiagramDiff.Proofs.Attribution.WrittenProperties
import DiagramDiff.Proofs.Comparison.Overlooked
import DiagramDiff.Proofs.Listing.Rows
import DiagramDiff.Proofs.Listing.ReportLines
import DiagramDiff.Proofs.Listing.Colour
