import TypeProfile.Aggregate
import TypeProfile.Attribute.Compound
import TypeProfile.CommandLine.Arguments
import TypeProfile.Construction
import TypeProfile.Declaration
import TypeProfile.Json.Message
import TypeProfile.Listing
import TypeProfile.Main
import TypeProfile.Presentation
import TypeProfile.Proofs.Declaration.Conflict
import TypeProfile.Proofs.Declaration.Mark
import TypeProfile.Proofs.Declaration.Recovery
import TypeProfile.Proofs.Verdict
import TypeProfile.Proofs.Wire.Decoding
import TypeProfile.Proofs.Wire.RoundTrip
import TypeProfile.Report.Text
import TypeProfile.Run
import TypeProfile.Settings
import TypeProfile.Wire
import TypeProfile.Proofs.Declaration.Agreement
import TypeProfile.Proofs.Run.Course
import TypeProfile.Proofs.Run.Status
import TypeProfile.Proofs.Run.Presentation
import TypeProfile.Proofs.CommandLine.Spelling
import TypeProfile.Proofs.Run.Input
import TypeProfile.Proofs.Verdict.Explanation
import TypeProfile.Proofs.Profile
import TypeProfile.Proofs.Run.Formats
import TypeProfile.Proofs.Run.Installation
import TypeProfile.Proofs.Verdict.Monotone
import TypeProfile.Proofs.Declaration.Naming
import TypeProfile.Proofs.Wire.Words
import TypeProfile.Proofs.Json.Unfinished
import TypeProfile.Proofs.Layout
import TypeProfile.Proofs.Wire.Switches
import TypeProfile.Proofs.Json.Elements
import TypeProfile.Proofs.Wire.Positional
import TypeProfile.Proofs.Toml.Spelling
import TypeProfile.Proofs.Toml.Lines
import TypeProfile.Proofs.Toml.Sections
import TypeProfile.Proofs.Settings
import TypeProfile.Proofs.Text.Quoted
import TypeProfile.Proofs.Layout.Message
import TypeProfile.Proofs.Listing
import TypeProfile.Proofs.Declaration.Numbering
