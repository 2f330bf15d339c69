import RuntimeProfiles.Build
import RuntimeProfiles.Capabilities
import RuntimeProfiles.Command
import RuntimeProfiles.Command.Invocation
import RuntimeProfiles.Command.Offset
import RuntimeProfiles.Command.Outcome
import RuntimeProfiles.Command.Report
import RuntimeProfiles.Command.Run
import RuntimeProfiles.Config
import RuntimeProfiles.Config.Schema
import RuntimeProfiles.Data
import RuntimeProfiles.Data.Fault
import RuntimeProfiles.Data.Schema
import RuntimeProfiles.Decimal.FloatText
import RuntimeProfiles.Decimal.Shortest
import RuntimeProfiles.Error
import RuntimeProfiles.FileTree
import RuntimeProfiles.Json.Number
import RuntimeProfiles.Json.Reader
import RuntimeProfiles.Json.Text
import RuntimeProfiles.Json.Writer
import RuntimeProfiles.Layout
import RuntimeProfiles.Log
import RuntimeProfiles.Main
import RuntimeProfiles.Platform
import RuntimeProfiles.Profile
import RuntimeProfiles.Profile.Name
import RuntimeProfiles.Profile.Validation
import RuntimeProfiles.Project.Manifest
import RuntimeProfiles.Project.Profiles
import RuntimeProfiles.Proofs.Command.Agreement
import RuntimeProfiles.Proofs.Command.Arguments
import RuntimeProfiles.Proofs.Command.Changes
import RuntimeProfiles.Proofs.Command.Doctor
import RuntimeProfiles.Proofs.Command.History
import RuntimeProfiles.Proofs.Command.Isolation
import RuntimeProfiles.Proofs.Command.Location
import RuntimeProfiles.Proofs.Command.NewProfile
import RuntimeProfiles.Proofs.Command.Report
import RuntimeProfiles.Proofs.Command.Resolve
import RuntimeProfiles.Proofs.Command.Setup
import RuntimeProfiles.Proofs.Command.Validation
import RuntimeProfiles.Proofs.Command.Verbosity
import RuntimeProfiles.Proofs.Config.Consistency
import RuntimeProfiles.Proofs.Config.RoundTrip
import RuntimeProfiles.Proofs.Data.Lookup
import RuntimeProfiles.Proofs.Data.Record
import RuntimeProfiles.Proofs.Data.Schema
import RuntimeProfiles.Proofs.FileTree
import RuntimeProfiles.Proofs.FileTree.Display
import RuntimeProfiles.Proofs.FileTree.SameBut
import RuntimeProfiles.Proofs.Json.Document
import RuntimeProfiles.Proofs.Json.Text
import RuntimeProfiles.Proofs.Profile.Decoding
import RuntimeProfiles.Proofs.Profile.Name
import RuntimeProfiles.Proofs.Profile.RoundTrip
import RuntimeProfiles.Proofs.Profile.Validation
import RuntimeProfiles.Proofs.Project.Confinement
import RuntimeProfiles.Proofs.Project.Listing
import RuntimeProfiles.Proofs.Project.Lookup
import RuntimeProfiles.Proofs.Project.Manifest
import RuntimeProfiles.Proofs.Project.Profiles
import RuntimeProfiles.Proofs.Project.Search
import RuntimeProfiles.Proofs.Project.Template
import RuntimeProfiles.Proofs.Session
import RuntimeProfiles.Proofs.Text.Bytes
import RuntimeProfiles.Proofs.Text.Digits
import RuntimeProfiles.Proofs.Toml.Document
import RuntimeProfiles.Proofs.Toml.Number
import RuntimeProfiles.Proofs.Toml.Table
import RuntimeProfiles.Proofs.Toml.Text
import RuntimeProfiles.Session
import RuntimeProfiles.Text.Blank
import RuntimeProfiles.Text.Hex
import RuntimeProfiles.Text.Invisible
import RuntimeProfiles.Text.Quoted
import RuntimeProfiles.Toggle
import RuntimeProfiles.Toggle.Rejection
import RuntimeProfiles.Toml.Document
import RuntimeProfiles.Toml.Moment
import RuntimeProfiles.Toml.Number
import RuntimeProfiles.Toml.Statement
import RuntimeProfiles.Toml.Table
import RuntimeProfiles.Toml.Text
import RuntimeProfiles.Toml.Value
import RuntimeProfiles.Toml.Writer
import RuntimeProfiles.Proofs.Layout
import RuntimeProfiles.Proofs.Text.Numeral
import RuntimeProfiles.Proofs.Command.Offset
import RuntimeProfiles.Proofs.Build
import RuntimeProfiles.Proofs.Command.Dumps
