import ExtensionBuild.Binary
import ExtensionBuild.Build
import ExtensionBuild.BuildError
import ExtensionBuild.Command
import ExtensionBuild.CommandLine.Arguments
import ExtensionBuild.CommandLine.Completions
import ExtensionBuild.CommandLine.Reach
import ExtensionBuild.CommandLine.Run
import ExtensionBuild.CommandLine.Switch
import ExtensionBuild.CommandLine.Usage
import ExtensionBuild.Context
import ExtensionBuild.Data
import ExtensionBuild.Decimal
import ExtensionBuild.Descriptor
import ExtensionBuild.Diagnostic
import ExtensionBuild.Doctor
import ExtensionBuild.Doctor.Report
import ExtensionBuild.Environment
import ExtensionBuild.FileTree
import ExtensionBuild.Flags
import ExtensionBuild.Flags.Encoding
import ExtensionBuild.Floating
import ExtensionBuild.Json.Printer
import ExtensionBuild.Json.Reader
import ExtensionBuild.Libraries.Query
import ExtensionBuild.Libraries.Resolution
import ExtensionBuild.Log
import ExtensionBuild.Main
import ExtensionBuild.Manifest
import ExtensionBuild.Path
import ExtensionBuild.Proofs.Absolute
import ExtensionBuild.Proofs.Acceptance
import ExtensionBuild.Proofs.Arguments
import ExtensionBuild.Proofs.Build
import ExtensionBuild.Proofs.Decoding
import ExtensionBuild.Proofs.DescriptorText
import ExtensionBuild.Proofs.Emission
import ExtensionBuild.Proofs.Endings
import ExtensionBuild.Proofs.Examination
import ExtensionBuild.Proofs.Execution
import ExtensionBuild.Proofs.FlagsEncoding
import ExtensionBuild.Proofs.Interleaving
import ExtensionBuild.Proofs.Layers
import ExtensionBuild.Proofs.Macros
import ExtensionBuild.Proofs.Precedence
import ExtensionBuild.Proofs.ReadBack
import ExtensionBuild.Proofs.Records
import ExtensionBuild.Proofs.Regeneration
import ExtensionBuild.Proofs.Resolution
import ExtensionBuild.Proofs.RuleHistory
import ExtensionBuild.Proofs.SharedResolution
import ExtensionBuild.Proofs.Switches
import ExtensionBuild.Proofs.Tolerance
import ExtensionBuild.Proofs.UnnamedKeys
import ExtensionBuild.Proofs.Verbatim
import ExtensionBuild.Proofs.Verdict
import ExtensionBuild.Proofs.Writing
import ExtensionBuild.Schema
import ExtensionBuild.Script
import ExtensionBuild.Session
import ExtensionBuild.Settings
import ExtensionBuild.Text.Blank
import ExtensionBuild.Text.ControlSequence
import ExtensionBuild.Text.Pieces
import ExtensionBuild.Text.Printable
import ExtensionBuild.Text.Quoted
import ExtensionBuild.Text.Scan
import ExtensionBuild.Text.Utf8
import ExtensionBuild.Toggles
import ExtensionBuild.Toml.Document
import ExtensionBuild.Toml.Moment
import ExtensionBuild.Toml.Quoted
import ExtensionBuild.Toml.Reader
import ExtensionBuild.Toml.Scalar
import ExtensionBuild.Toml.Typed
import ExtensionBuild.Toolbox
import ExtensionBuild.Toolbox.Interpreter
import ExtensionBuild.Transcript
import ExtensionBuild.Translator
import ExtensionBuild.Proofs.Reordering
import ExtensionBuild.Proofs.Retranslation
import ExtensionBuild.Proofs.Ancestors
import ExtensionBuild.Proofs.ManifestSearch
import ExtensionBuild.Proofs.Growth
import ExtensionBuild.Proofs.Lines
import ExtensionBuild.Proofs.ReportText
import ExtensionBuild.Proofs.Tokens
import ExtensionBuild.Proofs.VersionLine
