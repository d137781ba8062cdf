import ShaderSketch.Canvas.Basic
import ShaderSketch.Canvas.Failure
import ShaderSketch.Canvas.Frame
import ShaderSketch.Canvas.MemorySurface
import ShaderSketch.Canvas.NativeSurface
import ShaderSketch.Canvas.Picture
import ShaderSketch.Canvas.Routine
import ShaderSketch.Canvas.Saving
import ShaderSketch.CommandLine.Arguments
import ShaderSketch.CommandLine.Error
import ShaderSketch.CommandLine.Parse
import ShaderSketch.CommandLine.Size
import ShaderSketch.Environment
import ShaderSketch.Files.ExportPath
import ShaderSketch.Files.Path
import ShaderSketch.Files.Tree
import ShaderSketch.Gl.Brackets
import ShaderSketch.Gl.Call
import ShaderSketch.Gl.Declarations
import ShaderSketch.Gl.Memory
import ShaderSketch.Gl.Native
import ShaderSketch.Gl.Script
import ShaderSketch.Gl.Table
import ShaderSketch.Idna.Composition
import ShaderSketch.Idna.Direction
import ShaderSketch.Idna.Domain
import ShaderSketch.Idna.Joiners
import ShaderSketch.Idna.Mapping
import ShaderSketch.Idna.Punycode
import ShaderSketch.Json.Decode
import ShaderSketch.Json.Fault
import ShaderSketch.Json.Number
import ShaderSketch.Json.Reader
import ShaderSketch.Json.Skip
import ShaderSketch.Json.Writer
import ShaderSketch.Main
import ShaderSketch.Number.Binary
import ShaderSketch.Number.Shortest
import ShaderSketch.Options
import ShaderSketch.Program
import ShaderSketch.Proofs.Accounts
import ShaderSketch.Proofs.Animation
import ShaderSketch.Proofs.Assembly
import ShaderSketch.Proofs.Atomicity
import ShaderSketch.Proofs.Attempt
import ShaderSketch.Proofs.Backends
import ShaderSketch.Proofs.Balance
import ShaderSketch.Proofs.Brackets
import ShaderSketch.Proofs.Canonical
import ShaderSketch.Proofs.Checks
import ShaderSketch.Proofs.Commands
import ShaderSketch.Proofs.Complaints
import ShaderSketch.Proofs.Conversation
import ShaderSketch.Proofs.Counting
import ShaderSketch.Proofs.Declared
import ShaderSketch.Proofs.Deferred
import ShaderSketch.Proofs.Displayed
import ShaderSketch.Proofs.Domains
import ShaderSketch.Proofs.Encoding
import ShaderSketch.Proofs.Export
import ShaderSketch.Proofs.ExportPaths
import ShaderSketch.Proofs.Extents
import ShaderSketch.Proofs.Findings
import ShaderSketch.Proofs.Forecast
import ShaderSketch.Proofs.Grammar
import ShaderSketch.Proofs.Handles
import ShaderSketch.Proofs.History
import ShaderSketch.Proofs.Hosts
import ShaderSketch.Proofs.Hurdles
import ShaderSketch.Proofs.Independence
import ShaderSketch.Proofs.Inputs
import ShaderSketch.Proofs.Insertion
import ShaderSketch.Proofs.Invocation
import ShaderSketch.Proofs.Judgement
import ShaderSketch.Proofs.Keys
import ShaderSketch.Proofs.Kinship
import ShaderSketch.Proofs.Ledger
import ShaderSketch.Proofs.Lexemes
import ShaderSketch.Proofs.Linkage
import ShaderSketch.Proofs.Lists
import ShaderSketch.Proofs.Merging
import ShaderSketch.Proofs.Noise
import ShaderSketch.Proofs.Pacing
import ShaderSketch.Proofs.Parallel
import ShaderSketch.Proofs.Polling
import ShaderSketch.Proofs.Preamble
import ShaderSketch.Proofs.Precedence
import ShaderSketch.Proofs.Punycode
import ShaderSketch.Proofs.Register
import ShaderSketch.Proofs.Reports
import ShaderSketch.Proofs.Requests
import ShaderSketch.Proofs.Reread
import ShaderSketch.Proofs.Results
import ShaderSketch.Proofs.RoundTrip
import ShaderSketch.Proofs.Saved
import ShaderSketch.Proofs.Scarcity
import ShaderSketch.Proofs.Screen
import ShaderSketch.Proofs.Shapes
import ShaderSketch.Proofs.Sizes
import ShaderSketch.Proofs.Slashes
import ShaderSketch.Proofs.Startup
import ShaderSketch.Proofs.Stray
import ShaderSketch.Proofs.Stream
import ShaderSketch.Proofs.Tables
import ShaderSketch.Proofs.Tally
import ShaderSketch.Proofs.Target
import ShaderSketch.Proofs.Twins
import ShaderSketch.Proofs.Upright
import ShaderSketch.Proofs.Variable
import ShaderSketch.Proofs.Wiring
import ShaderSketch.Proofs.Written
import ShaderSketch.Service.Body
import ShaderSketch.Service.Cancellation
import ShaderSketch.Service.Client
import ShaderSketch.Service.Connection
import ShaderSketch.Service.Endpoint
import ShaderSketch.Service.Failure
import ShaderSketch.Settings
import ShaderSketch.Shader.Preamble
import ShaderSketch.Shader.Standard
import ShaderSketch.Text.Blank
import ShaderSketch.Text.Lines
import ShaderSketch.Text.Natural
import ShaderSketch.Text.Quoted
import ShaderSketch.Text.Search
import ShaderSketch.Text.Utf8
import ShaderSketch.Toml.Document
import ShaderSketch.Toml.Lexical
import ShaderSketch.Toml.Scalar
import ShaderSketch.Toml.Value
import ShaderSketch.Unicode.CharRanges
import ShaderSketch.Unicode.Printable
import ShaderSketch.Url.Address
import ShaderSketch.Url.Error
import ShaderSketch.Url.Host
import ShaderSketch.Url.Ipv4
import ShaderSketch.Url.Ipv6
import ShaderSketch.Url.Percent
import ShaderSketch.Viewer.Basic
import ShaderSketch.Viewer.Error
import ShaderSketch.Viewer.Pacer
import ShaderSketch.Viewer.Panel
import ShaderSketch.Viewer.Plan
import ShaderSketch.Viewer.Prompts
import ShaderSketch.Viewer.Session
