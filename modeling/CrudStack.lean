/-
# `CrudStack` — scaffolds of a backend and a frontend from a class model
-/
import CrudStack.Artifact
import CrudStack.BuildLog
import CrudStack.Command.Arguments
import CrudStack.Command.Execute
import CrudStack.Decimal.Double
import CrudStack.Decimal.Shortest
import CrudStack.Decimal.Text
import CrudStack.Disk
import CrudStack.Document
import CrudStack.Event
import CrudStack.Generation
import CrudStack.Json.Fault
import CrudStack.Json.Lexeme
import CrudStack.Json.Node
import CrudStack.Json.Writer
import CrudStack.Layout
import CrudStack.LogFilter
import CrudStack.Main
import CrudStack.Model
import CrudStack.Model.Fault
import CrudStack.Model.Load
import CrudStack.Model.OfDocument
import CrudStack.Model.OfJson
import CrudStack.Model.OfToml
import CrudStack.Model.Writer
import CrudStack.Naming
import CrudStack.Path
import CrudStack.Plan
import CrudStack.Settings
import CrudStack.Settings.Environment
import CrudStack.Settings.Extract
import CrudStack.Settings.Load
import CrudStack.Settings.Tree
import CrudStack.Sheet
import CrudStack.Template
import CrudStack.Template.Backend
import CrudStack.Template.Catalog
import CrudStack.Template.Compiled
import CrudStack.Template.Frontend
import CrudStack.Text.Case
import CrudStack.Text.CaseTable
import CrudStack.Text.Class
import CrudStack.Text.ClassTable
import CrudStack.Text.Cluster
import CrudStack.Text.ClusterTable
import CrudStack.Text.Digit
import CrudStack.Text.Quoted
import CrudStack.Text.Stretch
import CrudStack.Toml.Assembly
import CrudStack.Toml.Lexeme
import CrudStack.Toml.Parse
import CrudStack.Toml.Writer
import CrudStack.TypeResolution
import CrudStack.Proofs.Template.Expansion
import CrudStack.Proofs.Template.Shape
import CrudStack.Proofs.Plan.ByKind
import CrudStack.Proofs.Template.Marked
import CrudStack.Proofs.Routes
import CrudStack.Proofs.Success
import CrudStack.Proofs.Text.Split
import CrudStack.Proofs.Disk.Files
import CrudStack.Proofs.Disk.Resolve
import CrudStack.Proofs.Disk.Ensure
import CrudStack.Proofs.Run.Record
import CrudStack.Proofs.Run.Rerun
import CrudStack.Proofs.Path.Below
import CrudStack.Proofs.Components
import CrudStack.Proofs.Template.Contents
import CrudStack.Proofs.Plan.Sequence
import CrudStack.Proofs.Path.Parent
import CrudStack.Proofs.Path.Within
import CrudStack.Proofs.Disk.Around
import CrudStack.Proofs.Disk.Descent
import CrudStack.Proofs.Layout.Names
import CrudStack.Proofs.Layout.Apart
import CrudStack.Proofs.Run.Building
import CrudStack.Proofs.Run.Fresh
import CrudStack.Proofs.Run.Independent
import CrudStack.Proofs.Template.Asked
import CrudStack.Proofs.Template.Unbroken
import CrudStack.Proofs.Sheet.Mentioned
import CrudStack.Proofs.Sheet.LineBreak
import CrudStack.Proofs.Plan.Influence
import CrudStack.Proofs.Plan.Locality
import CrudStack.Proofs.Path.Spelled
import CrudStack.Proofs.Java.Package
import CrudStack.Proofs.Java.Source
import CrudStack.Proofs.Json.Grammar
import CrudStack.Proofs.Json.Denoted
import CrudStack.Proofs.Json.Lexed
import CrudStack.Proofs.Json.Scan
import CrudStack.Proofs.Json.Inside
import CrudStack.Proofs.Json.Compact
import CrudStack.Proofs.Decimal.Rounding
import CrudStack.Proofs.Json.Range
import CrudStack.Proofs.Model.Shape
import CrudStack.Proofs.Model.Entries
import CrudStack.Proofs.Model.Accepted
import CrudStack.Proofs.Lookup
import CrudStack.Proofs.Disk.Texts
import CrudStack.Proofs.Text.Taken
import CrudStack.Proofs.Settings.Merged
import CrudStack.Proofs.Settings.Keys
import CrudStack.Proofs.Settings.Named
import CrudStack.Proofs.Toml.Entries
import CrudStack.Proofs.Toml.Distinct
import CrudStack.Proofs.Settings.Document
import CrudStack.Proofs.Settings.Unsourced
import CrudStack.Proofs.Settings.Variables
import CrudStack.Proofs.Settings.Layered
import CrudStack.Proofs.Settings.Override
import CrudStack.Proofs.Toml.Told
import CrudStack.Proofs.Toml.Grammar
import CrudStack.Proofs.Toml.Alike
import CrudStack.Proofs.Toml.Assembled
import CrudStack.Proofs.Toml.Levels
import CrudStack.Proofs.Toml.Lexed
import CrudStack.Proofs.Toml.Integer
import CrudStack.Proofs.Toml.Parsed
import CrudStack.Proofs.Toml.Quoted
import CrudStack.Proofs.Toml.Written
import CrudStack.Proofs.Json.Written
import CrudStack.Proofs.Json.Rearranged
import CrudStack.Proofs.Model.Data
import CrudStack.Proofs.Model.Formats
import CrudStack.Proofs.Run.Frame
import CrudStack.Proofs.Command.Execution
import CrudStack.Proofs.Sheet.Imports
import CrudStack.Proofs.Sheet.Noted
import CrudStack.Proofs.Java.Imports
import CrudStack.Proofs.Model.Scanned
import CrudStack.Proofs.Model.Diagnostics
import CrudStack.Proofs.Java.Members
import CrudStack.Proofs.Path.Joined
import CrudStack.Proofs.Run.Placement
import CrudStack.Proofs.Settings.Written
import CrudStack.Proofs.Attributes
import CrudStack.Proofs.Model.Reported
import CrudStack.Proofs.Text.Lowered
import CrudStack.Proofs.Text.Spelled
import CrudStack.Proofs.TypeResolution
import CrudStack.Proofs.Sheet.Accounted
import CrudStack.Proofs.Path.Stem
import CrudStack.Proofs.Run.Destination
import CrudStack.Proofs.Java.Legal
import CrudStack.Proofs.Text.Bound
import CrudStack.Proofs.Naming.Words
import CrudStack.Proofs.Naming.Distinct
import CrudStack.Proofs.Naming.Plural
import CrudStack.Proofs.Template.Strict
import CrudStack.Proofs.Command.Part
import CrudStack.Proofs.Command.Decoded
