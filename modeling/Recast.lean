import Recast.Table
import Recast.Json.Basic
import Recast.Decimal.Shortest
import Recast.Json.Printer
import Recast.Json.Reader
import Recast.Text.Quote
import Recast.Text.Blank
import Recast.Json.Decode
import Recast.Path.Basic
import Recast.Schema.Basic
import Recast.Schema.Codec
import Recast.Schema.Check
import Recast.Schema.Assumption
import Recast.Path.Multiplicity
import Recast.Data.Basic
import Recast.Data.Codec
import Recast.Data.Fault
import Recast.Path.Resolve
import Recast.Network.Address
import Recast.JsonSchema.Draft
import Recast.JsonSchema.Uri
import Recast.Unicode.CodeSet
import Recast.Unicode.Data.Category
import Recast.Unicode.Data.Script
import Recast.Unicode.Data.PropertyA
import Recast.Unicode.Data.PropertyB
import Recast.Unicode.Data.Folding
import Recast.Unicode.Data.Names
import Recast.Unicode.Data.Age
import Recast.Unicode.Data.Segment
import Recast.Unicode.Data.Recent
import Recast.Unicode.Data.Idna
import Recast.Unicode.Data.Bidi
import Recast.Unicode.Tables
import Recast.Unicode.Property
import Recast.Unicode.Idna
import Recast.Regex.Standard.Tree
import Recast.Regex.Standard.Parse
import Recast.Regex.Standard.Classes
import Recast.Regex.Extended.Tree
import Recast.Regex.Extended.Parse
import Recast.Regex.Automaton
import Recast.Regex.Footprint
import Recast.Regex.Machine
import Recast.Regex.Compile
import Recast.JsonSchema.Pattern
import Recast.JsonSchema.Number
import Recast.JsonSchema.Equality
import Recast.JsonSchema.Failure
import Recast.JsonSchema.Registry
import Recast.JsonSchema.Format
import Recast.JsonSchema.Content
import Recast.JsonSchema.Meta.Basic
import Recast.JsonSchema.Meta.Legacy
import Recast.JsonSchema.Meta.Draft201909
import Recast.JsonSchema.Meta.Draft202012
import Recast.JsonSchema.Meta.Catalog
import Recast.JsonSchema.Validate
import Recast.JsonSchema.Compile
import Recast.Data.Conformance
import Recast.Transform.Basic
import Recast.Transform.AddProperty
import Recast.Transform.DeleteProperties
import Recast.Transform.DeleteRelations
import Recast.Transform.CountReferences
import Recast.Transform.InferRelation
import Recast.Transform.Registry
import Recast.Transform.Handler
import Recast.Workflow.Definition
import Recast.Workflow.Graph
import Recast.Workflow.Runner
import Recast.Files.Store
import Recast.Files.Document
import Recast.Cli.Args
import Recast.Cli.Run
import Recast.Main
import Recast.Proofs.Transform.Reapply
import Recast.Proofs.Except
import Recast.Proofs.Table
import Recast.Proofs.Data.Invariants
import Recast.Proofs.Path.Resolution
import Recast.Proofs.Transform.RelationEdits
import Recast.Proofs.Transform.ContentEdits
import Recast.Proofs.Workflow.Order
import Recast.Proofs.Workflow.Refinement
import Recast.Proofs.Path.Syntax
import Recast.Proofs.Workflow.SchemaChain
import Recast.Proofs.Json.Values
import Recast.Proofs.Json.RoundTrip
import Recast.Proofs.Json.Keyed
import Recast.Proofs.Path.Scan
import Recast.Proofs.Path.Reverse
import Recast.Proofs.Transform.Reshape
import Recast.Proofs.Workflow.Acyclic
import Recast.Proofs.Workflow.Shape
import Recast.Proofs.Transform.Frame
import Recast.Proofs.Workflow.Preparation
