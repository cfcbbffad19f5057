import ProcessDiagram.Archetype.Basic
import ProcessDiagram.Archetype.Catalog
import ProcessDiagram.Archetype.Expense
import ProcessDiagram.Archetype.Invoice
import ProcessDiagram.Archetype.Reader
import ProcessDiagram.Archetype.Shape
import ProcessDiagram.CommandLine.Arguments
import ProcessDiagram.CommandLine.Command
import ProcessDiagram.CommandLine.Execution
import ProcessDiagram.CommandLine.Folder
import ProcessDiagram.Compiler.Compilation
import ProcessDiagram.Compiler.Config
import ProcessDiagram.Decimal.Binary
import ProcessDiagram.Decimal.Rounding
import ProcessDiagram.Decimal.Shortest
import ProcessDiagram.Description.Basic
import ProcessDiagram.Description.Branching
import ProcessDiagram.Description.Reader
import ProcessDiagram.Description.Writer
import ProcessDiagram.Document.CoordinateText
import ProcessDiagram.Document.Label
import ProcessDiagram.Document.Vocabulary
import ProcessDiagram.Document.Writer
import ProcessDiagram.Fault
import ProcessDiagram.Graph.Basic
import ProcessDiagram.Graph.Construction
import ProcessDiagram.Graph.Defect
import ProcessDiagram.Graph.Draft
import ProcessDiagram.Graph.Path
import ProcessDiagram.Graph.Reader
import ProcessDiagram.Identifier.Allocator
import ProcessDiagram.Identifier.Basic
import ProcessDiagram.Json.Basic
import ProcessDiagram.Json.Display
import ProcessDiagram.Json.Printer
import ProcessDiagram.Json.Reader
import ProcessDiagram.Layout.Arrangement
import ProcessDiagram.Layout.Diagram
import ProcessDiagram.Layout.Geometry
import ProcessDiagram.Layout.Placement
import ProcessDiagram.Layout.Rank
import ProcessDiagram.Layout.Reader
import ProcessDiagram.Layout.Route
import ProcessDiagram.Layout.Row
import ProcessDiagram.Layout.Scalar
import ProcessDiagram.Layout.Strategy
import ProcessDiagram.LogLevel
import ProcessDiagram.Main
import ProcessDiagram.Member
import ProcessDiagram.Proofs.CommandLine.Folder
import ProcessDiagram.Proofs.CommandLine.WrittenDocument
import ProcessDiagram.Proofs.Compiler.BranchNames
import ProcessDiagram.Proofs.Compiler.Failure
import ProcessDiagram.Proofs.Compiler.Outcome
import ProcessDiagram.Proofs.Compiler.ProcessId
import ProcessDiagram.Proofs.Compiler.Unreadable
import ProcessDiagram.Proofs.Decimal.Double
import ProcessDiagram.Proofs.Decimal.HalfEven
import ProcessDiagram.Proofs.Decimal.Numeral
import ProcessDiagram.Proofs.Description.Branching
import ProcessDiagram.Proofs.Description.Rewriting
import ProcessDiagram.Proofs.Document.Contents
import ProcessDiagram.Proofs.Document.CoordinateText
import ProcessDiagram.Proofs.Document.Obstacle
import ProcessDiagram.Proofs.Document.Recovery
import ProcessDiagram.Proofs.Document.Refusal
import ProcessDiagram.Proofs.Document.Stamps
import ProcessDiagram.Proofs.Document.Success
import ProcessDiagram.Proofs.Document.Texts
import ProcessDiagram.Proofs.Document.Tree
import ProcessDiagram.Proofs.Graph.Acceptance
import ProcessDiagram.Proofs.Graph.Chain
import ProcessDiagram.Proofs.Graph.Construction
import ProcessDiagram.Proofs.Graph.Draft
import ProcessDiagram.Proofs.Graph.Generic
import ProcessDiagram.Proofs.Graph.MaximalPath
import ProcessDiagram.Proofs.Graph.Orderly
import ProcessDiagram.Proofs.Graph.Passage
import ProcessDiagram.Proofs.Graph.Rooted
import ProcessDiagram.Proofs.Graph.Sound
import ProcessDiagram.Proofs.Graph.Spine
import ProcessDiagram.Proofs.Graph.Trail
import ProcessDiagram.Proofs.Graph.Trap
import ProcessDiagram.Proofs.Graph.Tree
import ProcessDiagram.Proofs.Identifier.History
import ProcessDiagram.Proofs.Identifier.Number
import ProcessDiagram.Proofs.Identifier.Sanitized
import ProcessDiagram.Proofs.Identifier.Token
import ProcessDiagram.Proofs.Layout.Attachment
import ProcessDiagram.Proofs.Layout.Branches
import ProcessDiagram.Proofs.Layout.Collision
import ProcessDiagram.Proofs.Layout.Column
import ProcessDiagram.Proofs.Layout.FirstEdge
import ProcessDiagram.Proofs.Layout.KnownPlaces
import ProcessDiagram.Proofs.Layout.KnownShapes
import ProcessDiagram.Proofs.Layout.Lanes
import ProcessDiagram.Proofs.Layout.Overlap
import ProcessDiagram.Proofs.Layout.Placement
import ProcessDiagram.Proofs.Layout.Rank
import ProcessDiagram.Proofs.Layout.Row
import ProcessDiagram.Proofs.Layout.SharedPoint
import ProcessDiagram.Proofs.Reach
import ProcessDiagram.Proofs.Table
import ProcessDiagram.Proofs.Telemetry.History
import ProcessDiagram.Proofs.Telemetry.Total
import ProcessDiagram.Proofs.Text.Utf8
import ProcessDiagram.Proofs.Validation.Anonymous
import ProcessDiagram.Proofs.Validation.Clash
import ProcessDiagram.Proofs.Validation.Conformance
import ProcessDiagram.Proofs.Validation.Decision
import ProcessDiagram.Proofs.Validation.Elements
import ProcessDiagram.Proofs.Validation.Ids
import ProcessDiagram.Proofs.Validation.Outline
import ProcessDiagram.Proofs.Validation.References
import ProcessDiagram.Proofs.Validation.Silence
import ProcessDiagram.Proofs.Validation.Verdict
import ProcessDiagram.Proofs.Xml.Assembly
import ProcessDiagram.Proofs.Xml.Entity
import ProcessDiagram.Proofs.Xml.Escape
import ProcessDiagram.Proofs.Xml.Resolution
import ProcessDiagram.Proofs.Xml.RoundTrip
import ProcessDiagram.Proofs.Xml.Tokens
import ProcessDiagram.Table
import ProcessDiagram.Telemetry.Attribute
import ProcessDiagram.Telemetry.Markup
import ProcessDiagram.Telemetry.Measure
import ProcessDiagram.Telemetry.Monitor
import ProcessDiagram.Telemetry.Severity
import ProcessDiagram.Text.Basic
import ProcessDiagram.Text.CaseTable
import ProcessDiagram.Text.Casing
import ProcessDiagram.Text.Encoding.Basic
import ProcessDiagram.Text.Encoding.BigFiveGrid
import ProcessDiagram.Text.Encoding.Chinese
import ProcessDiagram.Text.Encoding.CnsGrid
import ProcessDiagram.Text.Encoding.Escaped
import ProcessDiagram.Text.Encoding.GbGrid
import ProcessDiagram.Text.Encoding.Japanese
import ProcessDiagram.Text.Encoding.JisGrid
import ProcessDiagram.Text.Encoding.Korean
import ProcessDiagram.Text.Encoding.KsGrid
import ProcessDiagram.Text.Encoding.PageTable
import ProcessDiagram.Text.Encoding.Switching
import ProcessDiagram.Text.Encoding.Vietnamese
import ProcessDiagram.Text.Printable
import ProcessDiagram.Text.Quoted
import ProcessDiagram.Text.Utf8
import ProcessDiagram.Text.Word
import ProcessDiagram.Validation.Checker
import ProcessDiagram.Validation.Outline
import ProcessDiagram.Validation.Report
import ProcessDiagram.Validation.Rules
import ProcessDiagram.Xml.Address
import ProcessDiagram.Xml.Character
import ProcessDiagram.Xml.Content
import ProcessDiagram.Xml.Document
import ProcessDiagram.Xml.DocumentType.Basic
import ProcessDiagram.Xml.DocumentType.ContentModel
import ProcessDiagram.Xml.DocumentType.Declaration
import ProcessDiagram.Xml.DocumentType.Reader
import ProcessDiagram.Xml.Entity
import ProcessDiagram.Xml.Letter
import ProcessDiagram.Xml.Name
import ProcessDiagram.Xml.Preamble
import ProcessDiagram.Xml.Printer
import ProcessDiagram.Xml.Reader
import ProcessDiagram.Xml.Reading
import ProcessDiagram.Xml.Scan
import ProcessDiagram.Xml.Scope
import ProcessDiagram.Xml.Tag
import ProcessDiagram.Xml.Token
import ProcessDiagram.Xml.Tree
import ProcessDiagram.Xml.Written
