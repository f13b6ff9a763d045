import ExtensionAtlas.Main
import ExtensionAtlas.Model.Batch
import ExtensionAtlas.Pattern.Ends
import ExtensionAtlas.Record.Coupling
import ExtensionAtlas.Record.Document
import ExtensionAtlas.Record.Reader
import ExtensionAtlas.Record.Storage
import ExtensionAtlas.Record.Writer
import ExtensionAtlas.Proofs.Graph.BatchOrder
import ExtensionAtlas.Proofs.Graph.EventLinks
import ExtensionAtlas.Proofs.Graph.ExtensionEdges
import ExtensionAtlas.Proofs.Graph.Resync
import ExtensionAtlas.Proofs.Integration.Multiplicity
import ExtensionAtlas.Proofs.Source.RoundTrip
import ExtensionAtlas.Service.App
import ExtensionAtlas.Proofs.Graph.Containment
import ExtensionAtlas.Proofs.Graph.Precedence
import ExtensionAtlas.Proofs.Files.Path
import ExtensionAtlas.Proofs.Analyzer.FailedReads
import ExtensionAtlas.Proofs.Pattern.Captures
import ExtensionAtlas.Proofs.Text.OddLetters
import ExtensionAtlas.Proofs.Source.Legible
import ExtensionAtlas.Proofs.Analyzer.IllegibleFiles
import ExtensionAtlas.Proofs.Graph.Overloads
import ExtensionAtlas.Proofs.Document.Faithful
import ExtensionAtlas.Proofs.Service.Handling
import ExtensionAtlas.Proofs.Service.Lifecycle
import ExtensionAtlas.Proofs.Service.NotFound
import ExtensionAtlas.Proofs.Source.FlowfieldLines
import ExtensionAtlas.Proofs.Source.FlowTables
import ExtensionAtlas.Proofs.Source.EventAttributes
import ExtensionAtlas.Proofs.Source.Nesting
import ExtensionAtlas.Proofs.Source.HeadingEnds
import ExtensionAtlas.Proofs.Graph.ParameterTexts
import ExtensionAtlas.Proofs.Graph.Nameless
import ExtensionAtlas.Proofs.Graph.FieldFormulas
import ExtensionAtlas.Proofs.Source.FormulaMethods
import ExtensionAtlas.Proofs.Source.Dependencies
import ExtensionAtlas.Proofs.Source.RoleOrder
import ExtensionAtlas.Proofs.Files.Inputs
import ExtensionAtlas.Proofs.Analyzer.ByteOrderMark
