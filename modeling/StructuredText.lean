import StructuredText.Invocation.Rendering
import StructuredText.Document.Traversal
import StructuredText.Parser
import StructuredText.Passthrough.Registration
import StructuredText.Settings.Loading
import StructuredText.Proofs.Inline.Boundaries
import StructuredText.Proofs.Inline.Lossless
import StructuredText.Proofs.Text.Lines
import StructuredText.Proofs.Text.Margin
import StructuredText.Proofs.Invocation.FieldMarker
import StructuredText.Proofs.Block.Chunk
import StructuredText.Proofs.Block.DirectiveMarker
import StructuredText.Proofs.Invocation.Options
import StructuredText.Proofs.Invocation.Arguments
import StructuredText.Proofs.Invocation.RoundTrip
import StructuredText.Proofs.Parser.Blocks
import StructuredText.Proofs.Domain.Catalog
import StructuredText.Proofs.Invocation.Rendering
import StructuredText.Proofs.Text.Lowercase
import StructuredText.Proofs.Parser.Shift
import StructuredText.Proofs.Document.Occurrence
import StructuredText.Proofs.Parser.Reading
import StructuredText.Proofs.Passthrough.RoundTrip
import StructuredText.Proofs.Passthrough.Canonical
import StructuredText.Proofs.Document.Lines
import StructuredText.Proofs.Passthrough.Coverage
import StructuredText.Proofs.Inline.Agreement
import StructuredText.Proofs.Passthrough.Skeleton
import StructuredText.Proofs.Passthrough.Roles
import StructuredText.Proofs.Passthrough.Confinement
import StructuredText.Proofs.Block.Boundary
import StructuredText.Proofs.Parser.Composition
import StructuredText.Proofs.Text.Indented
import StructuredText.Proofs.Document.Nesting
import StructuredText.Proofs.Parser.Quoting
import StructuredText.Proofs.Parser.Comparison
import StructuredText.Proofs.Passthrough.Depth
import StructuredText.Proofs.Passthrough.Body
import StructuredText.Proofs.Passthrough.QualifiedNames
import StructuredText.Proofs.Passthrough.Installation
import StructuredText.Proofs.Invocation.Relaxation
import StructuredText.Proofs.Invocation.Optionless
import StructuredText.Proofs.Inline.SelfContained
import StructuredText.Proofs.Inline.Verbatim
import StructuredText.Proofs.Invocation.Conservation
import StructuredText.Proofs.Invocation.WellFormed
import StructuredText.Proofs.Parser.Runs
import StructuredText.Proofs.Passthrough.BareRoles
import StructuredText.Proofs.Text.Protection
import StructuredText.Proofs.Inline.Inert
import StructuredText.Proofs.Parser.Literal
import StructuredText.Proofs.Inline.RoleMarker
import StructuredText.Proofs.Inline.RoleText
import StructuredText.Proofs.Inline.Titles
import StructuredText.Proofs.Passthrough.Spelling
import StructuredText.Proofs.Document.Extent
import StructuredText.Proofs.Parser.Extension
import StructuredText.Proofs.Parser.Inclusion
import StructuredText.Proofs.Settings.Loading
import StructuredText.Proofs.Document.Preorder
import StructuredText.Proofs.Text.Layout
import StructuredText.Proofs.Parser.Layout
import StructuredText.Proofs.Block.MarkerGrammar
import StructuredText.Proofs.Parser.Markup
import StructuredText.Proofs.Text.Numeral
import StructuredText.Proofs.Text.CharacterClasses
import StructuredText.Proofs.Shape.StandardForm
import StructuredText.Proofs.Domain.Lineage
import StructuredText.Proofs.FileTree
import StructuredText.Proofs.Settings.Reading
import StructuredText.Proofs.Settings.Discovery
import StructuredText.Proofs.Invocation.LimitedSplitting
import StructuredText.Proofs.Passthrough.PluginChoice
import StructuredText.Proofs.Text.Codec
