import Subgraph.Main
import Subgraph.Proofs.Preorder
import Subgraph.Proofs.Registration
import Subgraph.Proofs.Entities
import Subgraph.Proofs.Names
import Subgraph.Proofs.Trim
import Subgraph.Proofs.TypeExpr
import Subgraph.Proofs.Closure
import Subgraph.Proofs.Draft.Register
import Subgraph.Proofs.Draft.Basic
import Subgraph.Proofs.Draft.Advance
import Subgraph.Proofs.Comment
import Subgraph.Proofs.Sdl.Literal
import Subgraph.Proofs.Sdl.Token
import Subgraph.Proofs.Sdl.Grammar
import Subgraph.Proofs.Sdl.Outline
import Subgraph.Proofs.Sdl.Reading
import Subgraph.Proofs.Sdl.Service
import Subgraph.Proofs.Draft.History
import Subgraph.Proofs.Draft.Agreement
import Subgraph.Proofs.Draft.Termination
import Subgraph.Proofs.Draft.Definitions
import Subgraph.Proofs.Arguments
import Subgraph.Proofs.Isolation
import Subgraph.Proofs.FileTree
import Subgraph.Proofs.CommandLine.Work
import Subgraph.Proofs.CommandLine.Delivery
import Subgraph.Proofs.Config
import Subgraph.Proofs.Reporting
import Subgraph.Proofs.CommandLine.Flags
import Subgraph.Proofs.CommandLine.Agreement
import Subgraph.Proofs.Draft.Extension
import Subgraph.Proofs.Options.Change
import Subgraph.Proofs.Options.Influence
import Subgraph.Proofs.Options.Unreadable
import Subgraph.Proofs.Link.Declarations
import Subgraph.Proofs.Link.References
import Subgraph.Proofs.Link.Order
import Subgraph.Proofs.SnakeCase
import Subgraph.Proofs.FieldNames
import Subgraph.Proofs.RootFields
import Subgraph.Proofs.Sdl.Imports
import Subgraph.Proofs.Validity
import Subgraph.Proofs.TypeExpr.Grammar
import Subgraph.Proofs.Sdl.Description
import Subgraph.Proofs.Link.Paths
import Subgraph.Proofs.Link.Comments
import Subgraph.Proofs.Comment.Delimiters
import Subgraph.Proofs.Sdl.Quotation
import Subgraph.Proofs.WordDivision
import Subgraph.Proofs.CaseRoundTrip
import Subgraph.Proofs.Wire
import Subgraph.Proofs.Options.Merge
import Subgraph.Proofs.Link.Selection
import Subgraph.Proofs.NameForms
import Subgraph.Proofs.Comment.SingleLine
import Subgraph.Proofs.SettledCase
import Subgraph.Proofs.Parameter.Fold
import Subgraph.Proofs.Config.Layers
import Subgraph.Proofs.Yaml.Scalar
import Subgraph.Proofs.Yaml.Quoted
import Subgraph.Proofs.Yaml.Escaped
import Subgraph.Proofs.Yaml.Atom
import Subgraph.Proofs.Yaml.Written
import Subgraph.Proofs.Yaml.RoundTrip
import Subgraph.Proofs.Config.Saved
import Subgraph.Proofs.IdentifierNames
import Subgraph.Proofs.TypeExpr.Peeling
import Subgraph.Proofs.Template
