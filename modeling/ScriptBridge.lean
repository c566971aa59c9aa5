import ScriptBridge.Artifact.Artifacts
import ScriptBridge.Artifact.Bindings
import ScriptBridge.Artifact.Declarations
import ScriptBridge.Artifact.EmitFault
import ScriptBridge.Artifact.Enumeration
import ScriptBridge.Artifact.Registrations
import ScriptBridge.Artifact.ScriptType
import ScriptBridge.CommandLine
import ScriptBridge.CommandLine.Options
import ScriptBridge.Descriptor
import ScriptBridge.Descriptor.Loader
import ScriptBridge.Error
import ScriptBridge.FileTree
import ScriptBridge.Layout
import ScriptBridge.Log
import ScriptBridge.Main
import ScriptBridge.Namespace.Resolver
import ScriptBridge.Namespace.Segments
import ScriptBridge.Naming
import ScriptBridge.Number.Binary64
import ScriptBridge.Number.IntegerLiteral
import ScriptBridge.Pattern
import ScriptBridge.Pattern.CharSet
import ScriptBridge.Pattern.Escape
import ScriptBridge.Pattern.Match
import ScriptBridge.Pattern.Reader
import ScriptBridge.Pattern.Template
import ScriptBridge.Pattern.Token
import ScriptBridge.Proofs.Artifact.Adapters
import ScriptBridge.Proofs.Artifact.Agreement
import ScriptBridge.Proofs.Artifact.BindingLayout
import ScriptBridge.Proofs.Artifact.BindingObjects
import ScriptBridge.Proofs.Artifact.Declarations
import ScriptBridge.Proofs.Artifact.DeclaredTypes
import ScriptBridge.Proofs.Artifact.Demands
import ScriptBridge.Proofs.Artifact.EnumerationReading
import ScriptBridge.Proofs.Artifact.Handlers
import ScriptBridge.Proofs.Artifact.Instantiations
import ScriptBridge.Proofs.Artifact.Markers
import ScriptBridge.Proofs.Artifact.Nullability
import ScriptBridge.Proofs.Artifact.OpenTypes
import ScriptBridge.Proofs.Artifact.ParameterNames
import ScriptBridge.Proofs.Artifact.PropertyNames
import ScriptBridge.Proofs.Artifact.Registrations
import ScriptBridge.Proofs.Artifact.Scoping
import ScriptBridge.Proofs.Artifact.Totality
import ScriptBridge.Proofs.Artifact.WrittenPaths
import ScriptBridge.Proofs.CommandLine.Outcomes
import ScriptBridge.Proofs.CommandLine.Rejections
import ScriptBridge.Proofs.Descriptor.Declarations
import ScriptBridge.Proofs.Descriptor.Defects
import ScriptBridge.Proofs.Descriptor.Keys
import ScriptBridge.Proofs.Descriptor.Loading
import ScriptBridge.Proofs.FileTree.Changes
import ScriptBridge.Proofs.FileTree.Places
import ScriptBridge.Proofs.FileTree.Refusals
import ScriptBridge.Proofs.Layout
import ScriptBridge.Proofs.Layout.Indentation
import ScriptBridge.Proofs.Namespace.Answers
import ScriptBridge.Proofs.Namespace.Canonical
import ScriptBridge.Proofs.Namespace.FirstRule
import ScriptBridge.Proofs.Namespace.Replacement
import ScriptBridge.Proofs.Namespace.Substitution
import ScriptBridge.Proofs.Naming.LeadingCapitals
import ScriptBridge.Proofs.Number.Numerals
import ScriptBridge.Proofs.Outcome
import ScriptBridge.Proofs.Pattern.Matching
import ScriptBridge.Proofs.Script.Quotation
import ScriptBridge.Proofs.Script.Tokens
import ScriptBridge.Proofs.Script.Unions
import ScriptBridge.Proofs.Session.Coherence
import ScriptBridge.Proofs.Session.Stopping
import ScriptBridge.Proofs.Session.Writing
import ScriptBridge.Proofs.Surface.Description
import ScriptBridge.Proofs.Surface.Exploration
import ScriptBridge.Proofs.Surface.Failures
import ScriptBridge.Proofs.Surface.Faults
import ScriptBridge.Proofs.Surface.FirstDeclaration
import ScriptBridge.Proofs.Surface.Insertion
import ScriptBridge.Proofs.Surface.Placement
import ScriptBridge.Proofs.Surface.Reach
import ScriptBridge.Proofs.Surface.Rearrangement
import ScriptBridge.Proofs.Surface.Redeclaration
import ScriptBridge.Proofs.Surface.Reruns
import ScriptBridge.Proofs.Surface.Selection
import ScriptBridge.Proofs.Surface.Steps
import ScriptBridge.Proofs.Surface.Tree
import ScriptBridge.Proofs.Surface.Views
import ScriptBridge.Proofs.Surface.Visits
import ScriptBridge.Proofs.Text.Lowering
import ScriptBridge.Proofs.Text.Nesting
import ScriptBridge.Proofs.Text.Runs
import ScriptBridge.Proofs.Text.Split
import ScriptBridge.Proofs.Text.Unpaired
import ScriptBridge.Proofs.TypeExpr.Composition
import ScriptBridge.Proofs.TypeExpr.Derivability
import ScriptBridge.Proofs.TypeExpr.Grammar
import ScriptBridge.Proofs.TypeExpr.Lexing
import ScriptBridge.Proofs.TypeExpr.RoundTrip
import ScriptBridge.Proofs.TypeExpr.Spacing
import ScriptBridge.Proofs.TypeRef.Arities
import ScriptBridge.Proofs.TypeRef.Declared
import ScriptBridge.Proofs.TypeRef.KnownNames
import ScriptBridge.Proofs.TypeRef.Mentions
import ScriptBridge.Proofs.TypeRef.NormalForm
import ScriptBridge.Proofs.TypeRef.NullableSpellings
import ScriptBridge.Proofs.TypeRef.Precedence
import ScriptBridge.Proofs.TypeRef.Resolution
import ScriptBridge.Proofs.Value.Digits
import ScriptBridge.Session
import ScriptBridge.Surface
import ScriptBridge.Surface.Discovery
import ScriptBridge.Surface.Tree
import ScriptBridge.Text.Alphabetic
import ScriptBridge.Text.Blank
import ScriptBridge.Text.Case
import ScriptBridge.Text.CaseMatching
import ScriptBridge.Text.CharName
import ScriptBridge.Text.CodeRun
import ScriptBridge.Text.Identifier
import ScriptBridge.Text.Numeric
import ScriptBridge.Text.Printable
import ScriptBridge.Text.Quoted
import ScriptBridge.Text.Split
import ScriptBridge.Text.Unpaired
import ScriptBridge.TypeExpr
import ScriptBridge.TypeExpr.Parser
import ScriptBridge.TypeExpr.Token
import ScriptBridge.TypeIdentity
import ScriptBridge.TypeRef
import ScriptBridge.TypeRef.Display
import ScriptBridge.TypeRef.Known
import ScriptBridge.TypeRef.Registry
import ScriptBridge.Value
import ScriptBridge.Value.Reader
