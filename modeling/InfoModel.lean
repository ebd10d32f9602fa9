import InfoModel.Collection.Memo
import InfoModel.Collection.NamedMap
import InfoModel.Collection.SortedMap
import InfoModel.Constraint.Basic
import InfoModel.Constraint.Compile
import InfoModel.Constraint.Declared
import InfoModel.Constraint.Fault
import InfoModel.Constraint.Reader
import InfoModel.Datatype.Basic
import InfoModel.Datatype.Parse
import InfoModel.Datatype.Registry
import InfoModel.Documentation
import InfoModel.Event
import InfoModel.Fault
import InfoModel.Model.Build
import InfoModel.Model.Building
import InfoModel.Model.Content
import InfoModel.Model.Declared
import InfoModel.Model.Definition
import InfoModel.Model.Fault
import InfoModel.Model.Instance
import InfoModel.Model.Loader
import InfoModel.Model.Module
import InfoModel.Model.Part
import InfoModel.Model.Placed
import InfoModel.Model.Reader
import InfoModel.Model.Resolution
import InfoModel.Model.Store
import InfoModel.Model.Visibility
import InfoModel.Model.Vocabulary
import InfoModel.Name.QName
import InfoModel.Name.Reference
import InfoModel.Number.Binary64
import InfoModel.Occurrence
import InfoModel.Pattern.Basic
import InfoModel.Pattern.CharClass
import InfoModel.Pattern.Match
import InfoModel.Pattern.Node
import InfoModel.Pattern.Parser
import InfoModel.Pattern.Preference
import InfoModel.Property
import InfoModel.Report.Basic
import InfoModel.Report.Constraint
import InfoModel.Report.Model
import InfoModel.Report.Module
import InfoModel.Settings
import InfoModel.Source
import InfoModel.Text.Digits
import InfoModel.Text.Quoted
import InfoModel.Text.Trim
import InfoModel.Traced
import InfoModel.Tree.Basic
import InfoModel.Tree.Field
import InfoModel.Tree.Printer
import InfoModel.Tree.Reader
import InfoModel.Unicode.Age
import InfoModel.Unicode.Break
import InfoModel.Unicode.Category
import InfoModel.Unicode.CodeSet
import InfoModel.Unicode.Fold
import InfoModel.Unicode.Letter
import InfoModel.Unicode.Property
import InfoModel.Unicode.Script
import InfoModel.Unicode.ScriptExtension
import InfoModel.Uri.Basic
import InfoModel.Uri.Host
import InfoModel.Uri.Parser
import InfoModel.Uri.Path
import InfoModel.Uri.Percent
import InfoModel.Value.Address
import InfoModel.Value.Base64
import InfoModel.Value.Basic
import InfoModel.Value.Calendar
import InfoModel.Value.Clock
import InfoModel.Value.Decimal
import InfoModel.Value.Duration
import InfoModel.Value.Hostname
import InfoModel.Value.Uuid
import InfoModel.Workspace
import InfoModel.Proofs.Collection.Dictionary
import InfoModel.Proofs.Module.Registration
import InfoModel.Proofs.Module.Graph
import InfoModel.Proofs.Visibility.Table
import InfoModel.Proofs.Visibility.Reference
import InfoModel.Proofs.Loader.Rule
import InfoModel.Proofs.Building.Ownership
import InfoModel.Proofs.Building.Module
import InfoModel.Proofs.Store.History
import InfoModel.Proofs.Visibility.Exports
import InfoModel.Proofs.Visibility.Relabelling
import InfoModel.Proofs.Building.Relabelling
import InfoModel.Proofs.Building.Outcome
import InfoModel.Proofs.Store.Numbers
import InfoModel.Proofs.Building.Declared
import InfoModel.Proofs.Building.Eager
import InfoModel.Proofs.Loader.Search
import InfoModel.Proofs.Loader.Refusal
import InfoModel.Proofs.Loader.Agreement
import InfoModel.Proofs.Loader.Repetition
import InfoModel.Proofs.Loader.Classification
import InfoModel.Proofs.Loader.History
import InfoModel.Proofs.Store.Journal
import InfoModel.Proofs.Loader.Trace
import InfoModel.Proofs.Loader.Cache
import InfoModel.Proofs.Resolution.Occupant
import InfoModel.Proofs.Resolution.Place
import InfoModel.Proofs.Resolution.Order
import InfoModel.Proofs.Resolution.Completeness
import InfoModel.Proofs.Query.Basic
import InfoModel.Proofs.Query.Once
import InfoModel.Proofs.Query.Cell
import InfoModel.Proofs.Query.Commute
import InfoModel.Proofs.Query.Relabelling
import InfoModel.Proofs.Loader.Eager
import InfoModel.Proofs.Constraint.Context
import InfoModel.Proofs.Building.Written
import InfoModel.Proofs.Resolution.Lexical
import InfoModel.Proofs.Building.Outline
import InfoModel.Proofs.Query.Boundary
import InfoModel.Proofs.Workspace.Ledger
import InfoModel.Proofs.Loader.Growth
import InfoModel.Proofs.Workspace.Session
import InfoModel.Proofs.Workspace.Release
import InfoModel.Proofs.Collection.View
import InfoModel.Proofs.Fault
import InfoModel.Proofs.Module.Validity
import InfoModel.Proofs.Building.Siblings
import InfoModel.Proofs.Building.Refusal
import InfoModel.Proofs.Building.Children
import InfoModel.Proofs.Building.Flags
import InfoModel.Proofs.Building.Alternatives
import InfoModel.Proofs.Module.Declarations
import InfoModel.Proofs.Text.Cut
import InfoModel.Proofs.Collection.Sorted
import InfoModel.Proofs.Unicode.Written
import InfoModel.Proofs.Unicode.Blank
import InfoModel.Proofs.Name.Form
import InfoModel.Proofs.Name.Printed
import InfoModel.Proofs.Constraint.Block
import InfoModel.Proofs.Pattern.Meaning
import InfoModel.Proofs.Pattern.Local
import InfoModel.Proofs.Pattern.Primitive
import InfoModel.Proofs.Pattern.Bracket
import InfoModel.Proofs.Pattern.Group
import InfoModel.Proofs.Pattern.Enclosure
import InfoModel.Proofs.Text.Numeral
import InfoModel.Proofs.Occurrence.Bound
import InfoModel.Proofs.Occurrence.Carried
import InfoModel.Proofs.Constraint.Cardinality
import InfoModel.Proofs.Value.Decimal
import InfoModel.Proofs.Value.Offset
import InfoModel.Proofs.Value.Hostname
import InfoModel.Proofs.Value.Duration
import InfoModel.Proofs.Value.Integer
import InfoModel.Proofs.Building.Defaults
import InfoModel.Proofs.Value.Base64
import InfoModel.Proofs.Collection.Grouping
import InfoModel.Proofs.Collection.Insertion
import InfoModel.Proofs.Tree.Numeral
import InfoModel.Proofs.Tree.Written
import InfoModel.Proofs.Tree.Requoted
import InfoModel.Proofs.Tree.Printed
import InfoModel.Proofs.Module.Requoted
import InfoModel.Proofs.Building.Quoted
