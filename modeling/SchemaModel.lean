import SchemaModel.Json.Printer
import SchemaModel.Json.Reader
import SchemaModel.Model.Equality
import SchemaModel.Naming
import SchemaModel.Pointer
import SchemaModel.Text.Blank
import SchemaModel.Reference
import SchemaModel.Text.Quoted
import SchemaModel.Json.Typed
import SchemaModel.Schema.Fault
import SchemaModel.Hint.Fault
import SchemaModel.Error
import SchemaModel.Text.SortedSet
import SchemaModel.Unseen
import SchemaModel.Schema.Content
import SchemaModel.Schema.Tree
import SchemaModel.Schema.Support
import SchemaModel.Graph.Node
import SchemaModel.Graph.Basic
import SchemaModel.Graph.Resolve
import SchemaModel.Graph.Index
import SchemaModel.Hint.Basic
import SchemaModel.Hint.Reader
import SchemaModel.Synthesis.Enumeration
import SchemaModel.Synthesis.Site
import SchemaModel.Synthesis.Walk
import SchemaModel.Synthesis.Models
import SchemaModel.Source.Comment
import SchemaModel.Source.Attribute
import SchemaModel.Source.ModuleName
import SchemaModel.Source.Boxing
import SchemaModel.Source.TypeText
import SchemaModel.Source.Overrides
import SchemaModel.Source.File
import SchemaModel.Files.FileSystem
import SchemaModel.Files.Output
import SchemaModel.CommandLine.Arguments
import SchemaModel.CommandLine.Run
import SchemaModel.Main
import SchemaModel.Proofs.Walk.Wire
import SchemaModel.Proofs.Walk.Dependencies
import SchemaModel.Proofs.Walk.Depth
import SchemaModel.Proofs.Source.ByValue
import SchemaModel.Proofs.Files.Generated
import SchemaModel.Proofs.Source.Fields
import SchemaModel.Proofs.Source.NameParts
import SchemaModel.Proofs.Text.IdentifierTable
import SchemaModel.Proofs.Source.Legal
import SchemaModel.Proofs.Source.Lexing
import SchemaModel.Proofs.Source.Reading
import SchemaModel.Proofs.Pointer
import SchemaModel.Proofs.Schema.Positions
import SchemaModel.Proofs.Graph.Pointers
import SchemaModel.Proofs.Graph.Index
import SchemaModel.Proofs.Graph.References
import SchemaModel.Proofs.Graph.Numbering
import SchemaModel.Proofs.Walk.Guarded
import SchemaModel.Proofs.Graph.Issues
import SchemaModel.Proofs.Schema.Inert
import SchemaModel.Proofs.Files.Tree
import SchemaModel.Proofs.Files.Changes
import SchemaModel.Proofs.Files.Runs
import SchemaModel.Proofs.Files.Replaced
import SchemaModel.Proofs.Files.Inside
import SchemaModel.Proofs.Source.IndexLines
import SchemaModel.Proofs.Walk.Aliases
import SchemaModel.Proofs.Source.TypeNames
import SchemaModel.Proofs.Walk.EnumNames
import SchemaModel.Proofs.Source.EqualHash
import SchemaModel.Proofs.Graph.Chains
import SchemaModel.Proofs.Walk.Failure
import SchemaModel.Proofs.Walk.ArrayCycles
import SchemaModel.Proofs.Model.HashChange
import SchemaModel.Proofs.Source.NumberedNames
import SchemaModel.Proofs.Schema.WellFormed
import SchemaModel.Proofs.Hint.Documents
import SchemaModel.Proofs.Walk.EnumMembers
import SchemaModel.Proofs.Walk.ClassNames
import SchemaModel.Proofs.Walk.Conflicts
import SchemaModel.Proofs.Walk.DefaultNames
import SchemaModel.Proofs.Reference
import SchemaModel.Proofs.Source.ModuleSearch
import SchemaModel.Proofs.Source.Comments
import SchemaModel.Proofs.Walk.Entered
import SchemaModel.Proofs.Walk.PropertyKeys
