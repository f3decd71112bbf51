import CodeAtlas.Command.Arguments
import CodeAtlas.Command.Encode
import CodeAtlas.Command.Run
import CodeAtlas.Command.Table
import CodeAtlas.Config.Basic
import CodeAtlas.Config.Schema
import CodeAtlas.Declaration.Line
import CodeAtlas.Declaration.Scan
import CodeAtlas.Engine
import CodeAtlas.Failure
import CodeAtlas.Glob.Basic
import CodeAtlas.Glob.Filter
import CodeAtlas.Glob.Parse
import CodeAtlas.Grammar.Extent
import CodeAtlas.Grammar.Lexer
import CodeAtlas.Grammar.Read
import CodeAtlas.Grammar.Statement
import CodeAtlas.Grammar.Symbols
import CodeAtlas.Grammar.Token
import CodeAtlas.Grammar.Tree
import CodeAtlas.Graph.Basic
import CodeAtlas.Graph.Build
import CodeAtlas.Graph.Cycle
import CodeAtlas.Graph.Ranking
import CodeAtlas.Graph.Traversal
import CodeAtlas.Heritage
import CodeAtlas.Hint.Basic
import CodeAtlas.Hint.Expression
import CodeAtlas.Hint.Infer
import CodeAtlas.Hint.Source
import CodeAtlas.Inquiry.Basic
import CodeAtlas.Inquiry.Cache
import CodeAtlas.Json.Basic
import CodeAtlas.Json.Parse
import CodeAtlas.Language
import CodeAtlas.Main
import CodeAtlas.Module.Basic
import CodeAtlas.Module.Scan
import CodeAtlas.Module.Statement
import CodeAtlas.Path
import CodeAtlas.Pattern.Basic
import CodeAtlas.Pattern.Match
import CodeAtlas.Pattern.Parse
import CodeAtlas.Pattern.Property
import CodeAtlas.Query.Context
import CodeAtlas.Query.Hint
import CodeAtlas.Query.Navigation
import CodeAtlas.Query.Reference
import CodeAtlas.Query.Unused
import CodeAtlas.Search.Basic
import CodeAtlas.Search.NameMatcher
import CodeAtlas.Symbol.Basic
import CodeAtlas.Symbol.Outline
import CodeAtlas.Symbol.Parser
import CodeAtlas.Text.Basic
import CodeAtlas.Text.Casing
import CodeAtlas.Text.CharClass
import CodeAtlas.Text.Cursor
import CodeAtlas.Text.Delimiter
import CodeAtlas.Text.Mask
import CodeAtlas.Text.Position
import CodeAtlas.Text.Table.Alphabetic
import CodeAtlas.Text.Table.Basic
import CodeAtlas.Text.Table.Casing
import CodeAtlas.Text.Table.Category
import CodeAtlas.Text.Table.Decimal
import CodeAtlas.Text.Table.Numeric
import CodeAtlas.Text.Table.Script
import CodeAtlas.Text.Table.Width
import CodeAtlas.Text.Table.Word
import CodeAtlas.Text.Width
import CodeAtlas.Text.Word
import CodeAtlas.Workspace.Basic
import CodeAtlas.Workspace.FileTree
import CodeAtlas.Workspace.Ignore
import CodeAtlas.Workspace.Memory
import CodeAtlas.Workspace.Resolution
import CodeAtlas.Workspace.Storage
import CodeAtlas.Path.Order
import CodeAtlas.Proofs.Graph.Rotation
import CodeAtlas.Proofs.Graph.Cycle
import CodeAtlas.Proofs.Graph.Reported
import CodeAtlas.Proofs.Graph.Declared
import CodeAtlas.Proofs.Graph.Transpose
import CodeAtlas.Proofs.Graph.Reach
import CodeAtlas.Proofs.Inquiry.Asks
import CodeAtlas.Proofs.Query.Asks
import CodeAtlas.Proofs.Inquiry.Cache
import CodeAtlas.Proofs.Engine.Transparency
import CodeAtlas.Proofs.Engine.LastGraph
import CodeAtlas.Proofs.Text.Cut
import CodeAtlas.Proofs.Text.Mask
import CodeAtlas.Proofs.Text.Walk
import CodeAtlas.Proofs.Text.Trim
import CodeAtlas.Proofs.Text.Literal
import CodeAtlas.Proofs.Text.Name
import CodeAtlas.Proofs.Text.Rows
import CodeAtlas.Proofs.Text.Nested
import CodeAtlas.Proofs.Pattern.Reads
import CodeAtlas.Proofs.Pattern.Passes
import CodeAtlas.Proofs.Pattern.Word
import CodeAtlas.Proofs.Pattern.Search
import CodeAtlas.Proofs.Pattern.Ahead
import CodeAtlas.Proofs.Scanner.Basic
import CodeAtlas.Proofs.Scanner.Declaration
import CodeAtlas.Proofs.Scanner.Module
import CodeAtlas.Proofs.Scanner.Expression
import CodeAtlas.Proofs.Scanner.Hint
import CodeAtlas.Proofs.Scanner.Total
import CodeAtlas.Proofs.Module.Record
import CodeAtlas.Proofs.Module.Literal
import CodeAtlas.Proofs.Module.Line
import CodeAtlas.Proofs.Module.Found
import CodeAtlas.Proofs.Module.Led
import CodeAtlas.Proofs.Module.Missed
import CodeAtlas.Proofs.Module.Places
import CodeAtlas.Proofs.Module.Denote
import CodeAtlas.Proofs.Module.Merge
import CodeAtlas.Proofs.Module.Printed
import CodeAtlas.Proofs.Module.Comment
import CodeAtlas.Proofs.Module.Unquoted
import CodeAtlas.Proofs.Declaration.Listing
import CodeAtlas.Proofs.Declaration.Shape
import CodeAtlas.Proofs.Declaration.Tells
import CodeAtlas.Proofs.Declaration.Printed
import CodeAtlas.Proofs.Declaration.Anchor
import CodeAtlas.Proofs.Declaration.Contained
import CodeAtlas.Proofs.Declaration.Offered
import CodeAtlas.Proofs.Declaration.Sought
import CodeAtlas.Proofs.Declaration.Skimmed
import CodeAtlas.Proofs.Declaration.Misread
import CodeAtlas.Proofs.Declaration.Exported
import CodeAtlas.Proofs.Text.Word
import CodeAtlas.Proofs.Query.Reference
import CodeAtlas.Proofs.Query.Definition
import CodeAtlas.Proofs.Search.Named
import CodeAtlas.Proofs.Hint.Annotated
import CodeAtlas.Proofs.Heritage.Recovered
import CodeAtlas.Proofs.Engine.Confinement
import CodeAtlas.Proofs.Symbol.Nested
import CodeAtlas.Proofs.Query.Hierarchy
import CodeAtlas.Proofs.Text.Touched
import CodeAtlas.Proofs.Query.Cursor
import CodeAtlas.Proofs.Workspace.Place
import CodeAtlas.Proofs.Query.Unused
import CodeAtlas.Proofs.Text.Parts
import CodeAtlas.Proofs.Hint.Elements
import CodeAtlas.Proofs.Hint.Promise
import CodeAtlas.Proofs.Query.Enclosing
import CodeAtlas.Proofs.Declaration.Method
import CodeAtlas.Proofs.Workspace.Guard
import CodeAtlas.Proofs.Hint.Nested
import CodeAtlas.Proofs.Text.Lookup
import CodeAtlas.Proofs.Text.TopLevel
import CodeAtlas.Proofs.Text.Position
import CodeAtlas.Proofs.Text.Paired
