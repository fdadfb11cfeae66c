import Unreferenced.Archive
import Unreferenced.Class.Hierarchy
import Unreferenced.Class.Registry
import Unreferenced.CommandLine.Arguments
import Unreferenced.CommandLine.Count
import Unreferenced.CommandLine.Response
import Unreferenced.Compile.Command
import Unreferenced.Compile.Database
import Unreferenced.Compile.Discovery
import Unreferenced.Compile.Load
import Unreferenced.Container.OrderedMap
import Unreferenced.Container.OrderedSet
import Unreferenced.Declaration
import Unreferenced.Facts
import Unreferenced.FileContents
import Unreferenced.FileSystem
import Unreferenced.Finding
import Unreferenced.FunctionSite.Basic
import Unreferenced.FunctionSite.Name
import Unreferenced.FunctionSite.Reading
import Unreferenced.Host
import Unreferenced.Include.Graph
import Unreferenced.Include.Guard
import Unreferenced.Include.SearchPath
import Unreferenced.Json.Basic
import Unreferenced.Json.Reader
import Unreferenced.Language
import Unreferenced.Ledger
import Unreferenced.Main
import Unreferenced.Note
import Unreferenced.Path
import Unreferenced.Pattern.Basic
import Unreferenced.Pattern.CharSet
import Unreferenced.Pattern.Escape
import Unreferenced.Pattern.Flag
import Unreferenced.Pattern.Matching
import Unreferenced.Pattern.Reader
import Unreferenced.Project
import Unreferenced.Settings
import Unreferenced.Settlement
import Unreferenced.Shell
import Unreferenced.Spelling.OperatorName
import Unreferenced.Spelling.ScopeName
import Unreferenced.Spelling.TypeName
import Unreferenced.Statistic
import Unreferenced.Symbol
import Unreferenced.Terminal
import Unreferenced.Text.Blank
import Unreferenced.Text.Case
import Unreferenced.Text.CellWidth
import Unreferenced.Text.CharacterNames
import Unreferenced.Text.CodePoint
import Unreferenced.Text.Cut
import Unreferenced.Text.Decimal
import Unreferenced.Text.Digit
import Unreferenced.Text.Emoji
import Unreferenced.Text.EmojiNames
import Unreferenced.Text.Integer
import Unreferenced.Text.Letter
import Unreferenced.Text.Numeral
import Unreferenced.Text.Printable
import Unreferenced.Text.Quoted
import Unreferenced.Text.Utf8
import Unreferenced.Text.Word
import Unreferenced.TranslationUnit.Basic
import Unreferenced.TranslationUnit.Chain
import Unreferenced.TranslationUnit.Lookup
import Unreferenced.TranslationUnit.Override
import Unreferenced.Tree.Basic
import Unreferenced.Tree.Below
import Unreferenced.Tree.Declarator
import Unreferenced.Tree.ErrorSearch
import Unreferenced.Tree.Signature
import Unreferenced.Tree.ValueType
import Unreferenced.Usage.Receiver
import Unreferenced.Usage.Scope
import Unreferenced.Usage.Search
import Unreferenced.Usage.Step
import Unreferenced.Violation
import Unreferenced.Proofs.History
import Unreferenced.Proofs.Settlement
import Unreferenced.Proofs.Chain
import Unreferenced.Proofs.Observation
import Unreferenced.Proofs.Analysis
import Unreferenced.Proofs.QualifiedScope
import Unreferenced.Proofs.SymbolDecoding
import Unreferenced.Proofs.Redeclaration
import Unreferenced.Proofs.SingleCounting
import Unreferenced.Proofs.BodySearch
import Unreferenced.Proofs.IncludeOrder
import Unreferenced.Proofs.Isolation
import Unreferenced.Proofs.FindingPlace
import Unreferenced.Proofs.DeclaratorPlace
import Unreferenced.Proofs.QualifierSpelling
import Unreferenced.Proofs.RegistryIndependence
import Unreferenced.Proofs.Unplaced
import Unreferenced.Proofs.OutOfLine
import Unreferenced.Proofs.Ancestry
import Unreferenced.Proofs.TopologicalOrder
import Unreferenced.Proofs.OverrideFixpoint
import Unreferenced.Proofs.NameLookup
import Unreferenced.Proofs.NormalPath
import Unreferenced.Proofs.PointerParameter
import Unreferenced.Proofs.IncludeDirective
import Unreferenced.Proofs.IncludeWalk
import Unreferenced.Proofs.MemberScope
import Unreferenced.Proofs.ScopeSpelling
import Unreferenced.Proofs.QualifiedLookup
import Unreferenced.Proofs.ScopeStore
import Unreferenced.Proofs.NodeReading
import Unreferenced.Proofs.NodeExchange
import Unreferenced.Proofs.BlockReplacement
import Unreferenced.Proofs.BlockScope
import Unreferenced.Proofs.MacroUse
import Unreferenced.Proofs.EventOrder
import Unreferenced.Proofs.GuardLines
import Unreferenced.Proofs.Utf8Decoding
import Unreferenced.Proofs.JsonFault
import Unreferenced.Proofs.DatabaseFault
import Unreferenced.Proofs.LexicalPath
import Unreferenced.Proofs.SystemHeader
import Unreferenced.Proofs.ExtraArguments
import Unreferenced.Proofs.DirectoryTree
import Unreferenced.Proofs.SourceDiscovery
import Unreferenced.Proofs.AncestorSearch
import Unreferenced.Proofs.BlankRun
import Unreferenced.Proofs.BracketMatching
import Unreferenced.Proofs.TypeSpacing
import Unreferenced.Proofs.SiteConsistency
import Unreferenced.Proofs.Narrowing
import Unreferenced.Proofs.FirstError
