import BannerGen.Assoc
import BannerGen.Diagnostic
import BannerGen.FileOperations
import BannerGen.FileTree
import BannerGen.FontAttribute.Alphabet
import BannerGen.FontAttribute.Expansion
import BannerGen.FontAttribute.Function
import BannerGen.FontAttribute.Grammar.Attribute
import BannerGen.FontAttribute.Grammar.Basic
import BannerGen.FontAttribute.Grammar.Expression
import BannerGen.FontAttribute.Grammar.Generics
import BannerGen.FontAttribute.Grammar.Item
import BannerGen.FontAttribute.Grammar.Operand
import BannerGen.FontAttribute.Grammar.Operator
import BannerGen.FontAttribute.Grammar.Path
import BannerGen.FontAttribute.Grammar.Pattern
import BannerGen.FontAttribute.Grammar.Rules
import BannerGen.FontAttribute.Grammar.Signature
import BannerGen.FontAttribute.Grammar.Start
import BannerGen.FontAttribute.Grammar.Statement
import BannerGen.FontAttribute.Grammar.TokenParser
import BannerGen.FontAttribute.Grammar.Type
import BannerGen.FontAttribute.Literal
import BannerGen.FontAttribute.Numeral
import BannerGen.FontAttribute.SyntaxError
import BannerGen.FontAttribute.Token
import BannerGen.FontTable
import BannerGen.ForestIndex
import BannerGen.Fragment
import BannerGen.Generator
import BannerGen.Identifier
import BannerGen.Identifier.Alphabet
import BannerGen.Json.Parser
import BannerGen.Json.Printer
import BannerGen.Json.Record
import BannerGen.Json.Token
import BannerGen.Json.Value
import BannerGen.Ledger
import BannerGen.Marker
import BannerGen.Output
import BannerGen.Proofs.Accounting
import BannerGen.Proofs.Building
import BannerGen.Proofs.Collecting
import BannerGen.Proofs.Contention
import BannerGen.Proofs.Emitting
import BannerGen.Proofs.Failure
import BannerGen.Proofs.ForestIndex
import BannerGen.Proofs.ForestText
import BannerGen.Proofs.Generation
import BannerGen.Proofs.Isolation
import BannerGen.Proofs.Json.Record
import BannerGen.Proofs.Json.Text
import BannerGen.Proofs.Layout
import BannerGen.Proofs.Occurrence
import BannerGen.Proofs.Omission
import BannerGen.Proofs.OutputText
import BannerGen.Proofs.Provenance
import BannerGen.Proofs.ReadBack
import BannerGen.Proofs.Schedule
import BannerGen.Proofs.SiteId
import BannerGen.Proofs.SpanOrder
import BannerGen.Proofs.TypeKey
import BannerGen.Request
import BannerGen.Resolver
import BannerGen.Route
import BannerGen.Session
import BannerGen.Settings
import BannerGen.SettingsFile
import BannerGen.Source.Declaration
import BannerGen.Source.Forest
import BannerGen.Source.Layout
import BannerGen.Source.Listing
import BannerGen.Source.SiteId
import BannerGen.Source.Span
import BannerGen.Source.TypeKey
import BannerGen.Text.Affix
import BannerGen.Text.Blank
import BannerGen.Text.CodePoints
import BannerGen.Text.Digits
import BannerGen.Text.LowerCase
import BannerGen.Text.LowerCase.Table
import BannerGen.Text.Quoted
import BannerGen.Text.Quoted.Table
import BannerGen.Text.Reader
import BannerGen.Text.Replace
import BannerGen.Toml.Document
import BannerGen.Toml.Moment
import BannerGen.Toml.Number
import BannerGen.Toml.Record
import BannerGen.Toml.Text
import BannerGen.Toml.Value
import BannerGen.Verbatim
import BannerGen.Proofs.Consultation
import BannerGen.Proofs.HintName
import BannerGen.Proofs.FileTree
import BannerGen.Proofs.Writing
import BannerGen.Proofs.Listing
import BannerGen.Proofs.Bare
import BannerGen.Proofs.Filling
import BannerGen.Proofs.SourceOrder
import BannerGen.Proofs.Resolution
import BannerGen.Proofs.Recognition
import BannerGen.Proofs.Location
import BannerGen.Proofs.LedgerHistory
import BannerGen.Proofs.FontCase
import BannerGen.Proofs.Ensures
import BannerGen.Proofs.Allocation
import BannerGen.Proofs.Tokens
import BannerGen.Proofs.Tokens
import BannerGen.Proofs.FontAttribute
