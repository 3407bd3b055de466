import GrammarKit.Abbreviation.Standard
import GrammarKit.Abbreviation.Table
import GrammarKit.About
import GrammarKit.Build
import GrammarKit.CommandLine.Arguments
import GrammarKit.CommandLine.Command
import GrammarKit.CommandLine.Report
import GrammarKit.CommandLine.Run
import GrammarKit.CommandLine.Session
import GrammarKit.Data.Date
import GrammarKit.Data.Value
import GrammarKit.Descriptor.Basic
import GrammarKit.Descriptor.Printer
import GrammarKit.Descriptor.TokenRule
import GrammarKit.Encoding.Basic
import GrammarKit.Encoding.Codec
import GrammarKit.Encoding.LeftOut
import GrammarKit.Encoding.SingleByte
import GrammarKit.Encoding.Tables
import GrammarKit.Encoding.Utf16
import GrammarKit.Encoding.Utf8
import GrammarKit.FileTree.Basic
import GrammarKit.FileTree.Path
import GrammarKit.FileTree.TextFile
import GrammarKit.Glob.Basic
import GrammarKit.Glob.Piece
import GrammarKit.Header.Basic
import GrammarKit.Header.Reader
import GrammarKit.Header.Strip
import GrammarKit.Json.Printer
import GrammarKit.Language.Rao
import GrammarKit.Language.Registry
import GrammarKit.Log
import GrammarKit.Main
import GrammarKit.Number.Binary64
import GrammarKit.Number.Numeral
import GrammarKit.OrderedMap
import GrammarKit.Proofs.AccessRuns
import GrammarKit.Proofs.AccessShortening
import GrammarKit.Proofs.AsciiText
import GrammarKit.Proofs.BodyReading
import GrammarKit.Proofs.BodyShortening
import GrammarKit.Proofs.BuildEncoding
import GrammarKit.Proofs.BuildOutput
import GrammarKit.Proofs.BuildRefusal
import GrammarKit.Proofs.BuildSizes
import GrammarKit.Proofs.CollectedNames
import GrammarKit.Proofs.Collecting
import GrammarKit.Proofs.CommaLists
import GrammarKit.Proofs.CommandArguments
import GrammarKit.Proofs.CommandOutput
import GrammarKit.Proofs.EntryPoint
import GrammarKit.Proofs.FilesBelow
import GrammarKit.Proofs.FilterReports
import GrammarKit.Proofs.FirstWays
import GrammarKit.Proofs.GlobListings
import GrammarKit.Proofs.HeaderAgreement
import GrammarKit.Proofs.HeaderFields
import GrammarKit.Proofs.HeaderReading
import GrammarKit.Proofs.HeaderRemoval
import GrammarKit.Proofs.HeaderRoundTrip
import GrammarKit.Proofs.HeaderShortening
import GrammarKit.Proofs.JsonStrings
import GrammarKit.Proofs.LanguageFiles
import GrammarKit.Proofs.LoadedSettings
import GrammarKit.Proofs.LongestNames
import GrammarKit.Proofs.LookUps
import GrammarKit.Proofs.MapEntries
import GrammarKit.Proofs.Marks
import GrammarKit.Proofs.NameShortening
import GrammarKit.Proofs.NamesSuffice
import GrammarKit.Proofs.NullFreePaths
import GrammarKit.Proofs.NumberLiterals
import GrammarKit.Proofs.PatternLiterals
import GrammarKit.Proofs.PatternPlaces
import GrammarKit.Proofs.Pieces
import GrammarKit.Proofs.QualifierLists
import GrammarKit.Proofs.RaoWords
import GrammarKit.Proofs.ReadingBack
import GrammarKit.Proofs.Rebuilding
import GrammarKit.Proofs.RegistryHistory
import GrammarKit.Proofs.RegistryRequests
import GrammarKit.Proofs.RepeatedChanges
import GrammarKit.Proofs.Repetition
import GrammarKit.Proofs.Replacing
import GrammarKit.Proofs.ReportedErrors
import GrammarKit.Proofs.SeparatePlaces
import GrammarKit.Proofs.SettingEntries
import GrammarKit.Proofs.ShorteningErrors
import GrammarKit.Proofs.ShorteningTwice
import GrammarKit.Proofs.Sorting
import GrammarKit.Proofs.SourceParts
import GrammarKit.Proofs.SourceSelection
import GrammarKit.Proofs.StartCaseTwice
import GrammarKit.Proofs.StartCaseWords
import GrammarKit.Proofs.Stretches
import GrammarKit.Proofs.StyleListings
import GrammarKit.Proofs.Tokens
import GrammarKit.Proofs.TransformedText
import GrammarKit.Proofs.TreeChanges
import GrammarKit.Proofs.Trimming
import GrammarKit.Proofs.UsableSettings
import GrammarKit.Proofs.WantedFiles
import GrammarKit.Proofs.Wildcards
import GrammarKit.Proofs.WordCategories
import GrammarKit.Proofs.WordChunks
import GrammarKit.Proofs.WordLists
import GrammarKit.Proofs.WordRuns
import GrammarKit.Regex.CharSet
import GrammarKit.Regex.Choice
import GrammarKit.Regex.Matching
import GrammarKit.Regex.Pattern
import GrammarKit.Regex.Reader
import GrammarKit.Regex.Search
import GrammarKit.Regex.Template
import GrammarKit.Selection.Collect
import GrammarKit.Selection.Qualifiers
import GrammarKit.Settings.Basic
import GrammarKit.Settings.Reader
import GrammarKit.Style.Listing
import GrammarKit.Style.StartCase
import GrammarKit.Substitution.Rule
import GrammarKit.Text.Basic
import GrammarKit.Text.Blank
import GrammarKit.Text.Case
import GrammarKit.Text.CaseTable
import GrammarKit.Text.CharRanges
import GrammarKit.Text.Identifier
import GrammarKit.Text.LineBreak
import GrammarKit.Text.PrintableTable
import GrammarKit.Text.Quoted
import GrammarKit.Text.WordChar
import GrammarKit.Text.WordTable
import GrammarKit.Yaml.Assembly
import GrammarKit.Yaml.BlockScalar
import GrammarKit.Yaml.Cursor
import GrammarKit.Yaml.Document
import GrammarKit.Yaml.Error
import GrammarKit.Yaml.Graph.Basic
import GrammarKit.Yaml.Graph.Reader
import GrammarKit.Yaml.Lexer
import GrammarKit.Yaml.PlainScalar
import GrammarKit.Yaml.QuotedScalar
import GrammarKit.Yaml.Scalar
import GrammarKit.Yaml.Timestamp
import GrammarKit.Yaml.Token
