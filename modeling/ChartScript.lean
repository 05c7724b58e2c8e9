import ChartScript.Chart
import ChartScript.CommandFile
import ChartScript.CommandLine
import ChartScript.CommandLine.Run
import ChartScript.Definition
import ChartScript.DefinitionIndex
import ChartScript.DefinitionTable
import ChartScript.Directive
import ChartScript.Document
import ChartScript.Encoding
import ChartScript.Encoding.SingleByte
import ChartScript.Encoding.Utf16
import ChartScript.Encoding.Utf8
import ChartScript.Environment
import ChartScript.Event
import ChartScript.Expansion
import ChartScript.Expression
import ChartScript.Fault
import ChartScript.FileTree
import ChartScript.Json
import ChartScript.Json.Reader
import ChartScript.Json.Record
import ChartScript.LoadedFile
import ChartScript.Log
import ChartScript.Loop.Unroll
import ChartScript.Main
import ChartScript.Marker
import ChartScript.Options
import ChartScript.QualifiedName
import ChartScript.Range
import ChartScript.Registry
import ChartScript.Segment
import ChartScript.SettingsFile
import ChartScript.SettingsFile.Entry
import ChartScript.SettingsFile.Value
import ChartScript.SourceLine
import ChartScript.Text
import ChartScript.Text.Alphanumeric
import ChartScript.Text.Decimal
import ChartScript.Text.Lowercase
import ChartScript.Text.Search
import ChartScript.Text.Token
import ChartScript.Proofs.ErrorPolicies
import ChartScript.Proofs.ExpansionRerun
import ChartScript.Proofs.Substitution
import ChartScript.Proofs.RunComposition
import ChartScript.Proofs.LineExchange
import ChartScript.Proofs.SeriesMarkers
import ChartScript.Proofs.LoopUnrolling
import ChartScript.Proofs.WrittenRanges
import ChartScript.Proofs.DatasetNumbers
import ChartScript.Proofs.DatasetCount
import ChartScript.Proofs.BoundReferences
import ChartScript.Proofs.LastDefinitions
import ChartScript.Proofs.DerivedFlags
import ChartScript.Proofs.ReportedLines
import ChartScript.Proofs.ListContents
import ChartScript.Proofs.RangeLists
import ChartScript.Proofs.PassedLines
import ChartScript.Proofs.SubstitutionInOnePass
import ChartScript.Proofs.BlankRuns
import ChartScript.Proofs.DefinitionMarkers
import ChartScript.Proofs.ChartSections
import ChartScript.Proofs.ReferenceSpans
import ChartScript.Proofs.RangesInOnePass
import ChartScript.Proofs.RangeValues
import ChartScript.Proofs.DatasetCountInLines
import ChartScript.Proofs.WrittenLists
import ChartScript.Proofs.LineTokens
import ChartScript.Proofs.NumberedLines
import ChartScript.Proofs.DecodedLines
import ChartScript.Proofs.JsonStrings
import ChartScript.Proofs.NamesReadBack
import ChartScript.Proofs.DefinitionLayout
import ChartScript.Proofs.MalformedReferences
import ChartScript.Proofs.MalformedRanges
import ChartScript.Proofs.LoopSources
import ChartScript.Proofs.LoggedEvents
