import ElectionReadiness.Calendar.Basic
import ElectionReadiness.Calendar.CivilTime
import ElectionReadiness.Calendar.CivilTime.Reader
import ElectionReadiness.Calendar.CivilTime.Writer
import ElectionReadiness.Calendar.Date
import ElectionReadiness.Command.Arguments
import ElectionReadiness.Command.Ending
import ElectionReadiness.Command.Environment
import ElectionReadiness.Command.Failure
import ElectionReadiness.Command.Folder
import ElectionReadiness.Command.Run
import ElectionReadiness.Command.Session
import ElectionReadiness.Differences.Basic
import ElectionReadiness.Differences.CommonLines
import ElectionReadiness.Json.Assembly
import ElectionReadiness.Json.Binary64
import ElectionReadiness.Json.Binary64.Shortest
import ElectionReadiness.Json.Number
import ElectionReadiness.Json.Pretty
import ElectionReadiness.Json.Record
import ElectionReadiness.Json.Scanner
import ElectionReadiness.Json.Spelling
import ElectionReadiness.Json.Token
import ElectionReadiness.Json.Tree
import ElectionReadiness.Json.Value
import ElectionReadiness.Main
import ElectionReadiness.Notice
import ElectionReadiness.Proofs.Calendar.CivilOrder
import ElectionReadiness.Proofs.Calendar.DayNumber
import ElectionReadiness.Proofs.Calendar.Layouts
import ElectionReadiness.Proofs.Calendar.Spelling
import ElectionReadiness.Proofs.Calendar.StampOrder
import ElectionReadiness.Proofs.Calendar.WrittenTime
import ElectionReadiness.Proofs.Command.Course
import ElectionReadiness.Proofs.Command.LoadedSetup
import ElectionReadiness.Proofs.Command.NamedFile
import ElectionReadiness.Proofs.Command.Outcome
import ElectionReadiness.Proofs.Command.Reference
import ElectionReadiness.Proofs.Command.RootedPath
import ElectionReadiness.Proofs.Command.RunEffects
import ElectionReadiness.Proofs.Command.RunTwice
import ElectionReadiness.Proofs.Command.SavedSetup
import ElectionReadiness.Proofs.Command.ShownDifferences
import ElectionReadiness.Proofs.Command.WrittenFile
import ElectionReadiness.Proofs.Differences.CollectedLines
import ElectionReadiness.Proofs.Differences.Faithful
import ElectionReadiness.Proofs.Differences.Merged
import ElectionReadiness.Proofs.Differences.OneLine
import ElectionReadiness.Proofs.Differences.Screen
import ElectionReadiness.Proofs.Json.AssembledTree
import ElectionReadiness.Proofs.Json.PieceMeaning
import ElectionReadiness.Proofs.Json.PrettyLines
import ElectionReadiness.Proofs.Json.PrettyText
import ElectionReadiness.Proofs.Json.ReadValue
import ElectionReadiness.Proofs.Json.RenderedRecord
import ElectionReadiness.Proofs.Json.WrittenRecord
import ElectionReadiness.Proofs.Json.WrittenToken
import ElectionReadiness.Proofs.Json.WrittenValue
import ElectionReadiness.Proofs.Report.Agreement
import ElectionReadiness.Proofs.Report.Readiness
import ElectionReadiness.Proofs.Report.Reason
import ElectionReadiness.Proofs.Report.ScheduleOrder
import ElectionReadiness.Proofs.Report.ScheduleText
import ElectionReadiness.Proofs.Report.ScheduleWarnings
import ElectionReadiness.Proofs.Setup.Boundary
import ElectionReadiness.Proofs.Setup.CalendarUse
import ElectionReadiness.Proofs.Setup.Completion
import ElectionReadiness.Proofs.Setup.FirstFailing
import ElectionReadiness.Proofs.Setup.FirstViolation
import ElectionReadiness.Proofs.Setup.LastEdit
import ElectionReadiness.Proofs.Setup.Observation
import ElectionReadiness.Proofs.Setup.PassingChecks
import ElectionReadiness.Proofs.Setup.Relaxation
import ElectionReadiness.Proofs.Setup.StampedTiming
import ElectionReadiness.Proofs.Setup.WindowOrder
import ElectionReadiness.Proofs.SetupFile.Rendering
import ElectionReadiness.Proofs.SetupFile.RoundTrip
import ElectionReadiness.Proofs.Text.ByteOrder
import ElectionReadiness.Proofs.Text.Delimited
import ElectionReadiness.Proofs.Text.FullLines
import ElectionReadiness.Proofs.Text.PlaceValue
import ElectionReadiness.Proofs.Text.Template
import ElectionReadiness.Proofs.TimeZone.Almanac
import ElectionReadiness.Proofs.TimeZone.Almanac.Histories
import ElectionReadiness.Proofs.TimeZone.Almanac.Marks
import ElectionReadiness.Proofs.TimeZone.CatalogOrder
import ElectionReadiness.Proofs.TimeZone.Dublin
import ElectionReadiness.Proofs.TimeZone.FirstShowing
import ElectionReadiness.Proofs.TimeZone.OfferedNames
import ElectionReadiness.Proofs.TimeZone.SpanOrder
import ElectionReadiness.Report.Basic
import ElectionReadiness.Report.Schedule
import ElectionReadiness.Report.Writer
import ElectionReadiness.Setup.Assessment
import ElectionReadiness.Setup.Document
import ElectionReadiness.Setup.Edit
import ElectionReadiness.Setup.Phase
import ElectionReadiness.Setup.Progress
import ElectionReadiness.Setup.Requirements
import ElectionReadiness.Setup.Shortfall
import ElectionReadiness.Setup.Stage
import ElectionReadiness.SetupFile.Basic
import ElectionReadiness.SetupFile.Reader
import ElectionReadiness.SetupFile.Writer
import ElectionReadiness.Text.Blank
import ElectionReadiness.Text.Decimal
import ElectionReadiness.Text.Hexadecimal
import ElectionReadiness.Text.Quoted
import ElectionReadiness.Text.Scan
import ElectionReadiness.Text.Split
import ElectionReadiness.TimeZone.Catalog
import ElectionReadiness.TimeZone.History
import ElectionReadiness.TimeZone.Lookup
import ElectionReadiness.TimeZone.Rules.Africa
import ElectionReadiness.TimeZone.Rules.Antarctica
import ElectionReadiness.TimeZone.Rules.Asia
import ElectionReadiness.TimeZone.Rules.Australasia
import ElectionReadiness.TimeZone.Rules.Europe
import ElectionReadiness.TimeZone.Rules.NorthAmerica
import ElectionReadiness.TimeZone.Rules.SouthAmerica
import ElectionReadiness.TimeZone.Timeline
import ElectionReadiness.TimeZone.YearlyChange
import ElectionReadiness.TimeZone.Zones.Africa
import ElectionReadiness.TimeZone.Zones.Antarctica
import ElectionReadiness.TimeZone.Zones.Asia
import ElectionReadiness.TimeZone.Zones.Atlantic
import ElectionReadiness.TimeZone.Zones.Australia
import ElectionReadiness.TimeZone.Zones.Europe
import ElectionReadiness.TimeZone.Zones.Indian
import ElectionReadiness.TimeZone.Zones.NorthAmerica
import ElectionReadiness.TimeZone.Zones.Pacific
import ElectionReadiness.TimeZone.Zones.SouthAmerica
import ElectionReadiness.TimeZone.Zones.Standard
import ElectionReadiness.Unicode.CodeRanges
import ElectionReadiness.Unicode.ComposedForm
import ElectionReadiness.Unicode.Composition
import ElectionReadiness.Unicode.Direction
import ElectionReadiness.Unicode.Hidden
import ElectionReadiness.Unicode.HostMapping
import ElectionReadiness.Unicode.Joining
import ElectionReadiness.Unicode.Mark
import ElectionReadiness.WebAddress.Host
import ElectionReadiness.WebAddress.HostName
import ElectionReadiness.WebAddress.Ipv4
import ElectionReadiness.WebAddress.Ipv6
import ElectionReadiness.WebAddress.Punycode
import ElectionReadiness.WebAddress.Scheme
