import CrashTriage.Calendar.Date
import CrashTriage.Calendar.LooseText
import CrashTriage.Calendar.Month
import CrashTriage.Calendar.Observation
import CrashTriage.Calendar.Text
import CrashTriage.Decimal.Bits
import CrashTriage.Decimal.Power
import CrashTriage.Decimal.Reading
import CrashTriage.Decimal.Shortest
import CrashTriage.Granularity
import CrashTriage.Http.Error
import CrashTriage.Http.Form
import CrashTriage.Http.IdList
import CrashTriage.Http.Router
import CrashTriage.Http.Service
import CrashTriage.Http.Utf8
import CrashTriage.Main
import CrashTriage.Proofs.Accounting
import CrashTriage.Proofs.AgreeingFiles
import CrashTriage.Proofs.AllReleases
import CrashTriage.Proofs.AnsweredRequests
import CrashTriage.Proofs.Atomicity
import CrashTriage.Proofs.BatchedScan
import CrashTriage.Proofs.BucketBoundaries
import CrashTriage.Proofs.BucketStart
import CrashTriage.Proofs.CalendarOrder
import CrashTriage.Proofs.CanonicalOrder
import CrashTriage.Proofs.CommutingRecords
import CrashTriage.Proofs.ComponentFilter
import CrashTriage.Proofs.ConservedTotals
import CrashTriage.Proofs.CountedMonths
import CrashTriage.Proofs.CutRankings
import CrashTriage.Proofs.DatedBuckets
import CrashTriage.Proofs.DividedTotals
import CrashTriage.Proofs.FileOrder
import CrashTriage.Proofs.Granularities
import CrashTriage.Proofs.HotWindows
import CrashTriage.Proofs.IdLists
import CrashTriage.Proofs.Inquiries
import CrashTriage.Proofs.Integrity
import CrashTriage.Proofs.LaidLayers
import CrashTriage.Proofs.LinkHistories
import CrashTriage.Proofs.LongTermMeaning
import CrashTriage.Proofs.Migrations
import CrashTriage.Proofs.ObservedMonths
import CrashTriage.Proofs.OccurrenceRanges
import CrashTriage.Proofs.PartialBuckets
import CrashTriage.Proofs.PlainFiles
import CrashTriage.Proofs.ProblemSums
import CrashTriage.Proofs.RankMeaning
import CrashTriage.Proofs.RecordedDates
import CrashTriage.Proofs.Recording
import CrashTriage.Proofs.RemovedShares
import CrashTriage.Proofs.ReportBuckets
import CrashTriage.Proofs.ScopedTotals
import CrashTriage.Proofs.SettingFields
import CrashTriage.Proofs.SettingSources
import CrashTriage.Proofs.Soundness
import CrashTriage.Proofs.SplitRankings
import CrashTriage.Proofs.StatementLimits
import CrashTriage.Proofs.Statements
import CrashTriage.Proofs.Sums
import CrashTriage.Proofs.Tables
import CrashTriage.Proofs.Totals
import CrashTriage.Proofs.Trace
import CrashTriage.Proofs.UniformFailures
import CrashTriage.Proofs.WrittenOrder
import CrashTriage.Ranking.Basic
import CrashTriage.Ranking.Components
import CrashTriage.Ranking.Hot
import CrashTriage.Ranking.Limits
import CrashTriage.Ranking.LongTerm
import CrashTriage.Ranking.Selection
import CrashTriage.Settings.Basic
import CrashTriage.Settings.Layers
import CrashTriage.Settings.Load
import CrashTriage.Settings.Order
import CrashTriage.Settings.Path
import CrashTriage.Settings.Value
import CrashTriage.Store.Basic
import CrashTriage.Store.Command
import CrashTriage.Store.Contents
import CrashTriage.Store.Failure
import CrashTriage.Store.Ledger
import CrashTriage.Store.Lookup
import CrashTriage.Store.Migrate
import CrashTriage.Store.Register
import CrashTriage.Store.Remove
import CrashTriage.Store.Schema
import CrashTriage.Store.Session
import CrashTriage.Store.Tally
import CrashTriage.Store.Write
import CrashTriage.Text.Blank
import CrashTriage.Text.Numeral
import CrashTriage.Text.Quoted
import CrashTriage.Text.Split
import CrashTriage.Text.Unprintable
import CrashTriage.Toml.Document
import CrashTriage.Toml.Scalar
import CrashTriage.Toml.Scanner
import CrashTriage.Toml.Text
