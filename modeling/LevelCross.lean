import LevelCross.Analysis.Atr
import LevelCross.Analysis.Crossing
import LevelCross.Analysis.Strategy
import LevelCross.Cli.Effect
import LevelCross.Cli.Parse
import LevelCross.Cli.Run
import LevelCross.Cli.Spec
import LevelCross.Cli.Usage
import LevelCross.Config.Ini
import LevelCross.Csv.Record
import LevelCross.Files
import LevelCross.Json.Read
import LevelCross.Json.Records
import LevelCross.Json.Shape
import LevelCross.Json.Value
import LevelCross.Json.Write
import LevelCross.Listing
import LevelCross.Main
import LevelCross.Market.Candle
import LevelCross.Market.CandleFile
import LevelCross.Market.Error
import LevelCross.Market.Level
import LevelCross.Market.Signal
import LevelCross.Number.Binary
import LevelCross.Number.Float
import LevelCross.Number.Read
import LevelCross.Number.Shortest
import LevelCross.Number.Text
import LevelCross.Proofs.AverageTrueRange
import LevelCross.Proofs.CandleClose
import LevelCross.Proofs.CandleFiles
import LevelCross.Proofs.CloseRecords
import LevelCross.Proofs.Detection
import LevelCross.Proofs.Frame
import LevelCross.Proofs.FrameRows
import LevelCross.Proofs.LevelRows
import LevelCross.Proofs.LevelStore
import LevelCross.Proofs.Mirror
import LevelCross.Proofs.Pagination
import LevelCross.Proofs.RealCell
import LevelCross.Proofs.SchemaSetUp
import LevelCross.Proofs.SignalPages
import LevelCross.Proofs.SignalRows
import LevelCross.Proofs.SignalStore
import LevelCross.Proofs.StampText
import LevelCross.Store.Dump
import LevelCross.Store.Levels
import LevelCross.Store.Schema
import LevelCross.Store.Script
import LevelCross.Store.Signals
import LevelCross.Store.Table
import LevelCross.Store.Value
import LevelCross.Text.Blank
import LevelCross.Text.Case
import LevelCross.Text.CaseContext
import LevelCross.Text.CaseRun
import LevelCross.Text.CaseTable
import LevelCross.Text.Similar
import LevelCross.Text.Utf8
import LevelCross.Time.Basic
import LevelCross.Time.Parse
import LevelCross.Watch
import LevelCross.Web.Address
import LevelCross.Web.Api
import LevelCross.Web.Media
import LevelCross.Web.Query
import LevelCross.Web.Url
