import AsterxDriver.Foundation.Attempt
import AsterxDriver.Foundation.Binary64
import AsterxDriver.Foundation.ByteString
import AsterxDriver.Foundation.Checked
import AsterxDriver.Foundation.DecimalText
import AsterxDriver.Foundation.Dict
import AsterxDriver.Foundation.DropOldest
import AsterxDriver.Foundation.ExactArithmetic
import AsterxDriver.Foundation.FloatArithmetic
import AsterxDriver.Foundation.Interaction
import AsterxDriver.Foundation.NumberedName
import AsterxDriver.Foundation.Scanner
import AsterxDriver.Foundation.Search
import AsterxDriver.Foundation.ShiftRegister
import AsterxDriver.Foundation.TextFields
import AsterxDriver.Foundation.Transitions
import AsterxDriver.Foundation.WhileLoop
import AsterxDriver.Sbf.Crc16Xmodem
import AsterxDriver.Sbf.FrameSync
import AsterxDriver.Sbf.FrameScan
import AsterxDriver.Sbf.BufferInvariant
import AsterxDriver.Sbf.LoopRefinement
import AsterxDriver.Sbf.FeedSpec
import AsterxDriver.Sbf.DropCounters
import AsterxDriver.Sbf.Session
import AsterxDriver.Sbf.WireFrame
import AsterxDriver.Sbf.BurstErrors
import AsterxDriver.Sbf.LoopIterations
import AsterxDriver.Parser.Framing
import AsterxDriver.Parser.Agreement
import AsterxDriver.Parser.ReadBack
import AsterxDriver.Parser.Unpack
import AsterxDriver.Parser.MeasEpoch
import AsterxDriver.Parser.MeasEpochDecode
import AsterxDriver.Parser.MeasEpochEncode
import AsterxDriver.Parser.AntennaSplit
import AsterxDriver.Parser.SbfSink
import AsterxDriver.Parser.SinkProjection
import AsterxDriver.Parser.CsvRow
import AsterxDriver.Parser.BlockDecoders
import AsterxDriver.Parser.MeasExtra
import AsterxDriver.Parser.MeasExtraDecode
import AsterxDriver.Parser.BlockRows
import AsterxDriver.Parser.Export
import AsterxDriver.Parser.ExportSpec
import AsterxDriver.Parser.ExportRun
import AsterxDriver.Parser.ExportCompletion
import AsterxDriver.Parser.ExtraAlignment
import AsterxDriver.Parser.SummaryCounts
import AsterxDriver.Parser.Truncation
import AsterxDriver.Parser.MeasEpochLayout
import AsterxDriver.Parser.CodeReencoding
import AsterxDriver.Parser.CarrierReencoding
import AsterxDriver.Parser.Reencoding
import AsterxDriver.Parser.Reexport
import AsterxDriver.Parser.CsvFiles
import AsterxDriver.Parser.Relocation
import AsterxDriver.Parser.RotatedExport
import AsterxDriver.Parser.OutputDirectory
import AsterxDriver.Recorder.SbfRecorder
import AsterxDriver.Recorder.Recording
import AsterxDriver.Recorder.Fidelity
import AsterxDriver.Recorder.HealthCounters
import AsterxDriver.Recorder.Interrupted
import AsterxDriver.Recorder.Survival
import AsterxDriver.Recorder.Rotation
import AsterxDriver.Recorder.RecordedExport
import AsterxDriver.Driver.TcpClient
import AsterxDriver.Driver.Connect
import AsterxDriver.Driver.RecordingLoop
import AsterxDriver.Driver.ReceiverConfig
import AsterxDriver.Driver.AppConfig
import AsterxDriver.Driver.SetThenVerify
import AsterxDriver.Driver.ConfigOrder
import AsterxDriver.Driver.StreamTable
import AsterxDriver.Driver.FailureCauses
import AsterxDriver.Driver.CommandPairing
import AsterxDriver.Driver.Program
import AsterxDriver.Ntrip.Client
import AsterxDriver.Ntrip.Response
import AsterxDriver.Ntrip.ConnectCleanup
import AsterxDriver.Ntrip.Reconnect
import AsterxDriver.Ntrip.ReceiveLoop
import AsterxDriver.Ntrip.ThreadHandles
import AsterxDriver.Ntrip.Pipeline
import AsterxDriver.Ntrip.ProcessThread
import AsterxDriver.Ntrip.ThreadRefinement
import AsterxDriver.Ntrip.MissedSignals
import AsterxDriver.Ntrip.Delivery
import AsterxDriver.Ntrip.Callback
import AsterxDriver.Ntrip.SourceTable
import AsterxDriver.Ntrip.GgaSchedule
