import Andor2k.RejectedCommands
import Andor2k.AcquisitionPath
import Andor2k.ImageMemory
import Andor2k.SaveAsFits
import Andor2k.DecodeMessage
import Andor2k.DecodedHeaders
import Andor2k.FccRequest
import Andor2k.DaemonMain
import Andor2k.BufferReads
import Andor2k.AbortJoin
import Andor2k.AbortSignal
import Andor2k.HeaderCards
import Andor2k.AppliedHeaders
import Andor2k.RtaSeries
import Andor2k.AristarchosHeaders
import Andor2k.HeaderUpdates
import Andor2k.FilenameBounds
import Andor2k.TextLocality
import Andor2k.FixedFormatCards
import Andor2k.SetParamRefusals
import Andor2k.CoolingPolls
import Andor2k.CameraSettings
import Andor2k.ImagePairs
import Andor2k.NumberTexts
import Andor2k.SocketDescriptors
import Andor2k.ScanExits
import Andor2k.SeriesReporter
import Andor2k.ProgressReports
import Andor2k.TypedWords
import Andor2k.InitialMemory
import Andor2k.TickIntervals
import Andor2k.Base64RoundTrip
import Andor2k.NtpTime
import Andor2k.TimeCorrection
import Andor2k.CmdParser
import Andor2k.ReporterDivisors
import Andor2k.SteadyProgress
import Andor2k.ClientSession
import Andor2k.KineticThreads
import Andor2k.DaemonSignals
import Andor2k.Archive
import Andor2k.ServedCards
import Andor2k.ResentCommands
import Andor2k.SafeSessions
import Andor2k.MessageRoom
import Andor2k.Registers
import Andor2k.CameraMemory
import Andor2k.AnnouncedFiles
import Andor2k.Connections
