import SuplLpp.Lib.Mealy
import SuplLpp.Lib.Ring
import SuplLpp.Lib.Table
import SuplLpp.Lib.Binary64
import SuplLpp.Lib.Quantizer
import SuplLpp.Lib.Bilinear
import SuplLpp.Format.Helper
import SuplLpp.Lpp.Transaction
import SuplLpp.Lpp.Endpoint
import SuplLpp.Lpp.Lookup
import SuplLpp.Lpp.Ending
import SuplLpp.Lpp.Sending
import SuplLpp.Lpp.Session
import SuplLpp.Lpp.Cancel
import SuplLpp.Lpp.Stall
import SuplLpp.Lpp.Round
import SuplLpp.Supl.Message
import SuplLpp.Supl.Session
import SuplLpp.Supl.Reassembly
import SuplLpp.Supl.Identify
import SuplLpp.Supl.Digits
import SuplLpp.Supl.Progress
import SuplLpp.Lib.Bits
import SuplLpp.Lib.Crc
import SuplLpp.Asn.Types
import SuplLpp.Gnss.Ids
import SuplLpp.Time.Timestamp
import SuplLpp.Time.Conversion
import SuplLpp.Rtcm.Data
import SuplLpp.Rtcm.Encoder
import SuplLpp.Rtcm.Fields
import SuplLpp.Rtcm.LockTime
import SuplLpp.Rtcm.Msm
import SuplLpp.Rtcm.Consistency
import SuplLpp.Format.Rtcm
import SuplLpp.Rtcm.Frame
import SuplLpp.Rtcm.Messages
import SuplLpp.Rtcm.ResidualMessages
import SuplLpp.Rtcm.Generator
import SuplLpp.Rtcm.Framing
import SuplLpp.Rtcm.StationMessages
import SuplLpp.Rtcm.Pairing
import SuplLpp.Lib.Fallible
import SuplLpp.Asn.Ssr
import SuplLpp.Spartn.Time
import SuplLpp.Spartn.Builder
import SuplLpp.Spartn.Bias
import SuplLpp.Spartn.BiasPipeline
import SuplLpp.Spartn.Message
import SuplLpp.Spartn.Data
import SuplLpp.Spartn.Ocb
import SuplLpp.Spartn.Hpac
import SuplLpp.Spartn.Quantisation
import SuplLpp.Spartn.Generator
import SuplLpp.Spartn.Collected
import SuplLpp.Spartn.Totality
import SuplLpp.Spartn.Sent
import SuplLpp.Spartn.DoNotUse
import SuplLpp.Spartn.OcbFilter
import SuplLpp.Spartn.EndOfSet
import SuplLpp.Spartn.Clean
import SuplLpp.Spartn.TimeTags
import SuplLpp.Spartn.Areas
import SuplLpp.Spartn.Transport
import SuplLpp.Scheduler.Event
import SuplLpp.Streamline.Queue
import SuplLpp.Streamline.Task
import SuplLpp.Lib.Cursor
import SuplLpp.Msgpack.Format
import SuplLpp.Msgpack.Types
import SuplLpp.Msgpack.Integers
import SuplLpp.Scheduler.Slots
import SuplLpp.Scheduler.Loop
import SuplLpp.Scheduler.Deferred
import SuplLpp.Client.NmeaLocation
import SuplLpp.Tokoro.Mapping
import SuplLpp.Tokoro.RoundTrip
import SuplLpp.Nav.Issue
import SuplLpp.Socket.Reconnect
import SuplLpp.Socket.Sending
import SuplLpp.Socket.Hangup
import SuplLpp.Format.Sentence
import SuplLpp.Format.DataFields
import SuplLpp.Rtcm.Version
import SuplLpp.Ubx.Encoding
import SuplLpp.Lpp.Client
import SuplLpp.Lpp.Removal
import SuplLpp.Lpp.Stale
import SuplLpp.Time.Calendar
import SuplLpp.Spartn.Residuals
import SuplLpp.Spartn.Surface
import SuplLpp.Spartn.Conveyed
import SuplLpp.Socket.Backpressure
import SuplLpp.Client.NtripSource
import SuplLpp.Gnss.Validity
import SuplLpp.Scheduler.Forward
import SuplLpp.Socket.FdStream
import SuplLpp.Lib.Newest
import SuplLpp.Tokoro.EmissionTime
import SuplLpp.Tokoro.EphemerisCache
import SuplLpp.Lib.FloorLog
import SuplLpp.Lpp.LocationReport
import SuplLpp.Lib.Since
import SuplLpp.Lpp.Delivery
import SuplLpp.Lpp.Ended
import SuplLpp.Lpp.Reporting
import SuplLpp.Lib.Lattice
import SuplLpp.Tokoro.Interpolation
import SuplLpp.Lpp.Supervision
import SuplLpp.Lib.Remainder
import SuplLpp.Format.Checksum
import SuplLpp.Format.GgaTime
import SuplLpp.Lib.Frame
import SuplLpp.Lib.Framing
import SuplLpp.Format.Uper
import SuplLpp.Tokoro.PhaseWindup
import SuplLpp.Lib.Streak
import SuplLpp.Gnss.Frequency
import SuplLpp.Tokoro.Observation
import SuplLpp.Tokoro.LockTime
import SuplLpp.Tbin.Replay
import SuplLpp.Lib.Lines
import SuplLpp.Modem.Answers
import SuplLpp.Lib.Decimal
import SuplLpp.Format.Rinex
import SuplLpp.Lib.While
import SuplLpp.Lib.Comparison
import SuplLpp.Time.Order
import SuplLpp.Time.Splits
import SuplLpp.Lib.ShortestPath
import SuplLpp.Lib.Scanner
import SuplLpp.Lib.ErrorDetection
import SuplLpp.Coordinates.TransformGraph
import SuplLpp.Coordinates.Helmert
import SuplLpp.Coordinates.Transform
import SuplLpp.Format.RtcmStream
import SuplLpp.Format.Damage
import SuplLpp.Ubx.Stream
import SuplLpp.Lib.Kepler
import SuplLpp.Lib.Turning
import SuplLpp.Ephemeris.Compute
import SuplLpp.Ephemeris.Motion
import SuplLpp.Ephemeris.Glonass
import SuplLpp.Lib.Contraction
import SuplLpp.Coordinates.Geodetic
import SuplLpp.Coordinates.LocalFrames
