import RamsesProxy.Lib.Machine
import RamsesProxy.Lib.CharArray
import RamsesProxy.Lib.CText
import RamsesProxy.Lib.OrderedMap
import RamsesProxy.Lib.Channel
import RamsesProxy.Lib.Sequences
import RamsesProxy.Lib.ConfigFile
import RamsesProxy.RouterPacket
import RamsesProxy.AdrTuple
import RamsesProxy.RouterSession
import RamsesProxy.SessionWriter
import RamsesProxy.SessionReads
import RamsesProxy.ConnectRetry
import RamsesProxy.UdpRelayServer
import RamsesProxy.ReplyOrder
import RamsesProxy.ReplyOnce
import RamsesProxy.ReplyProgress
import RamsesProxy.RefusedReplies
import RamsesProxy.PeerText
import RamsesProxy.Framing
import RamsesProxy.FrameBounds
import RamsesProxy.ReceiveBuffer
import RamsesProxy.ReceiveFrames
import RamsesProxy.SessionManager
import RamsesProxy.Router
import RamsesProxy.RouterReads
import RamsesProxy.RouterConnections
import RamsesProxy.ParamsManager
import RamsesProxy.SessionLifetime
import RamsesProxy.UplinkLedger
import RamsesProxy.UplinkWire
import RamsesProxy.UplinkProgress
import RamsesProxy.UplinkLoss
import RamsesProxy.UplinkDrain
import RamsesProxy.ReplyCount
import RamsesProxy.DownlinkStream
import RamsesProxy.Lib.Bitmap
import RamsesProxy.Zlog.Rule
import RamsesProxy.Zlog.Category
import RamsesProxy.Zlog.HashTable
import RamsesProxy.Zlog.TableRuns
import RamsesProxy.Lib.Pool
import RamsesProxy.Zlog.Env
import RamsesProxy.Zlog.EnvRuns
import RamsesProxy.Lib.Files
import RamsesProxy.Zlog.Rotater
import RamsesProxy.Zlog.ArchiveFiles
import RamsesProxy.Zlog.Rotation
import RamsesProxy.Zlog.RollGaps
import RamsesProxy.Lib.Bounded
import RamsesProxy.Zlog.Buf
import RamsesProxy.Zlog.BufRuns
import RamsesProxy.Zlog.BufWrites
import RamsesProxy.Zlog.Message
import RamsesProxy.Zlog.HexDump
import RamsesProxy.Zlog.MessageText
import RamsesProxy.Zlog.MessageRuns
import RamsesProxy.Zlog.Pattern
import RamsesProxy.Zlog.PatternText
