import Vscp.UdpServer
import Vscp.SingleChannelReplies
import Vscp.TextClient
import Vscp.EventDelivery
import Vscp.ReplyRouting
import Vscp.ByteFifo
import Vscp.LinkedListRuns
import Vscp.UserRegisters
import Vscp.AuthenticatedCanonical
import Vscp.RemoteFilter
import Vscp.LevelOneText
import Vscp.SocketCan
import Vscp.BootVscpPlacement
import Vscp.BootPic1
import Vscp.GuidScript
import Vscp.MdfPresentation
import Vscp.CanalRepeat
import Vscp.EventCrc
import Vscp.PollReply
import Vscp.FrameReads
import Vscp.CivilTime
import Vscp.NodeClient
import Vscp.LevelTwoConversion
import Vscp.MeasurementReads
import Vscp.RegisterAccess
import Vscp.DeviceScan
import Vscp.VariableReads
import Vscp.MatrixRows
import Vscp.LevelTwoReadMany
import Vscp.LevelTwoWrite
import Vscp.InterfaceQuery
import Vscp.BlockingReceive
import Vscp.DatagramCallbacks
import Vscp.HexReading
import Vscp.BootRange
import Vscp.DateRoundTrip
import Vscp.Base64Buffers
import Vscp.NetMatch
import Vscp.PythonFilter
import Vscp.CanalSends
import Vscp.CanalTextSends
import Vscp.MdfLists
import Vscp.MdfReport
import Vscp.MqttDelivery
import Vscp.NormalizedWriter
import Vscp.RegisterLookup
import Vscp.AesCipher
