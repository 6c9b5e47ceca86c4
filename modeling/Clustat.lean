import Clustat.Lib.Ansi
import Clustat.Lib.Base64
import Clustat.Lib.BigEndian
import Clustat.Lib.Binary
import Clustat.Lib.Checked
import Clustat.Lib.Chunks
import Clustat.Lib.Fields
import Clustat.Lib.Glob
import Clustat.Lib.Guards
import Clustat.Lib.Keyed
import Clustat.Lib.Lanes
import Clustat.Lib.Locks
import Clustat.Lib.Lts
import Clustat.Lib.Numeral
import Clustat.Lib.Percentile
import Clustat.Lib.Region
import Clustat.Lib.Ring
import Clustat.Lib.Segments
import Clustat.Lib.Table
import Clustat.Lib.Tally
import Clustat.Common.Frame
import Clustat.Common.Stream
import Clustat.Common.Snapshot
import Clustat.Common.Payload
import Clustat.Common.Json
import Clustat.Common.Discovery
import Clustat.Common.Text
import Clustat.Common.MetadataHash
import Clustat.Common.Number
import Clustat.Udp.Chunk
import Clustat.Udp.Encode
import Clustat.Udp.Reassembler
import Clustat.Udp.Checked
import Clustat.Udp.SingleChunk
import Clustat.Udp.Delivery
import Clustat.Udp.Soundness
import Clustat.Udp.Torn
import Clustat.Udp.Fields
import Clustat.Udp.Recovery
import Clustat.Server.Transport
import Clustat.Server.UdpLoop
import Clustat.Server.Receive
import Clustat.Server.Timeout
import Clustat.Server.Isolation
import Clustat.Server.Answers
import Clustat.Server.TcpStream
import Clustat.Server.Cache
import Clustat.Server.SingleFlight
import Clustat.Server.Coalesce
import Clustat.Server.Reads
import Clustat.Server.Freshness
import Clustat.Server.Release
import Clustat.Server.Discovery
import Clustat.Server.Collector
import Clustat.Server.Secrecy
import Clustat.Server.Contract
import Clustat.Server.Metrics
import Clustat.Server.Accounting
import Clustat.Server.LogSize
import Clustat.Server.Ports
import Clustat.Server.Nvml
import Clustat.Server.Startup
import Clustat.Client.Transport
import Clustat.Client.Query
import Clustat.Client.RecvFrame
import Clustat.Client.Receive
import Clustat.Client.Roundtrip
import Clustat.Client.TcpNode
import Clustat.Client.UdpNode
import Clustat.Client.Exchange
import Clustat.Client.PathMtu
import Clustat.Client.Replies
import Clustat.Backend.Cache
import Clustat.Backend.LocalApi
import Clustat.Backend.ConnectionIds
import Clustat.Backend.Pool
import Clustat.Backend.Reservations
import Clustat.Backend.Eviction
import Clustat.Backend.Refresh
import Clustat.Backend.Pairing
import Clustat.Backend.Accounted
import Clustat.Backend.Locks
import Clustat.Backend.RateLimit
import Clustat.Backend.Filter
import Clustat.Backend.Address
import Clustat.Backend.NodeFilter
import Clustat.Backend.Brackets
import Clustat.Backend.FilterUnion
import Clustat.Backend.Discovery
import Clustat.Backend.Announce
import Clustat.Backend.Adapter
import Clustat.Backend.Commands
import Clustat.Backend.Response
import Clustat.Backend.Serve
import Clustat.Backend.Search
import Clustat.Backend.FirstQuery
import Clustat.Backend.Base64
import Clustat.Cli.Args
import Clustat.Cli.Backend
import Clustat.Cli.Session
import Clustat.Cli.Render
import Clustat.Cli.Screen
import Clustat.Cli.Watch
