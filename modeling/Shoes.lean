import Shoes.Lib.Framing
import Shoes.Lib.PartialMap
import Shoes.Lib.Cipher
import Shoes.Wire
import Shoes.LruCache
import Shoes.Address
import Shoes.ClientProxySelector
import Shoes.RoutingCache
import Shoes.Fragments
import Shoes.Tuic
import Shoes.Hysteria2
import Shoes.Websocket
import Shoes.RealityHandshake
import Shoes.XudpFrame
import Shoes.XudpStream
import Shoes.XudpDecoding
import Shoes.XudpSessions
import Shoes.VmessHeader
import Shoes.Socks5UdpRelay
import Shoes.ShadowTlsHandshake
import Shoes.AnyTls
import Shoes.RealityRecords
import Shoes.Lib.Automaton
import Shoes.VisionUnpad
import Shoes.ShadowTlsStream
import Shoes.Lib.PrefixMask
import Shoes.RuleMasks
import Shoes.SaltChecker
import Shoes.VmessStream
import Shoes.AnyTlsPadding
import Shoes.SocksLocation
import Shoes.SlideBuffer
import Shoes.UotV1
import Shoes.HttpHandler
import Shoes.VmessKdf
import Shoes.Lib.CrcShift
import Shoes.VmessCrc
import Shoes.TlsDeframer
import Shoes.TlsFuzzyDeframer
import Shoes.Lib.RingBuffer
import Shoes.CopyBidirectional
import Shoes.Lib.DependencyOrder
import Shoes.GroupResolution
import Shoes.Lib.Residual
import Shoes.NaivePadding
import Shoes.NaivePaddingRead
import Shoes.NaivePaddingWrite
import Shoes.Lib.LittleEndian
import Shoes.ShadowsocksRead
import Shoes.ShadowsocksWrite
