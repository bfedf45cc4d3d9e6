import Masquerade.Lib.BigEndian
import Masquerade.Lib.Splice
import Masquerade.Lib.Exec
import Masquerade.Lib.Utf8
import Masquerade.Lib.Slab
import Masquerade.Lib.Run
import Masquerade.Lib.Trace
import Masquerade.Lib.FirstMatch
import Masquerade.Lib.Framing
import Masquerade.Lib.OnesComplement
import Masquerade.Addr
import Masquerade.Wire
import Masquerade.Checksum
import Masquerade.Stun.Header
import Masquerade.Stun.Attr
import Masquerade.Stun.Attrs
import Masquerade.Stun.Codecs
import Masquerade.Stun.CodecLaws
import Masquerade.Stun.Append
import Masquerade.Stun.Message
import Masquerade.Stun.Attribute
import Masquerade.Stun.Parse
import Masquerade.Stun.Layout
import Masquerade.Stun.RoundTrip
import Masquerade.Stun.Incremental
import Masquerade.Stun.Iteration
import Masquerade.Stun.Chain
import Masquerade.Stun.Unknown
import Masquerade.Stun.Atomic
import Masquerade.Stun.Composed
import Masquerade.Common.HandleTurn
import Masquerade.Common.HandleNet
import Masquerade.Common.TurnLaws
import Masquerade.Common.Datagram
import Masquerade.Common.Handled
import Masquerade.Common.NetLaws
import Masquerade.Common.Stale
import Masquerade.Common.InPlace
import Masquerade.Common.Auth
import Masquerade.Common.Coverage
import Masquerade.Common.Relay
import Masquerade.Common.Responses
import Masquerade.Common.Plain
import Masquerade.Common.Icmp
import Masquerade.Common.Unknown
import Masquerade.Common.Fresh
import Masquerade.Common.Exchange
import Masquerade.Common.Growth
import Masquerade.Common.Credentials
import Masquerade.TurnserverTcp.Mapping
import Masquerade.TurnserverTcp.Machine
import Masquerade.TurnserverTcp.Steps
import Masquerade.TurnserverTcp.Frame
import Masquerade.TurnserverTcp.Invariant
import Masquerade.TurnserverTcp.Delivery
import Masquerade.TurnserverTcp.Batch
import Masquerade.TurnserverTcp.Output
import Masquerade.TurnserverTcp.Isolation
import Masquerade.TurnserverTcp.Input
import Masquerade.TurnserverTcp.Response
import Masquerade.TurnserverTcp.Ownership
import Masquerade.TurnserverTcp.Relay
import Masquerade.TurnserverTcp.Refinement
import Masquerade.TurnserverTcp.Halting
import Masquerade.TurnserverUdp.Mapping
import Masquerade.TurnserverUdp.Machine
import Masquerade.TurnserverUdp.Stateless
import Masquerade.TurnserverUdp.Traffic
import Masquerade.TurnserverUdp.EndToEnd
import Masquerade.IceDissolve.Intercept
import Masquerade.IceDissolve.Replies
import Masquerade.IceDissolve.Checks
import Masquerade.DtlsProxy.Packet
import Masquerade.DtlsProxy.Machine
import Masquerade.DtlsProxy.Steps
import Masquerade.DtlsProxy.Laws
import Masquerade.DtlsProxy.Sessions
import Masquerade.DtlsProxy.Arrivals
import Masquerade.DtlsProxy.Peers
import Masquerade.DtlsProxy.Sources
import Masquerade.DtlsProxy.Survival
import Masquerade.DtlsProxy.Buffer
import Masquerade.DtlsProxy.Emission
import Masquerade.DtlsProxy.Isolation
import Masquerade.DtlsProxy.Provenance
import Masquerade.SnowFell.Machine
import Masquerade.SnowFell.Addressing
import Masquerade.SnowFell.Switch
