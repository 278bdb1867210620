import Carrier.Types
import Carrier.Codec.Bytes
import Carrier.Codec.Packet
import Carrier.Codec.Frame
import Carrier.Codec.Grammar
import Carrier.Endpoint.State
import Carrier.Endpoint.Discovery
import Carrier.Endpoint.Operations
import Carrier.Endpoint.Poll
import Carrier.Endpoint.System
import Carrier.Endpoint.Frame
import Carrier.Endpoint.PathDiscovery
import Carrier.Endpoint.Connects
import Carrier.Endpoint.IncomingConnect
import Carrier.Endpoint.OutgoingConnect
import Carrier.Endpoint.Lifecycle
import Carrier.Endpoint.Availability
import Carrier.Endpoint.Wakeup
import Carrier.Subscriber
import Carrier.Stream
import Carrier.Bootstrap
import Carrier.Endpoint.Socket
