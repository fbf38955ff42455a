import SorobanGate.Auth.KeyMap
import SorobanGate.Cache.Budget
import SorobanGate.Gateway.Answers
import SorobanGate.Gateway.Balance
import SorobanGate.Gateway.Connections
import SorobanGate.Gateway.Counting
import SorobanGate.Gateway.Disable
import SorobanGate.Gateway.Flush
import SorobanGate.Gateway.Frame
import SorobanGate.Gateway.HalfOpen
import SorobanGate.Gateway.Health
import SorobanGate.Gateway.Panics
import SorobanGate.Gateway.Passive
import SorobanGate.Gateway.Routing
import SorobanGate.Gateway.Statistics
import SorobanGate.Gateway.Transparency
import SorobanGate.Listener.Admin
import SorobanGate.Listener.Liveness
import SorobanGate.Listener.Metering
import SorobanGate.Listener.Peers
import SorobanGate.Listener.Unlimited
import SorobanGate.Pool.Automaton
import SorobanGate.RateLimit.Thinning
import SorobanGate.Server.Forward
import SorobanGate.Server.Shutdown
import SorobanGate.Site.Detection
import SorobanGate.Site.Forwarding
