import Perftools.Basic
import Perftools.EventSource
import Perftools.Frequency
import Perftools.Handler
import Perftools.Registry
import Perftools.Disposition
import Perftools.Detection
import Perftools.Timers
import Perftools.Reset
import Perftools.Protocol
import Perftools.Interleaving
import Perftools.Serial
import Perftools.Progress
import Perftools.Guarded
import Perftools.Linearize
import Perftools.Consistency
import Perftools.SourceOrder
import Perftools.InterleavedTimers
import Perftools.LiveTokens
import Perftools.Observations
