import Webservice.Library.Machine
import Webservice.Library.Lists
import Webservice.Library.Effects
import Webservice.Library.RingBuffer
import Webservice.Library.Latch
import Webservice.Library.Strands
import Webservice.Locker.Interleaving
import Webservice.Locker.Guards
import Webservice.Session.Timeout
import Webservice.Session.Writing
import Webservice.Session.Callbacks
import Webservice.Session.Silence
import Webservice.Session.Delivery
import Webservice.Service.Identifiers
import Webservice.Service.Ordering
import Webservice.Service.Shutdown
import Webservice.Http.Upgrade
import Webservice.Http.BackPressure
import Webservice.Handler.Shutdown
import Webservice.Handler.Lifecycle
import Webservice.Library.LexicalPath
import Webservice.Session.Draining
import Webservice.Session.FailedStart
import Webservice.Session.Pings
import Webservice.Http.Erasing
import Webservice.Http.FailedStart
import Webservice.Http.Listener
import Webservice.Conversion
import Webservice.File.Root
import Webservice.File.Head
import Webservice.Executor.Once
import Webservice.Http.Draining
import Webservice.Server.Teardown
import Webservice.Client.Teardown
import Webservice.Session.Connection
import Webservice.Http.Ending
import Webservice.Session.Offering
import Webservice.Service.Typed
import Webservice.Session.Settling
import Webservice.Service.Hosting
import Webservice.Service.Draining
