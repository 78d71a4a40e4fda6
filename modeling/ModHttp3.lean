import ModHttp3.Lib.LinkedQueue
import ModHttp3.Lib.Run
import ModHttp3.Lib.SizeT
import ModHttp3.Lib.SwapRemove
import ModHttp3.Lib.Ledger
import ModHttp3.Lib.Script
import ModHttp3.Lib.Halting
import ModHttp3.Lib.History
import ModHttp3.Lib.Frames
import ModHttp3.Lib.Buffer
import ModHttp3.Lib.Table
import ModHttp3.Lib.Refinement
import ModHttp3.Lib.Cyclic
import ModHttp3.Lib.Doorbell
import ModHttp3.Lib.Typestate
import ModHttp3.Lib.Ownership
import ModHttp3.Config.Advertise
import ModHttp3.Config.Layers
import ModHttp3.Response.Fifo
import ModHttp3.Response.Wakeup
import ModHttp3.Response.Accounting
import ModHttp3.Response.Cursor
import ModHttp3.Quic.Attribution
import ModHttp3.Quic.Isolation
import ModHttp3.Quic.Pump
import ModHttp3.Quic.Lifecycle
import ModHttp3.Listener.Conservation
import ModHttp3.Listener.Sweep
import ModHttp3.Listener.Wake
import ModHttp3.Listener.Startup
import ModHttp3.Listener.Wakeup
import ModHttp3.Listener.Shutdown
import ModHttp3.Listener.Stopping
import ModHttp3.Listener.Protocol
import ModHttp3.Session.Teardown
import ModHttp3.Session.Reclaim
import ModHttp3.Session.Upload
import ModHttp3.Session.BodyBuffer
import ModHttp3.Session.Fields
import ModHttp3.Session.Pseudo
import ModHttp3.Session.Frozen
import ModHttp3.Session.Limits
import ModHttp3.Session.Undriven
import ModHttp3.Session.Wire
import ModHttp3.Session.Blocking
import ModHttp3.Session.Termination
import ModHttp3.Session.Fair
import ModHttp3.Session.Farewell
import ModHttp3.Session.Atomic
import ModHttp3.Worker.Truncation
import ModHttp3.Worker.Lifetime
import ModHttp3.Worker.Once
import ModHttp3.Worker.Modes
import ModHttp3.Worker.Capture
import ModHttp3.Worker.Input
import ModHttp3.Worker.HeaderBlock
import ModHttp3.Worker.Request
import ModHttp3.Worker.Progress
import ModHttp3.Worker.Delivery
import ModHttp3.Worker.Transfer
