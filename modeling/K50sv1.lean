import K50sv1.Transition.Run
import K50sv1.Data.Ring
import K50sv1.RilShim.Core
import K50sv1.RilShim.AttachApn.Core
import K50sv1.RilShim.AttachApn.System
import K50sv1.RilShim.AttachApn.Tokens
import K50sv1.RilShim.AttachApn.SingleFlight
import K50sv1.RilShim.AttachApn.Replay
import K50sv1.RilShim.AttachApn.Pending
import K50sv1.RilShim.Got.Core
import K50sv1.RilShim.Got.Transaction
import K50sv1.RilShim.Got.System
import K50sv1.RilShim.Got.Transparency
import K50sv1.RilShim.RadioCapability
import K50sv1.Data.Ledger
import K50sv1.Sensors.Core
import K50sv1.Sensors.HalProxy.Core
import K50sv1.Sensors.HalProxy.System
import K50sv1.Sensors.HalProxy.Session
import K50sv1.Sensors.HalProxy.Delivery
import K50sv1.Sensors.HalProxy.Balance
import K50sv1.Data.OrderedMap
import K50sv1.Sensors.SubHal.Core
import K50sv1.Sensors.HalProxy.Provenance
import K50sv1.Sensors.System
import K50sv1.Sensors.Isolation
import K50sv1.Data.Bytes
import K50sv1.WmtLauncher.Core
import K50sv1.WmtLauncher.Protocol.Layout
import K50sv1.WmtLauncher.Protocol.Command
import K50sv1.Data.BitSet
import K50sv1.WmtLauncher.Protocol.Reply
import K50sv1.Data.Collect
import K50sv1.WmtLauncher.Firmware.Files
import K50sv1.WmtLauncher.Firmware.Patch
import K50sv1.Data.Search
import K50sv1.WmtLauncher.Firmware.BtVersion
import K50sv1.WmtLauncher.Firmware.Rom
import K50sv1.WmtLauncher.Firmware.Discovery
import K50sv1.WmtLauncher.Firmware.PatchDiscovery
import K50sv1.WmtLauncher.Firmware.RomDiscovery
import K50sv1.WmtLauncher.Launcher.HandleCommand
import K50sv1.WmtLauncher.Launcher.FirmwareLog
import K50sv1.Sensors.SubHal.Backend
import K50sv1.Sensors.Wiring
import K50sv1.Sensors.Routing
import K50sv1.Sensors.SubHal.Tracking
import K50sv1.Sensors.Agreement
import K50sv1.Data.RefPool
import K50sv1.Sensors.HalProxy.Coverage
import K50sv1.RilShim.AttachApn.RateLimit
import K50sv1.RilShim.AttachApn.Bypass
import K50sv1.WmtLauncher.Firmware.BtExtraction
import K50sv1.RilShim.Got.Lookup
import K50sv1.Data.CText
import K50sv1.WlanAssistant.Mac
import K50sv1.WlanAssistant.Nvram
import K50sv1.Data.WatchQueue
import K50sv1.WlanAssistant.Directory
import K50sv1.WlanAssistant.Monitor
import K50sv1.WlanAssistant.Watch
import K50sv1.Gatekeeper.Hooks
import K50sv1.Gatekeeper.Device
import K50sv1.Data.Snapshot
import K50sv1.VendorBlobs.Extraction
import K50sv1.VendorBlobs.Recovery
import K50sv1.Data.Pattern
import K50sv1.VendorBlobs.ImsFilter
import K50sv1.VendorBlobs.ImsRemoval
import K50sv1.Transition.History
import K50sv1.Data.HexText
import K50sv1.WmtLauncher.Launcher.Power
import K50sv1.WmtLauncher.Launcher.MainThread
import K50sv1.WmtLauncher.Launcher.Readiness
import K50sv1.WmtLauncher.Launcher.Shutdown
import K50sv1.WmtLauncher.Launcher.Exchange
import K50sv1.WmtLauncher.Launcher.Process
import K50sv1.WmtLauncher.Launcher.Lifetime
import K50sv1.WmtLauncher.Launcher.Guarantees
import K50sv1.WmtLoader.Loader
import K50sv1.WmtLoader.Handshake
import K50sv1.RilShim.Startup.Core
import K50sv1.RilShim.Startup.Init
import K50sv1.RilShim.Startup.Dispatch
import K50sv1.Data.LineReader
import K50sv1.RilShim.Maps
import K50sv1.Sensors.HalProxy.Dynamic
import K50sv1.Sensors.HalProxy.Modes
import K50sv1.Transition.Bounded
import K50sv1.Dalvik.Core
import K50sv1.Dalvik.Rules
import K50sv1.VendorBlobs.PermissionGuard
import K50sv1.VendorBlobs.WifiOffload
