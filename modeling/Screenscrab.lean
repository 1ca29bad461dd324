import Screenscrab.Library.Transition
import Screenscrab.Library.LittleEndian
import Screenscrab.Library.Framing
import Screenscrab.Library.Flow
import Screenscrab.Library.Search
import Screenscrab.Library.Decimal
import Screenscrab.Library.Json
import Screenscrab.Library.Utf8
import Screenscrab.Library.Surrogates
import Screenscrab.Library.JsonText
import Screenscrab.Library.Table
import Screenscrab.Library.Locked
import Screenscrab.Wire.Protocol
import Screenscrab.Wire.Codec
import Screenscrab.Wire.Packet
import Screenscrab.Wire.Agreement
import Screenscrab.Session.Transport
import Screenscrab.Session.Incoming
import Screenscrab.Session.HostLoop
import Screenscrab.Session.Outgoing
import Screenscrab.Session.TransportErrors
import Screenscrab.Session.ClipboardService
import Screenscrab.Session.Capture
import Screenscrab.Session.Manager
import Screenscrab.Session.Status
import Screenscrab.Session.Restart
import Screenscrab.Session.Listener
import Screenscrab.Session.Stop
import Screenscrab.Session.Termination
import Screenscrab.Session.Reading
import Screenscrab.Session.Refinement
import Screenscrab.Session.Departure
import Screenscrab.Session.Resources
import Screenscrab.Client.Session
import Screenscrab.Client.Stream
import Screenscrab.Client.Frames
import Screenscrab.Client.Lifecycle
import Screenscrab.Client.Reading
import Screenscrab.Client.Resync
import Screenscrab.Client.Reports
import Screenscrab.Client.Display
import Screenscrab.Client.Codec
import Screenscrab.Client.Input
import Screenscrab.Client.Conversation
import Screenscrab.Client.RemoteDisplay
import Screenscrab.Remote.Messages
import Screenscrab.Remote.InputInjector
import Screenscrab.Remote.Accepted
import Screenscrab.Remote.Keyboard
import Screenscrab.Remote.Pointer
import Screenscrab.Remote.Touch
import Screenscrab.Remote.Picture
import Screenscrab.Remote.Link
import Screenscrab.Remote.Downstream
import Screenscrab.Remote.Upstream
import Screenscrab.Remote.Dialogue
import Screenscrab.Remote.Exchange
import Screenscrab.Remote.HostRun
import Screenscrab.Remote.Screen
import Screenscrab.Remote.Typing
import Screenscrab.Remote.Aim
import Screenscrab.Remote.Clipboard
import Screenscrab.Network.Api
import Screenscrab.Network.PeerNumbers
import Screenscrab.Network.Runtime
import Screenscrab.Network.Starting
import Screenscrab.Network.Rollback
import Screenscrab.Network.Watcher
import Screenscrab.Network.States
import Screenscrab.Network.ApplyNotify
import Screenscrab.Network.Connections
import Screenscrab.Network.Receiving
import Screenscrab.Network.Connected
import Screenscrab.Network.Ledger
import Screenscrab.Network.StatusJson
import Screenscrab.Bridge.StatusParser
import Screenscrab.Bridge.Extract
import Screenscrab.Bridge.ReadBack
import Screenscrab.Engine.StatusText
import Screenscrab.Engine.Decoded
import Screenscrab.Bridge.NetworkBridge
import Screenscrab.Bridge.RuntimeStatus
import Screenscrab.Bridge.Locks
import Screenscrab.Bridge.Refreshing
import Screenscrab.Engine.Locks
import Screenscrab.Engine.Polling
