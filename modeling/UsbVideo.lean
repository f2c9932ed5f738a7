import UsbVideo.Bytes
import UsbVideo.Catalog
import UsbVideo.Claim
import UsbVideo.Decimal
import UsbVideo.Decode.Codecs
import UsbVideo.Decode.Frame
import UsbVideo.Decode.Yuv
import UsbVideo.Delivery.Hub
import UsbVideo.Delivery.Pipeline
import UsbVideo.Delivery.Queue
import UsbVideo.Descriptor.Configuration
import UsbVideo.Descriptor.Device
import UsbVideo.Descriptor.Entry
import UsbVideo.Descriptor.Error
import UsbVideo.Device.Loopback
import UsbVideo.Device.Model
import UsbVideo.Device.Scripted
import UsbVideo.Dispatch.Basic
import UsbVideo.Dispatch.Reorder
import UsbVideo.Dispatch.Task
import UsbVideo.Encoding
import UsbVideo.Engine.Controller
import UsbVideo.Engine.Recorder
import UsbVideo.Engine.World
import UsbVideo.Frame
import UsbVideo.Jpeg.BitStream
import UsbVideo.Jpeg.Colour
import UsbVideo.Jpeg.Header
import UsbVideo.Jpeg.Huffman
import UsbVideo.Jpeg.Image
import UsbVideo.Jpeg.Scan
import UsbVideo.Jpeg.Segment
import UsbVideo.Jpeg.Transform
import UsbVideo.KeyedList
import UsbVideo.Lineup
import UsbVideo.Log
import UsbVideo.Payload
import UsbVideo.Probe
import UsbVideo.Reassembly
import UsbVideo.Settings
import UsbVideo.Settings.Environment
import UsbVideo.Settings.Load
import UsbVideo.Settings.Path
import UsbVideo.Settings.Tree
import UsbVideo.Size
import UsbVideo.Stream.Config
import UsbVideo.Stream.Error
import UsbVideo.Stream.Negotiation
import UsbVideo.Stream.Request
import UsbVideo.Stream.Resolve
import UsbVideo.Text
import UsbVideo.Toml.Date
import UsbVideo.Toml.Document
import UsbVideo.Toml.Lexeme
import UsbVideo.Toml.Number
import UsbVideo.Toml.Value
import UsbVideo.Transport.Basic
import UsbVideo.Transport.Transfer
import UsbVideo.Units
import UsbVideo.Proofs.Dispatch.Ledger
import UsbVideo.Proofs.Dispatch.Submit
import UsbVideo.Proofs.Dispatch.Run
import UsbVideo.Proofs.Dispatch.InFlight
import UsbVideo.Proofs.Dispatch.InOrder
import UsbVideo.Proofs.Dispatch.Balance
import UsbVideo.Proofs.Reassembly.Headers
import UsbVideo.Proofs.Reassembly.Piece
import UsbVideo.Proofs.Reassembly.Segments
import UsbVideo.Proofs.Reassembly.RoundTrip
import UsbVideo.Proofs.Reassembly.Restart
import UsbVideo.Proofs.Reassembly.Packets
import UsbVideo.Proofs.Reassembly.Accounts
import UsbVideo.Proofs.Reassembly.Resync
import UsbVideo.Proofs.Descriptor.Tiling
import UsbVideo.Proofs.Descriptor.Grammar
import UsbVideo.Proofs.Descriptor.Readers
import UsbVideo.Proofs.Descriptor.Conformance
import UsbVideo.Proofs.Descriptor.Indexed
import UsbVideo.Proofs.Descriptor.Bounds
import UsbVideo.Proofs.Descriptor.Skipping
import UsbVideo.Proofs.Descriptor.Chapters
import UsbVideo.Proofs.Descriptor.Declared
import UsbVideo.Proofs.Descriptor.Announced
import UsbVideo.Proofs.Descriptor.Faithful
import UsbVideo.Proofs.Decode.Pixels
import UsbVideo.Proofs.Decode.InPlace
import UsbVideo.Proofs.Decode.Convertible
import UsbVideo.Proofs.Decode.Padding
import UsbVideo.Proofs.Decode.Words
import UsbVideo.Proofs.Device.Described
import UsbVideo.Proofs.Device.Entries
import UsbVideo.Proofs.Device.RoundTrip
import UsbVideo.Proofs.Engine.Moves
import UsbVideo.Proofs.Engine.Books
import UsbVideo.Proofs.Engine.Tasks
import UsbVideo.Proofs.Engine.Turns
import UsbVideo.Proofs.Engine.Waiting
import UsbVideo.Proofs.Engine.Claims
import UsbVideo.Proofs.Engine.Clients
import UsbVideo.Proofs.Engine.Step
import UsbVideo.Proofs.Engine.Parts
import UsbVideo.Proofs.Engine.Roles
import UsbVideo.Proofs.Engine.Invariant
import UsbVideo.Proofs.Engine.Course
import UsbVideo.Proofs.Engine.Fair
import UsbVideo.Proofs.Engine.Background
import UsbVideo.Proofs.Engine.Drift
import UsbVideo.Proofs.Engine.Calls
import UsbVideo.Proofs.Engine.Lifecycle
import UsbVideo.Proofs.Engine.Endless
import UsbVideo.Proofs.Transport.Overheard
import UsbVideo.Proofs.Engine.Opening
import UsbVideo.Proofs.Delivery.Session
import UsbVideo.Proofs.Delivery.Ending
import UsbVideo.Proofs.Delivery.Frames
import UsbVideo.Proofs.Delivery.Shift
import UsbVideo.Proofs.Delivery.Escalation
import UsbVideo.Proofs.Delivery.Newest
import UsbVideo.Proofs.Delivery.Parties
import UsbVideo.Proofs.Transport.Slots
import UsbVideo.Proofs.Transport.Refills
import UsbVideo.Proofs.Device.Filling
import UsbVideo.Proofs.Device.Splitting
import UsbVideo.Proofs.Dispatch.Lossless
import UsbVideo.Proofs.Stream.Selection
import UsbVideo.Proofs.Stream.Resolution
import UsbVideo.Proofs.Stream.Adequate
import UsbVideo.Proofs.Stream.Presets
import UsbVideo.Proofs.Stream.Geometry
import UsbVideo.Proofs.Stream.Probe
import UsbVideo.Proofs.Stream.Exchanges
import UsbVideo.Proofs.Device.Handshake
import UsbVideo.Proofs.Device.Contract
import UsbVideo.Proofs.Engine.Schedulers
import UsbVideo.Proofs.Engine.Process
import UsbVideo.Proofs.Dispatch.Events
import UsbVideo.Proofs.Dispatch.Faults
import UsbVideo.Proofs.Dispatch.Vanished
import UsbVideo.Proofs.Dispatch.Reclaim
import UsbVideo.Proofs.Engine.Meanwhile
import UsbVideo.Proofs.Engine.Starting
