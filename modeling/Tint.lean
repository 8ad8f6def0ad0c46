import Tint.Binary
import Tint.Binary.Shortest
import Tint.Color
import Tint.Command.Arguments
import Tint.Command.Run
import Tint.Config
import Tint.Engine
import Tint.Engine.Cpu
import Tint.Engine.Gpu
import Tint.Engine.Rows
import Tint.Fault
import Tint.Files.Content
import Tint.Files.Directory
import Tint.Files.Path
import Tint.Formats.Anymap
import Tint.Formats.Bitmap
import Tint.Formats.Bytes
import Tint.Formats.Decode
import Tint.Formats.Deep
import Tint.Formats.Defect
import Tint.Formats.Farbfeld
import Tint.Formats.Format
import Tint.Formats.Gif
import Tint.Formats.Icon
import Tint.Formats.Qoi
import Tint.Formats.Radiance
import Tint.Formats.Raster
import Tint.Formats.Reading
import Tint.Formats.Surface
import Tint.Formats.Tagged
import Tint.Formats.Targa
import Tint.Formats.Webp
import Tint.Frame
import Tint.Gpu.Device
import Tint.Gpu.Mailbox
import Tint.Gpu.Renderer
import Tint.Gpu.Shader
import Tint.Gpu.Texture
import Tint.Gpu.Worker
import Tint.Json.Failure
import Tint.Json.Number
import Tint.Json.Reader
import Tint.Json.Record
import Tint.Json.Scan
import Tint.Json.Tree
import Tint.Json.Value
import Tint.Main
import Tint.Mix
import Tint.Node
import Tint.Picture
import Tint.Plane
import Tint.Png.Checksum
import Tint.Png.Chunk
import Tint.Png.Decode
import Tint.Png.Encode
import Tint.Png.Header
import Tint.Png.Inflate
import Tint.Png.Scanline
import Tint.Rounding
import Tint.Settings
import Tint.Stream
import Tint.Text.Blank
import Tint.Text.Floating
import Tint.Text.Hidden
import Tint.Text.Natural
import Tint.Text.Quoted
import Tint.Text.Split
import Tint.Text.Words
import Tint.Timestamp
import Tint.Proofs.Results
import Tint.Proofs.Bindings
import Tint.Proofs.Text.Naturals
import Tint.Proofs.Colors
import Tint.Proofs.Binary.Arithmetic
import Tint.Proofs.Binary.Error
import Tint.Proofs.Mixing
import Tint.Proofs.Sampling
import Tint.Proofs.Rows
import Tint.Proofs.Recolor
import Tint.Proofs.Node.Calls
import Tint.Proofs.Node.Lifecycle
import Tint.Proofs.Node.Rejection
import Tint.Proofs.Gpu.Texels
import Tint.Proofs.Node.Recorded
import Tint.Proofs.Node.Protocol
import Tint.Proofs.Node.Opening
import Tint.Proofs.Gpu.Healthy
import Tint.Proofs.Engine.Forecast
import Tint.Proofs.Node.Desk
import Tint.Proofs.Node.Books
import Tint.Proofs.Node.Memories
import Tint.Proofs.Widening
import Tint.Proofs.Gpu.Transfer
import Tint.Proofs.Node.History
import Tint.Proofs.Node.Pacing
import Tint.Proofs.Json.Scalars
import Tint.Proofs.Json.Collections
import Tint.Proofs.Json.Configuration
import Tint.Proofs.Json.Taking
import Tint.Proofs.Gpu.Queue
import Tint.Proofs.Gpu.Callers
import Tint.Proofs.Gpu.Leaks
import Tint.Proofs.Engine.Lifetime
import Tint.Proofs.Storage
import Tint.Proofs.Conversion
import Tint.Proofs.Gradation
import Tint.Proofs.Files.Growth
import Tint.Proofs.Command.Course
import Tint.Proofs.Command.Flags
import Tint.Proofs.Command.Setups
import Tint.Proofs.Sampling.Reach
import Tint.Proofs.Sampling.Interpolation
import Tint.Proofs.Json.Document
import Tint.Proofs.Json.Answering
import Tint.Proofs.Json.Strings
import Tint.Proofs.Json.Numerals
import Tint.Proofs.Json.Passing
import Tint.Proofs.Json.Decoding
import Tint.Proofs.Json.Schema
import Tint.Proofs.Json.Members
import Tint.Proofs.Json.Strictness
