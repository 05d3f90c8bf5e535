import StreamCodec.Checksum.Crc
import StreamCodec.Checksum.Xxh64
import StreamCodec.Config.Store
import StreamCodec.Json.Records
import StreamCodec.OneShot
import StreamCodec.SampleData
import StreamCodec.Stream.Schedule
import StreamCodec.Stream.Scripted
import StreamCodec.Proofs.Adapting
import StreamCodec.Proofs.Arrival
import StreamCodec.Proofs.Buffering
import StreamCodec.Proofs.Builtin.Brotli
import StreamCodec.Proofs.Builtin.Bzip2
import StreamCodec.Proofs.Builtin.Inflating
import StreamCodec.Proofs.Builtin.Refusing
import StreamCodec.Proofs.Builtin.Scanning
import StreamCodec.Proofs.Builtin.Xz
import StreamCodec.Proofs.Builtin.Zstd
import StreamCodec.Proofs.Calling
import StreamCodec.Proofs.Carrying
import StreamCodec.Proofs.Closing
import StreamCodec.Proofs.Collecting
import StreamCodec.Proofs.Compressing
import StreamCodec.Proofs.Configuring
import StreamCodec.Proofs.Conservation
import StreamCodec.Proofs.Decoders
import StreamCodec.Proofs.Decoding
import StreamCodec.Proofs.Dialect
import StreamCodec.Proofs.Documents.Json
import StreamCodec.Proofs.Documents.Tidy
import StreamCodec.Proofs.Documents.Toml
import StreamCodec.Proofs.Documents.Yaml
import StreamCodec.Proofs.Encoders
import StreamCodec.Proofs.Encoding
import StreamCodec.Proofs.Extracting
import StreamCodec.Proofs.Failing
import StreamCodec.Proofs.Feeding
import StreamCodec.Proofs.Filling
import StreamCodec.Proofs.Flushing
import StreamCodec.Proofs.Gathering
import StreamCodec.Proofs.Grammar
import StreamCodec.Proofs.Growing
import StreamCodec.Proofs.Gunzip
import StreamCodec.Proofs.Gzip.Failing
import StreamCodec.Proofs.Gzip.Handover
import StreamCodec.Proofs.Gzip.Header
import StreamCodec.Proofs.Gzip.Layout
import StreamCodec.Proofs.Gzip.Member
import StreamCodec.Proofs.Gzip.Packing
import StreamCodec.Proofs.Gzip.Trailing
import StreamCodec.Proofs.Gzip.Unpacking
import StreamCodec.Proofs.Gzip.Visiting
import StreamCodec.Proofs.Gzipping
import StreamCodec.Proofs.Layering
import StreamCodec.Proofs.Lookup
import StreamCodec.Proofs.Mirroring
import StreamCodec.Proofs.Recording
import StreamCodec.Proofs.RoundTrip
import StreamCodec.Proofs.Sampling
import StreamCodec.Proofs.Saving
import StreamCodec.Proofs.Sniffing
import StreamCodec.Proofs.Spelling
import StreamCodec.Proofs.Storing
import StreamCodec.Proofs.Streams
import StreamCodec.Proofs.Taping
import StreamCodec.Proofs.Visiting
import StreamCodec.Proofs.Watching
import StreamCodec.Proofs.Withstanding
import StreamCodec.Proofs.Writing
