import MinimalMpegTS.Lib.Transducer
import MinimalMpegTS.Lib.Framing
import MinimalMpegTS.Lib.Batches
import MinimalMpegTS.Lib.CRC
import MinimalMpegTS.Lib.Records
import MinimalMpegTS.Lib.Circular
import MinimalMpegTS.Lib.History
import MinimalMpegTS.Lib.Keyed
import MinimalMpegTS.Model.Types
import MinimalMpegTS.Model.Packet
import MinimalMpegTS.Model.Storage
import MinimalMpegTS.Model.PSI
import MinimalMpegTS.Model.PES
import MinimalMpegTS.Model.PCR
import MinimalMpegTS.Model.Demuxer
import MinimalMpegTS.Model.Calls
import MinimalMpegTS.Model.BasicExample
import MinimalMpegTS.Model.PacketGenerator
import MinimalMpegTS.Proofs.Input
import MinimalMpegTS.Proofs.Fields
import MinimalMpegTS.Proofs.PacketLayout
import MinimalMpegTS.Proofs.ReusedPackets
import MinimalMpegTS.Proofs.Packets
import MinimalMpegTS.Proofs.Sync
import MinimalMpegTS.Proofs.SyncChains
import MinimalMpegTS.Proofs.Reading
import MinimalMpegTS.Proofs.Store
import MinimalMpegTS.Proofs.Iterations
import MinimalMpegTS.Proofs.Identifiers
import MinimalMpegTS.Proofs.Grouping
import MinimalMpegTS.Proofs.Calls
import MinimalMpegTS.Proofs.Views
import MinimalMpegTS.Proofs.StateInvariant
import MinimalMpegTS.Proofs.AdaptationField
import MinimalMpegTS.Proofs.Segments
import MinimalMpegTS.Proofs.UniqueIds
import MinimalMpegTS.Proofs.Payloads
import MinimalMpegTS.Proofs.AppendOnly
import MinimalMpegTS.Proofs.Windows
import MinimalMpegTS.Proofs.NewPackets
import MinimalMpegTS.Proofs.ProgramTable
import MinimalMpegTS.Proofs.Alignment
import MinimalMpegTS.Proofs.Queries
import MinimalMpegTS.Proofs.PacketLoss
import MinimalMpegTS.Proofs.ChunkIndependence
import MinimalMpegTS.Proofs.Retrieval
import MinimalMpegTS.Proofs.Damaged
import MinimalMpegTS.Proofs.CleanStream
import MinimalMpegTS.Proofs.Recovery
import MinimalMpegTS.Proofs.Stabilization
import MinimalMpegTS.Proofs.Tables
import MinimalMpegTS.Proofs.SectionAssembly
import MinimalMpegTS.Proofs.Agreement
import MinimalMpegTS.Proofs.ClockReferences
import MinimalMpegTS.Proofs.ClockDifferences
import MinimalMpegTS.Proofs.Interpolation
import MinimalMpegTS.Proofs.Programs
import MinimalMpegTS.Proofs.ClearStream
import MinimalMpegTS.Proofs.Provenance
import MinimalMpegTS.Proofs.Locality
import MinimalMpegTS.Proofs.Discovery
import MinimalMpegTS.Proofs.ClearAll
import MinimalMpegTS.Proofs.ClockHistory
import MinimalMpegTS.Proofs.ClockQueries
import MinimalMpegTS.Proofs.ProgramListing
import MinimalMpegTS.Proofs.Checksum
import MinimalMpegTS.Proofs.SectionSyntax
import MinimalMpegTS.Proofs.PATSections
import MinimalMpegTS.Proofs.PMTSections
import MinimalMpegTS.Proofs.BitErrors
import MinimalMpegTS.Proofs.ParserBounds
import MinimalMpegTS.Proofs.ReusedTables
import MinimalMpegTS.Proofs.Reassembly
import MinimalMpegTS.Proofs.Services
import MinimalMpegTS.Proofs.TableQueries
import MinimalMpegTS.Proofs.SectionRuns
import MinimalMpegTS.Proofs.Bounds
import MinimalMpegTS.Proofs.PackedSections
import MinimalMpegTS.Proofs.PESHeaders
import MinimalMpegTS.Proofs.DecoderBounds
import MinimalMpegTS.Proofs.ReusedPES
import MinimalMpegTS.Proofs.PESPackets
import MinimalMpegTS.Proofs.PESAccumulation
import MinimalMpegTS.Proofs.PESRetrieval
import MinimalMpegTS.Proofs.PESDelivery
import MinimalMpegTS.Proofs.ExampleReport
import MinimalMpegTS.Proofs.GeneratedPackets
import MinimalMpegTS.Proofs.GeneratedStreams
import MinimalMpegTS.Proofs.GappedStreams
import MinimalMpegTS.Proofs.PESManagers
import MinimalMpegTS.Proofs.PESExtension
