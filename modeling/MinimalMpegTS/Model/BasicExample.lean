import MinimalMpegTS.Model.Demuxer

/-!
# The example program

The model of `examples/basic_example.cpp`, which feeds a file in chunks and reports the programs and
iterations found. What it prints is a record; the arguments and the texts around the numbers are left out.
-/

namespace MinimalMpegTS

/-- A line printed while the file is read. -/
structure Progress where
  packets : Nat
  totalBytes : Nat

/-- The lines of one PID. -/
structure StreamReport where
  pid : UInt16
  iterations : List IterationInfo

/-- The lines of one program. -/
structure ProgramReport where
  program : ProgramInfo
  streams : List StreamReport

structure ExampleReport where
  progress : List Progress
  programs : List ProgramReport

namespace BasicExample

/-- `CHUNK_SIZE` -/
def chunkSize : Nat := 4096

/-- The loop that reads and feeds what is left of the file. -/
def readLoop (demuxer : MPEGTSDemuxer) (totalBytes : Nat) (file : List UInt8) :
    MPEGTSDemuxer × List Progress :=
  -- the stream ends when nothing more can be read
  if hempty : file = [] then (demuxer, [])
  else
    let buffer := file.take chunkSize
    let totalBytes := totalBytes + buffer.length
    let demuxer := demuxer.feedData buffer
    let lines :=
      if demuxer.isSynchronized then [⟨demuxer.getPacketCount, totalBytes⟩] else []
    let rest := readLoop demuxer totalBytes (file.drop chunkSize)
    (rest.1, lines ++ rest.2)
termination_by file.length
decreasing_by
  have hpos := List.length_pos_of_ne_nil hempty
  rw [List.length_drop]
  unfold chunkSize
  omega

/-- The inner loop over the PIDs of a program. -/
def reportStreams (demuxer : MPEGTSDemuxer) : List UInt16 → MPEGTSDemuxer × List StreamReport
  | [] => (demuxer, [])
  | pid :: pids =>
    let (demuxer, iterations) := demuxer.getIterationsSummary pid
    let (demuxer, streams) := reportStreams demuxer pids
    (demuxer, ⟨pid, iterations⟩ :: streams)

/-- The loop over the programs. -/
def reportPrograms (demuxer : MPEGTSDemuxer) : List ProgramInfo → MPEGTSDemuxer × List ProgramReport
  | [] => (demuxer, [])
  | prog :: programs =>
    let (demuxer, streams) := reportStreams demuxer prog.streamPids
    let (demuxer, reports) := reportPrograms demuxer programs
    (demuxer, ⟨prog, streams⟩ :: reports)

def main (file : List UInt8) : ExampleReport :=
  let (demuxer, progress) := readLoop {} 0 file
  let (demuxer, programs) := demuxer.getPrograms
  ⟨progress, (reportPrograms demuxer programs).2⟩

end BasicExample

end MinimalMpegTS
