import NetNodeGateway.Common.Bytes

/-!
# `FrameRecorder` of `gateway/frame_recorder.cpp`

The recorder's file is the list of bytes written to it.  The file system is not modelled: an
`open` is told whether the file could be opened, and writes to an open file succeed, so the
`!file_.good()` failure of `record` is not reached here.  A record is the little-endian
`uint64_t` timestamp, the `uint32_t` length (`static_cast` of the size) and the bytes.
-/

namespace NetNodeGateway

/-- `FrameRecorder`: whether the file is open, its contents, and `frame_count_`. -/
structure FrameRecorder where
  isOpen : Bool := false
  file : List UInt8 := []
  frameCount : UInt64 := 0
  deriving DecidableEq, Repr

/-- The bytes `record(ts, data, len)` appends. -/
def recordBytes (rxTimestampNs : UInt64) (frame : List UInt8) : List UInt8 :=
  le64 rxTimestampNs ++ le32 (UInt32.ofNat frame.length) ++ frame

namespace FrameRecorder

/-- `open(path)` in truncate-and-write mode, with `opened` whether the file could be opened. -/
def «open» (r : FrameRecorder) (opened : Bool) : Bool × FrameRecorder :=
  if opened then (true, { isOpen := true, file := [], frameCount := 0 })
  else (false, { r with isOpen := false })

/-- `record(rx_timestamp_ns, frame_data, frame_len)`. -/
def record (r : FrameRecorder) (rxTimestampNs : UInt64) (frame : List UInt8) :
    Bool × FrameRecorder :=
  if !r.isOpen then (false, r)
  else (true, { r with file := r.file ++ recordBytes rxTimestampNs frame,
                       frameCount := r.frameCount + 1 })

/-- `close()`. -/
def close (r : FrameRecorder) : FrameRecorder := { r with isOpen := false }

end FrameRecorder

end NetNodeGateway
