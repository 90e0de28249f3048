import NetNodeGateway.Common.Bytes
import Mathlib.Logic.Function.Iterate

/-!
# The table-driven CRC-32 of `common/crc32.cpp`

`makeCrcEntry` is the eight-step reflected shift-and-reduce loop with polynomial `0xEDB88320`,
`table` holds it for every byte, and `crc32Update` folds the bytes through the table between a
complement on entry and one on exit, exactly as the source does; `crc32` starts it from `0`.
-/

namespace NetNodeGateway

/-- One iteration of `make_crc_entry`'s loop: shift right, reducing by the polynomial when the
bit shifted out was set. -/
def crcBitStep (crc : UInt32) : UInt32 :=
  if crc &&& 1 ≠ 0 then (crc >>> 1) ^^^ 0xEDB88320 else crc >>> 1

/-- `make_crc_entry`: eight bit steps from the index. -/
def makeCrcEntry (idx : UInt32) : UInt32 := crcBitStep^[8] idx

/-- `CrcTable`: the 256 precomputed entries, indexed by a byte. -/
structure CrcTable where
  entries : UInt8 → UInt32

/-- `table`: entry `i` is `make_crc_entry(i)`. -/
def table : CrcTable := ⟨fun i => makeCrcEntry i.toUInt32⟩

/-- One iteration of `crc32_update`'s loop: index the table by the low byte of `crc ^ b`. -/
def crcByteStep (crc : UInt32) (b : UInt8) : UInt32 :=
  (crc >>> 8) ^^^ table.entries (crc ^^^ b.toUInt32).toUInt8

/-- `crc32_update`: complement, fold the bytes through the table, complement. -/
def crc32Update (crc : UInt32) (data : List UInt8) : UInt32 :=
  ~~~(data.foldl crcByteStep (~~~crc))

/-- `crc32`: `crc32_update` from `0`. -/
def crc32 (data : List UInt8) : UInt32 := crc32Update 0 data

end NetNodeGateway
