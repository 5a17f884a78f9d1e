/-!
The reflected CRC-32 of IEEE 802.3. The register starts and ends inverted; every bit shifts it to
the right and subtracts the polynomial when a one falls out.
-/

namespace NumaFabric.Wire

def crcPolynomial : UInt32 := 0xedb88320

def crcBit (r : UInt32) : UInt32 :=
  if r &&& 1 = 1 then (r >>> 1) ^^^ crcPolynomial else r >>> 1

/-- Eight steps of the register, after a byte is added to its low end. -/
def crcByte (r : UInt32) (b : UInt8) : UInt32 :=
  crcBit (crcBit (crcBit (crcBit (crcBit (crcBit (crcBit (crcBit (r ^^^ b.toUInt32))))))))

def checksum (bytes : List UInt8) : UInt32 := ~~~ bytes.foldl crcByte 0xffffffff

theorem foldl_crcByte_append (a b : List UInt8) (r : UInt32) :
    (a ++ b).foldl crcByte r = b.foldl crcByte (a.foldl crcByte r) := List.foldl_append

end NumaFabric.Wire
