/-!
# Check sums of sixteen bits

The cyclic redundancy check with the polynomial `x¹⁶ + x¹² + x⁵ + 1`, from zero and without
reflection, that the texts of keys carry, the low octet first.
-/

namespace NamedKeys.Code.Crc16

/-- The check sum after one more bit has been shifted out. -/
def shift (crc : UInt16) : UInt16 :=
  if crc &&& 0x8000 = 0 then crc <<< 1 else crc <<< 1 ^^^ 0x1021

def step (crc : UInt16) (b : UInt8) : UInt16 :=
  shift (shift (shift (shift (shift (shift (shift (shift (crc ^^^ b.toUInt16 <<< 8))))))))

def checksum (octets : List UInt8) : UInt16 :=
  octets.foldl step 0

/-- The check sum of octets in two octets, the low one first. -/
def checksumOctets (octets : List UInt8) : List UInt8 :=
  let crc := checksum octets
  [crc.toUInt8, (crc >>> 8).toUInt8]

theorem length_checksumOctets (octets : List UInt8) : (checksumOctets octets).length = 2 := rfl

end NamedKeys.Code.Crc16
