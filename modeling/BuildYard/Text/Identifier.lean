import BuildYard.Text.Digits
/-!
# Random identifiers

An identifier of 128 bits as a UUID of version 4: 32 hexadecimal digits in five groups,
of which six bits tell the version and the variant.
-/

namespace BuildYard.Text

/-- The octets with the bits of the version and of the variant set. -/
def markedOctets (octets : List UInt8) : List UInt8 :=
  let octets := octets ++ List.replicate (16 - octets.length) 0
  octets.mapIdx fun i b =>
    if i = 6 then b &&& 0x0F ||| 0x40 else if i = 8 then b &&& 0x3F ||| 0x80 else b

/-- The identifier with these random octets. -/
def identifier (octets : List UInt8) : String :=
  let digits := (markedOctets octets).flatMap fun b => hexPadded 2 b.toNat
  let group (start size : Nat) : List Char := (digits.drop start).take size
  String.ofList (group 0 8 ++ '-' :: group 8 4 ++ '-' :: group 12 4 ++ '-' :: group 16 4 ++
    '-' :: group 20 12)

end BuildYard.Text
