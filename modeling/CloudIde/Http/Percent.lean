import CloudIde.Text.Hex

/-!
# Percent-encoding

A byte can be written as a percent sign with two hexadecimal digits. A percent sign that does not
begin such a group stands for itself.
-/

namespace CloudIde.Percent

/-- The percent sign. -/
def sign : UInt8 := 0x25

/-- The bytes with every group replaced by the byte that it writes. -/
def decode : Bytes → Bytes
  | [] => []
  | [a] => [a]
  | [a, b] => [a, b]
  | a :: b :: c :: rest =>
    let value := (hexValue? b).bind fun high => (hexValue? c).map (16 * high + ·)
    match if a = sign then value else none with
    | some value => UInt8.ofNat value :: decode rest
    | none => a :: decode (b :: c :: rest)

/-- A byte as a group, with upper-case digits. -/
def group (b : UInt8) : Bytes := [sign, upperHex (b.toNat / 16), upperHex (b.toNat % 16)]

/-- The bytes with those that are not kept written as groups. -/
def encode (keep : UInt8 → Bool) (bytes : Bytes) : Bytes :=
  bytes.flatMap fun b => if keep b then [b] else group b

end CloudIde.Percent
