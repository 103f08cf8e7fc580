import ChainTrust.Bytes

namespace ChainTrust

/-- The number in as few bytes as possible, none for zero. -/
def Bytes.ofNat (n : Nat) : Bytes :=
  if n = 0 then [] else ofNat (n / 256) ++ [UInt8.ofNat n]

namespace Der

namespace Tag

def boolean : UInt8 := 0x01
def integer : UInt8 := 0x02
def bitString : UInt8 := 0x03
def octetString : UInt8 := 0x04
def null : UInt8 := 0x05
def objectId : UInt8 := 0x06
def enumerated : UInt8 := 0x0A
def utf8String : UInt8 := 0x0C
def printableString : UInt8 := 0x13
def teletexString : UInt8 := 0x14
def ia5String : UInt8 := 0x16
def utcTime : UInt8 := 0x17
def generalizedTime : UInt8 := 0x18
def sequence : UInt8 := 0x30
def set : UInt8 := 0x31

/-- Context-specific tags, without and with elements as their content. -/
def context (n : UInt8) : UInt8 := 0x80 + n
def contextHolder (n : UInt8) : UInt8 := 0xA0 + n

end Tag

def lengthBytes (n : Nat) : Bytes :=
  if n < 128 then [UInt8.ofNat n]
  else
    let digits := Bytes.ofNat n
    UInt8.ofNat (128 + digits.length) :: digits

def element (tag : UInt8) (content : Bytes) : Bytes :=
  tag :: lengthBytes content.length ++ content

def sequence (parts : List Bytes) : Bytes :=
  element Tag.sequence parts.flatten

/-- A nonnegative integer starts with a byte below 128. -/
def unsigned (n : Nat) : Bytes :=
  match Bytes.ofNat n with
  | [] => [0]
  | b :: rest => if b < 0x80 then b :: rest else 0 :: b :: rest

end Der
end ChainTrust
