import ChainTrust.Name

namespace ChainTrust

open Der

inductive GeneralName where
  | other (type : Oid) (tag : UInt8) (value : Bytes)
  | email (address : String)
  | dns (host : String)
  | directory (name : Name)
  | ediParty
  | uri (text : String)
  | ip (address : Bytes)
  | registered (id : Oid)
deriving DecidableEq, Repr

structure Subtree where
  base : GeneralName
  minimum : Nat
  maximum : Option Nat
deriving DecidableEq, Repr

structure NameConstraints where
  permitted : Option (List Subtree)
  excluded : Option (List Subtree)
deriving DecidableEq, Repr

namespace GeneralName

def readOther (content : Bytes) : Option GeneralName :=
  Reader.all (do
    let type ← Reader.objectId
    let (tag, value) ← Reader.required (Reader.explicitField 0 Reader.anyElement)
    return .other type tag value) content

def directoryTextTags : List UInt8 :=
  [Tag.printableString, Tag.teletexString, Tag.utf8String]

/-- A text of one of three string types. -/
def readDirectoryText : Reader Unit := do
  let (tag, value) ← Reader.anyElement
  guard (directoryTextTags.contains tag && (Attribute.string? ⟨⟨[]⟩, tag, value⟩).isSome)

def readEdiParty (content : Bytes) : Option GeneralName :=
  Reader.all (do
    let _ ← Reader.explicitField 0 readDirectoryText
    Reader.required (Reader.explicitField 1 readDirectoryText)
    return .ediParty) content

def ofElement? (tag : UInt8) (content : Bytes) : Option GeneralName :=
  if tag = Tag.contextHolder 0 then readOther content
  else if tag = Tag.context 1 then (ia5Of? content).map .email
  else if tag = Tag.context 2 then (ia5Of? content).map .dns
  else if tag = Tag.contextHolder 4 then (Reader.all Name.read content).map .directory
  else if tag = Tag.contextHolder 5 then readEdiParty content
  else if tag = Tag.context 6 then (ia5Of? content).map .uri
  else if tag = Tag.context 7 then some (.ip content)
  else if tag = Tag.context 8 then (Oid.ofBody? content).map .registered
  else none

def read : Reader GeneralName := do
  let (tag, content) ← Reader.anyElement
  Reader.lift (ofElement? tag content)

end GeneralName

namespace Subtree

def read : Reader Subtree := Reader.sequence do
  let base ← GeneralName.read
  let minimum ← Reader.implicitField (Tag.context 0) (unsignedOf? 4)
  let maximum ← Reader.implicitField (Tag.context 1) (unsignedOf? 4)
  return ⟨base, minimum.getD 0, maximum⟩

end Subtree

def NameConstraints.read : Reader NameConstraints := Reader.sequence do
  let permitted ← Reader.implicitField (Tag.contextHolder 0) (Reader.items Subtree.read)
  let excluded ← Reader.implicitField (Tag.contextHolder 1) (Reader.items Subtree.read)
  return ⟨permitted, excluded⟩

end ChainTrust
