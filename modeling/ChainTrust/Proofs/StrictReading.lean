import ChainTrust.Certificate.X509
import ChainTrust.Proofs.Contents
import ChainTrust.Proofs.Fields
import ChainTrust.Proofs.Respelling

namespace ChainTrust

open Der

namespace Der

namespace Codec

open Reader

theorem objectId : Codec Reader.objectId Reader.objectId oidElement fun _ => True :=
  (ContentCodec.of_written fun _ _ => content_of_ofBody?).element Tag.objectId

theorem octetString :
    Codec Reader.octetString Reader.octetString (element Tag.octetString) fun _ => True :=
  content Tag.octetString

theorem bitString : Codec Reader.bitString Reader.bitString
    (fun b => element Tag.bitString b.content) fun _ => True :=
  (ContentCodec.of_written fun _ _ => content_of_bitStringOf?).element Tag.bitString

theorem boolean : Codec Reader.boolean Reader.boolean
    (fun b => element Tag.boolean [if b then 0xFF else 0]) fun _ => True :=
  (ContentCodec.of_written fun _ _ => content_of_booleanOf?).element Tag.boolean

end Codec
end Der

namespace X509

open Reader

theorem Algorithm.codec : Codec read read encode fun _ => True := by
  have hparameters := Codec.anyElement.ifNext (lookahead_peekIs Option.isSome) (by
    rintro x more ⟨s, rest, hx⟩
    exact peekIs_cons _ (anyElement_eq_some_iff.mp hx).1 _)
  have hread : read = Reader.sequence ((fun x => Algorithm.mk x.1 x.2) <$>
      Reader.pair Reader.objectId (Reader.ifNext (peekIs Option.isSome) Reader.anyElement)) := by
    simp only [read, Reader.pair, Reader.ifNext, peekIs, map_eq_pure_bind, bind_assoc, pure_bind]
    refine congrArg Reader.sequence (bind_congr fun id => bind_congr fun o => ?_)
    split <;> simp only [bind_assoc, pure_bind]
  rw [hread]
  exact (Codec.objectId.pair hparameters fun _ _ _ _ => trivial).record rfl _ fun x => by
    simp [encode, Der.sequence]

theorem PublicKey.codec : Codec read read encode fun _ => True := by
  have hread : read = Reader.sequence ((fun x => PublicKey.mk x.1 x.2) <$>
      Reader.pair Algorithm.read Reader.bitString) := by
    simp only [read, Reader.pair, map_eq_pure_bind, bind_assoc, pure_bind]
  rw [hread]
  exact (Algorithm.codec.pair Codec.bitString fun _ _ _ _ => trivial).record trivial _ fun x => by
    simp [encode, Der.sequence]

/-- The time of an element of one of two types. -/
def Time.ofElement? (x : UInt8 × Bytes) : Option Time :=
  if x.1 = Tag.utcTime then (utcTimeOf? x.2).map .utc
  else if x.1 = Tag.generalizedTime then (generalizedTimeOf? x.2).map .generalized
  else none

theorem Time.encode_of_ofElement? {x : UInt8 × Bytes} {t : Time} (h : ofElement? x = some t) :
    t.encode = element x.1 x.2 := by
  unfold ofElement? at h
  split at h
  · rename_i htag
    obtain ⟨s, hs, rfl⟩ := Option.map_eq_some_iff.mp h
    rw [encode, htag, content_of_utcTimeOf? hs]
  · split at h
    · rename_i htag
      obtain ⟨s, hs, rfl⟩ := Option.map_eq_some_iff.mp h
      rw [encode, htag, content_of_generalizedTimeOf? hs]
    · cases h

theorem Time.codec : Codec read read encode fun _ => True := by
  have hread : read = Reader.anyElement >>= fun x => Reader.lift (ofElement? x) := by
    refine bind_congr fun ⟨tag, value⟩ => ?_
    dsimp only [ofElement?]
    split
    · rw [lift_map]
    · split
      · rename_i htag
        rw [lift_map, guard, if_pos htag, pure_bind]
      · rename_i htag
        rw [guard, if_neg htag]
        rfl
  rw [hread]
  exact Codec.anyElement.filterMap ofElement? fun x t => encode_of_ofElement?

/-- The flag is not written if it is false. -/
def Extension.readStrict : Reader Extension := Reader.sequence do
  let id ← Reader.objectId
  let critical ← Reader.beyond false (Reader.optional Tag.boolean Reader.boolean)
  return ⟨id, critical, ← Reader.octetString⟩

theorem booleanFlag_codec :
    Codec (Reader.orDefault false (Reader.optional Tag.boolean Reader.boolean))
      (Reader.beyond false (Reader.optional Tag.boolean Reader.boolean)) booleanFlag
      fun more => peekIs (fun t => t = some Tag.boolean) more = some (false, more) := by
  have hflag := Codec.boolean.ifNext (lookahead_peekIs fun t => t = some Tag.boolean) (by
    intro b more _
    exact peekIs_cons _ (by decide) _)
  rw [optional_eq_ifNext]
  refine (hflag.orDefault false ⟨[], [], rfl⟩).of_eq fun b => ?_
  cases b <;> rfl

theorem Extension.codec : Codec read readStrict encode fun _ => True := by
  have hread : read = Reader.sequence ((fun x => Extension.mk x.1 x.2.1 x.2.2) <$>
      Reader.pair Reader.objectId (Reader.pair (Reader.orDefault false
        (Reader.optional Tag.boolean Reader.boolean)) Reader.octetString)) := by
    simp only [read, Reader.pair, Reader.orDefault, map_eq_pure_bind, bind_assoc, pure_bind]
  have hstrict : readStrict = Reader.sequence ((fun x => Extension.mk x.1 x.2.1 x.2.2) <$>
      Reader.pair Reader.objectId (Reader.pair (Reader.beyond false
        (Reader.optional Tag.boolean Reader.boolean)) Reader.octetString)) := by
    simp only [readStrict, Reader.pair, map_eq_pure_bind, bind_assoc, pure_bind]
  have hvalue := booleanFlag_codec.pair Codec.octetString fun _ _ _ _ => peekIs_cons _ (by decide) _
  rw [hread, hstrict]
  exact (Codec.objectId.pair hvalue fun _ _ _ _ => trivial).record trivial _ fun x => by
    simp [encode, Der.sequence]

theorem readSerial_codec :
    Codec readSerial readSerial (element Tag.integer) fun _ => True := by
  have hread : readSerial = Reader.content Tag.integer >>= fun c =>
      Reader.lift ((signedOf? c).filter fun serial => serial.length ≤ maxSerialLength) := by
    simp only [lift_filter, decide_eq_true_eq]
    rfl
  rw [hread]
  exact (ContentCodec.of_written fun _ _ h =>
    content_of_signedOf? (Option.filter_eq_some_iff.mp h).1).element Tag.integer

theorem readVersion_codec : Codec readVersion readVersion
    (fun n => element Tag.integer (unsigned n)) fun _ => True := by
  have hread : readVersion = Reader.content Tag.integer >>= fun c =>
      Reader.lift ((unsignedOf? 1 c).filter fun version => version ≤ 2) := by
    simp only [readVersion, Reader.unsignedInteger, lift_filter, decide_eq_true_eq, bind_assoc]
  rw [hread]
  exact (ContentCodec.of_written fun _ _ h =>
    content_of_unsignedOf? (Option.filter_eq_some_iff.mp h).1).element Tag.integer

end X509

theorem Attribute.codec : Codec read read encode fun _ => True := by
  have hread : read = Reader.sequence ((fun x => Attribute.mk x.1 x.2.1 x.2.2) <$>
      Reader.pair Reader.objectId Reader.anyElement) := by
    simp only [read, Reader.pair, map_eq_pure_bind, bind_assoc, pure_bind]
  rw [hread]
  exact (Codec.objectId.pair Codec.anyElement fun _ _ _ _ => trivial).record trivial _ fun x => by
    simp [encode, Der.sequence]

namespace Rdn

/-- The attributes come in order. -/
def readStrict : Reader Rdn := do
  let rdn ← Reader.lift (Reader.items Attribute.read (← Reader.content Tag.set))
  guard (isOrdered rdn)
  return rdn

/-- A set is put in order, and then an order is all that it may have lacked. -/
theorem contentCodec :
    ContentCodec (fun c => ((Reader.items Attribute.read c).map ofAttributes).filter isOrdered)
      (fun c => (Reader.items Attribute.read c).filter isOrdered)
      (fun rdn => (rdn.map Attribute.encode).flatten) := by
  have hne : ∀ a : Attribute, a.encode ≠ [] := fun a => element_ne_nil _ _
  constructor
  · intro c rdn h
    obtain ⟨hitems, hordered⟩ := Option.filter_eq_some_iff.mp h
    refine Option.filter_eq_some_iff.mpr ⟨?_, hordered⟩
    rw [hitems, Option.map_some, ofAttributes_eq_self hordered]
  · intro c rdn h
    exact (Attribute.codec.items hne).written (Option.filter_eq_some_iff.mp h).1
  · intro c rdn h
    obtain ⟨hmap, hordered⟩ := Option.filter_eq_some_iff.mp h
    obtain ⟨attributes, hitems, rfl⟩ := Option.map_eq_some_iff.mp hmap
    refine Option.filter_eq_some_iff.mpr ⟨Attribute.codec.items_again hne fun a ha => ?_, hordered⟩
    exact Reader.reads_of_items hitems a (List.mem_mergeSort.mp ha)
  · intro c rdn h
    obtain ⟨hmap, -⟩ := Option.filter_eq_some_iff.mp h
    obtain ⟨attributes, hitems, rfl⟩ := Option.map_eq_some_iff.mp hmap
    have hperm : (ofAttributes attributes).Perm attributes := List.mergeSort_perm _ _
    rw [((hperm.map Attribute.encode).flatten).length_eq]
    exact Attribute.codec.items_shorter hitems

theorem codec : Codec read readStrict encode fun _ => True := by
  have hread : read = Reader.content Tag.set >>= fun c =>
      Reader.lift (((Reader.items Attribute.read c).map ofAttributes).filter isOrdered) := by
    refine bind_congr fun c => ?_
    rw [Reader.lift_filter, Reader.lift_map, bind_assoc]
    simp only [pure_bind]
  have hstrict : readStrict = Reader.content Tag.set >>= fun c =>
      Reader.lift ((Reader.items Attribute.read c).filter isOrdered) := by
    refine bind_congr fun c => ?_
    rw [Reader.lift_filter]
  rw [hread, hstrict]
  exact contentCodec.element Tag.set

end Rdn

namespace Name

def readStrict : Reader Name :=
  Reader.sequenceOf Rdn.readStrict

theorem codec : Codec read readStrict encode fun _ => True :=
  Rdn.codec.sequenceOf fun _ => element_ne_nil _ _

end Name

namespace X509

open Reader

/-- The version is not written if it is the first, fields come in the order of their numbers, and what
is read in the body is written as it should be. -/
def Body.readStrict : Reader Body := Reader.sequence do
  let version ← Reader.beyond 0
    (Reader.ifNext (seekNext 0) (Reader.holder (Tag.contextHolder 0) readVersion))
  let serial ← readSerial
  let signature ← Algorithm.read
  let issuer ← Name.readStrict
  let (notBefore, notAfter) ← Reader.sequence do return (← Time.read, ← Time.read)
  let subject ← Name.readStrict
  let publicKey ← PublicKey.read
  let issuerUniqueId ← Reader.ifNext (seekNext 1)
    (do Reader.lift (bitStringOf? (← Reader.content (Tag.context 1))))
  let subjectUniqueId ← Reader.ifNext (seekNext 2)
    (do Reader.lift (bitStringOf? (← Reader.content (Tag.context 2))))
  let extensions ← Reader.ifNext (seekNext 3)
    (Reader.holder (Tag.contextHolder 3) (Reader.sequenceOf Extension.readStrict))
  return ⟨version, serial, signature, issuer, notBefore, notAfter, subject, publicKey,
    issuerUniqueId, subjectUniqueId, extensions⟩

def Certificate.readStrict : Reader Certificate := Reader.sequence do
  let body ← Body.readStrict
  let algorithm ← Algorithm.read
  return ⟨body, algorithm, ← Reader.bitString⟩

theorem version_codec :
    Codec (Reader.orDefault 0 (Reader.explicitField 0 readVersion))
      (Reader.beyond 0 (Reader.ifNext (seekNext 0) (Reader.holder (Tag.contextHolder 0) readVersion)))
      (fun n => if n = 0 then [] else
        element (Tag.contextHolder 0) (element Tag.integer (unsigned n)))
      fun more => seekNext 0 more = some (false, more) :=
  (Codec.field (readVersion_codec.all trivial) (by decide) (by decide) (by decide)).orDefault 0
    ⟨[], [], Reader.ifNext_eq_some_none_iff.mpr (Reader.seek_nil 0)⟩

theorem extensions_codec :
    Codec (Reader.explicitField 3 (Reader.sequenceOf Extension.read))
      (Reader.ifNext (seekNext 3)
        (Reader.holder (Tag.contextHolder 3) (Reader.sequenceOf Extension.readStrict)))
      (fun o => (o.map fun es =>
        element (Tag.contextHolder 3) (Der.sequence (es.map Extension.encode))).getD [])
      fun more => seekNext 3 more = some (false, more) :=
  Codec.field ((Extension.codec.sequenceOf fun _ => element_ne_nil _ _).all trivial)
    (by decide) (by decide) (by decide)

theorem uniqueId_codec (number : UInt8) (htag : isTag (Tag.context number) = true)
    (hclass : Tag.context number &&& 0xC0 = 0x80) (hnumber : Tag.context number &&& 0x1F = number) :
    Codec (Reader.implicitField (Tag.context number) bitStringOf?)
      (Reader.ifNext (seekNext number)
        (do Reader.lift (bitStringOf? (← Reader.content (Tag.context number)))))
      (Body.encodeField number) fun more => seekNext number more = some (false, more) := by
  have hfield := Codec.field (ContentCodec.of_written fun _ _ => content_of_bitStringOf?)
    htag hclass rfl
  rw [hnumber] at hfield
  have hread : Reader.implicitField (Tag.context number) bitStringOf? =
      Reader.ifNext (seek number)
        (do Reader.lift (bitStringOf? (← Reader.content (Tag.context number)))) := by
    simp only [Reader.implicitField, hnumber, Reader.ifNext, bind_assoc]
  rw [hread]
  exact hfield

/-- What stands after the key: the fields from the first to the third. -/
theorem trailer_codec :
    Codec
      (Reader.pair (Reader.implicitField (Tag.context 1) bitStringOf?)
        (Reader.pair (Reader.implicitField (Tag.context 2) bitStringOf?)
          (Reader.explicitField 3 (Reader.sequenceOf Extension.read))))
      (Reader.pair
        (Reader.ifNext (seekNext 1)
          (do Reader.lift (bitStringOf? (← Reader.content (Tag.context 1)))))
        (Reader.pair
          (Reader.ifNext (seekNext 2)
            (do Reader.lift (bitStringOf? (← Reader.content (Tag.context 2)))))
          (Reader.ifNext (seekNext 3)
            (Reader.holder (Tag.contextHolder 3) (Reader.sequenceOf Extension.readStrict)))))
      (fun x => Body.encodeField 1 x.1 ++ (Body.encodeField 2 x.2.1 ++
        (x.2.2.map fun es =>
          element (Tag.contextHolder 3) (Der.sequence (es.map Extension.encode))).getD []))
      (· = []) := by
  have hextensions := extensions_codec.narrow (· = []) (by
    rintro _ rfl
    exact seekNext_nil 3)
  have hlast := (uniqueId_codec 2 (by decide) (by decide) (by decide)).pair hextensions (by
    rintro o more - rfl
    cases o with
    | none => exact seekNext_nil 2
    | some es => exact seekNext_of_other (by decide) (by decide) _)
  refine (uniqueId_codec 1 (by decide) (by decide) (by decide)).pair hlast ?_
  rintro ⟨o, o'⟩ more - rfl
  cases o with
  | some id => exact seekNext_of_other (by decide) (by decide) _
  | none =>
    cases o' with
    | none => exact seekNext_nil 1
    | some es => exact seekNext_of_other (by decide) (by decide) _

theorem validity_codec :
    Codec (Reader.sequence do return (← Time.read, ← Time.read))
      (Reader.sequence do return (← Time.read, ← Time.read))
      (fun x => Der.sequence [x.1.encode, x.2.encode]) fun _ => True :=
  ((Time.codec.pair Time.codec fun _ _ _ _ => trivial).sequence trivial).of_eq fun x => by
    simp [Der.sequence]

/-- A body of its parts in the order in which they are written. -/
def Body.ofParts (x : Nat × Bytes × Algorithm × Name × (Time × Time) × Name × PublicKey ×
    Option BitString × Option BitString × Option (List Extension)) : Body :=
  let (version, serial, signature, issuer, (notBefore, notAfter), subject, publicKey, issuerUniqueId,
    subjectUniqueId, extensions) := x
  ⟨version, serial, signature, issuer, notBefore, notAfter, subject, publicKey, issuerUniqueId,
    subjectUniqueId, extensions⟩

theorem Body.codec : Codec read readStrict encode fun _ => True := by
  have hkey := PublicKey.codec.pair trailer_codec fun _ _ _ _ => trivial
  have hsubject := Name.codec.pair hkey fun _ _ _ _ => trivial
  have hvalidity := validity_codec.pair hsubject fun _ _ _ _ => trivial
  have hissuer := Name.codec.pair hvalidity fun _ _ _ _ => trivial
  have hsignature := Algorithm.codec.pair hissuer fun _ _ _ _ => trivial
  have hserial := readSerial_codec.pair hsignature fun _ _ _ _ => trivial
  have hversion := version_codec.pair hserial fun _ _ _ _ => seekNext_of_other (by decide) (by decide) _
  have hcodec : Codec _ _ encode fun _ => True := hversion.record rfl ofParts
    fun ⟨_, _, _, _, ⟨_, _⟩, _, _, _, _, _⟩ => by
      simp only [encode, ofParts, Der.sequence, List.flatten_cons, List.flatten_nil, List.append_nil]
      rfl
  convert hcodec using 1
  · simp only [read, ofParts, Reader.pair, Reader.orDefault, map_eq_pure_bind, bind_assoc, pure_bind]
  · simp only [readStrict, ofParts, Reader.pair, map_eq_pure_bind, bind_assoc, pure_bind]

theorem Certificate.codec : Codec read readStrict encode fun _ => True := by
  have halgorithm := Algorithm.codec.pair Codec.bitString fun _ _ _ _ => trivial
  have hbody := Body.codec.pair halgorithm fun _ _ _ _ => trivial
  have hcodec : Codec _ _ encode fun _ => True :=
    hbody.record trivial (fun x => Certificate.mk x.1 x.2.1 x.2.2) fun x => by
      simp [encode, Der.sequence]
  convert hcodec using 1
  · simp only [read, Reader.pair, map_eq_pure_bind, bind_assoc, pure_bind]
  · simp only [readStrict, Reader.pair, map_eq_pure_bind, bind_assoc, pure_bind]

end X509
end ChainTrust
