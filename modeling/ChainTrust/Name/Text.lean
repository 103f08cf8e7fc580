import ChainTrust.Name
import ChainTrust.Text.Hex

namespace ChainTrust

/-- Short names of attribute types and of what else has a number beside theirs: the arcs that a
family has in common, and the last arc of each member. -/
def shortNames : List (List Nat × List (Nat × String)) :=
  [ ([2, 5, 4],
      [(0, "OBJECTCLASS"), (1, "ALIASEDOBJECTNAME"), (2, "KNOWLEDGEINFORMATION"), (3, "CN"),
       (4, "SN"), (5, "SERIALNUMBER"), (6, "C"), (7, "L"), (8, "ST"), (9, "STREET"), (10, "O"),
       (11, "OU"), (12, "TITLE"), (13, "DESCRIPTION"), (14, "SEARCHGUIDE"),
       (15, "BUSINESSCATEGORY"), (16, "POSTALADDRESS"), (17, "POSTALCODE"),
       (18, "POSTOFFICEBOX"), (19, "PHYSICALDELIVERYOFFICENAME"), (20, "TELEPHONENUMBER"),
       (21, "TELEXNUMBER"), (22, "TELETEXTERMINALIDENTIFIER"), (23, "FACSIMILETELEPHONENUMBER"),
       (24, "X121ADDRESS"), (25, "INTERNATIONALISDNNUMBER"), (26, "REGISTEREDADDRESS"),
       (27, "DESTINATIONINDICATOR"), (28, "PREFERREDDELIVERYMETHOD"),
       (29, "PRESENTATIONADDRESS"), (30, "SUPPORTEDAPPLICATIONCONTEXT"), (31, "MEMBER"),
       (32, "OWNER"), (33, "ROLEOCCUPANT"), (34, "SEEALSO"), (35, "USERPASSWORD"),
       (36, "USERCERTIFICATE"), (37, "CACERTIFICATE"), (38, "AUTHORITYREVOCATIONLIST"),
       (39, "CERTIFICATEREVOCATIONLIST"), (40, "CROSSCERTIFICATEPAIR"), (41, "NAME"), (42, "GN"),
       (43, "INITIALS"), (44, "GENERATIONQUALIFIER"), (45, "X500UNIQUEIDENTIFIER"),
       (46, "DNQUALIFIER"), (47, "ENHANCEDSEARCHGUIDE"), (48, "PROTOCOLINFORMATION"),
       (49, "DISTINGUISHEDNAME"), (50, "UNIQUEMEMBER"), (51, "HOUSEIDENTIFIER"),
       (52, "SUPPORTEDALGORITHMS"), (53, "DELTAREVOCATIONLIST"), (54, "DMDNAME"),
       (55, "ID-AT-CLEARANCE"), (65, "PSEUDONYM"), (72, "ID-AT-ROLE")]),
    ([2, 5, 6],
      [(0, "TOP"), (1, "ALIAS"), (2, "COUNTRY"), (3, "LOCALITY"), (4, "ORGANIZATION"),
       (5, "ORGANIZATIONALUNIT"), (6, "PERSON"), (7, "ORGANIZATIONALPERSON"),
       (8, "ORGANIZATIONALROLE"), (9, "GROUPOFNAMES"), (10, "RESIDENTIALPERSON"),
       (11, "APPLICATIONPROCESS"), (12, "APPLICATIONENTITY"), (13, "DSA"), (14, "DEVICE"),
       (15, "STRONGAUTHENTICATIONUSER"), (16, "CERTIFICATIONAUTHORITY"),
       (17, "GROUPOFUNIQUENAMES"), (18, "USERSECURITYINFORMATION"), (19, "CRLDISTRIBUTIONPOINT"),
       (20, "DMD"), (21, "PKIUSER"), (22, "PKICA"), (23, "DELTACRL")]),
    ([0, 9, 2342, 19200300, 100, 1],
      [(1, "UID"), (2, "TEXTENCODEDORADDRESS"), (3, "MAIL"), (4, "INFO"), (5, "DRINK"),
       (6, "ROOMNUMBER"), (7, "PHOTO"), (8, "USERCLASS"), (9, "HOST"), (10, "MANAGER"),
       (11, "DOCUMENTIDENTIFIER"), (12, "DOCUMENTTITLE"), (13, "DOCUMENTVERSION"),
       (14, "DOCUMENTAUTHOR"), (15, "DOCUMENTLOCATION"), (20, "HOMEPHONE"), (21, "SECRETARY"),
       (22, "OTHERMAILBOX"), (23, "LASTMODIFIEDTIME"), (24, "LASTMODIFIEDBY"), (25, "DC"),
       (26, "ARECORD"), (27, "MDRECORD"), (28, "MXRECORD"), (29, "NSRECORD"), (30, "SOARECORD"),
       (31, "CNAMERECORD"), (37, "ASSOCIATEDDOMAIN"), (38, "ASSOCIATEDNAME"),
       (39, "HOMEPOSTALADDRESS"), (40, "PERSONALTITLE"), (41, "MOBILE"), (42, "PAGER"),
       (43, "CO"), (44, "UNIQUEIDENTIFIER"), (45, "ORGANIZATIONALSTATUS"), (46, "JANETMAILBOX"),
       (47, "MAILPREFERENCEOPTION"), (48, "BUILDINGNAME"), (49, "DSAQUALITY"),
       (50, "SINGLELEVELQUALITY"), (51, "SUBTREEMINIMUMQUALITY"), (52, "SUBTREEMAXIMUMQUALITY"),
       (53, "PERSONALSIGNATURE"), (54, "DITREDIRECT"), (55, "AUDIO"), (56, "DOCUMENTPUBLISHER"),
       (60, "JPEGPHOTO")]),
    ([2, 16, 840, 1, 113730, 3, 1],
      [(1, "CARLICENSE"), (2, "DEPARTMENTNUMBER"), (3, "EMPLOYEENUMBER"), (4, "EMPLOYEETYPE"),
       (39, "PREFERREDLANGUAGE"), (40, "USERSMIMECERTIFICATE"), (216, "USERPKCS12"),
       (241, "DISPLAYNAME")]),
    ([1, 3, 6, 1, 4, 1, 250, 1],
      [(57, "LABELEDURI")]),
    ([1, 2, 840, 113549, 1, 9],
      [(1, "EMAIL"), (3, "ID-CONTENTTYPE"), (4, "ID-MESSAGEDIGEST"), (5, "ID-SIGNINGTIME"),
       (6, "ID-COUNTERSIGNATURE")]),
    ([1, 2, 840, 113549, 1, 1],
      [(1, "RSAENCRYPTION")]) ]

def shortNameRows : List (Oid × String) :=
  shortNames.flatMap fun (arcs, members) =>
    members.map fun (arc, name) => (Oid.ofArcs (arcs ++ [arc]), name)

/-- Characters that are escaped wherever they stand. -/
def escapedMarks : List Char := ['"', '+', ',', ';', '<', '>', '\\']

/-- One character of a value, which may be its first or its last. -/
def escapeChar (first last : Bool) (c : Char) : List Char :=
  if (c = '#' && first) || (c = ' ' && (first || last)) || escapedMarks.contains c then ['\\', c]
  else if c.toNat < 0x20 ∨ c.toNat = 0x7F then
    ['\\', Hex.lowerDigit (c.toNat / 16), Hex.lowerDigit (c.toNat % 16)]
  else [c]

def escapeAfter (first : Bool) : List Char → List Char
  | [] => []
  | c :: rest => escapeChar first rest.isEmpty c ++ escapeAfter false rest

namespace Attribute

/-- The object identifier and the encoding of the value. -/
def encodedText (a : Attribute) : String :=
  a.type.text ++ "=#" ++ Hex.lower (Der.element a.tag a.value)

/-- The text of a value, or its encoding if it has no text. -/
def valueText (a : Attribute) : String :=
  a.string?.getD a.encodedText

def text (a : Attribute) : String :=
  match shortNameRows.lookup a.type, a.string? with
  | some name, some value => name ++ "=" ++ String.ofList (escapeAfter true value.toList)
  | _, _ => a.encodedText

end Attribute

def Rdn.text (rdn : Rdn) : String :=
  "+".intercalate (rdn.map Attribute.text)

def Name.text (name : Name) : String :=
  ",".intercalate (name.reverse.map Rdn.text)

end ChainTrust
