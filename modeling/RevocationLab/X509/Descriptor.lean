/-
**Descriptors of attributes.**

A kind of attribute has short names, by which it is written in a name.  A name is found in any letter
case, and a kind is written by the shortest of its names.

Main definitions:

* `X509.descriptors` — the names with their identifiers;
* `X509.kindOfName?` — the kind that a name stands for;
* `X509.nameOfKind?` — the shortest name of a kind.
-/

import RevocationLab.Der.ObjectId

set_option autoImplicit false

namespace RevocationLab

namespace X509

open Der

/-- Names of attributes and of the classes of objects that have them. -/
def descriptors : List (String × String) := [
  ("c", "2.5.4.6"), ("countryName", "2.5.4.6"),
  ("cn", "2.5.4.3"), ("commonName", "2.5.4.3"),
  ("o", "2.5.4.10"), ("organizationName", "2.5.4.10"),
  ("ou", "2.5.4.11"), ("organizationalUnitName", "2.5.4.11"),
  ("l", "2.5.4.7"), ("localityName", "2.5.4.7"),
  ("st", "2.5.4.8"), ("stateOrProvinceName", "2.5.4.8"),
  ("street", "2.5.4.9"), ("streetAddress", "2.5.4.9"),
  ("sn", "2.5.4.4"), ("surname", "2.5.4.4"),
  ("dc", "0.9.2342.19200300.100.1.25"), ("domainComponent", "0.9.2342.19200300.100.1.25"),
  ("uid", "0.9.2342.19200300.100.1.1"), ("userId", "0.9.2342.19200300.100.1.1"),
  ("email", "1.2.840.113549.1.9.1"), ("emailAddress", "1.2.840.113549.1.9.1"),
  ("mail", "0.9.2342.19200300.100.1.3"), ("rfc822Mailbox", "0.9.2342.19200300.100.1.3"),
  ("knowledgeInformation", "2.5.4.2"), ("serialNumber", "2.5.4.5"), ("title", "2.5.4.12"),
  ("description", "2.5.4.13"), ("searchGuide", "2.5.4.14"), ("businessCategory", "2.5.4.15"),
  ("postalAddress", "2.5.4.16"), ("postalCode", "2.5.4.17"), ("postOfficeBox", "2.5.4.18"),
  ("physicalDeliveryOfficeName", "2.5.4.19"), ("telephoneNumber", "2.5.4.20"),
  ("telexNumber", "2.5.4.21"), ("teletexTerminalIdentifier", "2.5.4.22"),
  ("facsimileTelephoneNumber", "2.5.4.23"), ("x121Address", "2.5.4.24"),
  ("internationalISDNNumber", "2.5.4.25"), ("registeredAddress", "2.5.4.26"),
  ("destinationIndicator", "2.5.4.27"), ("preferredDeliveryMethod", "2.5.4.28"),
  ("presentationAddress", "2.5.4.29"), ("supportedApplicationContext", "2.5.4.30"),
  ("member", "2.5.4.31"), ("owner", "2.5.4.32"), ("roleOccupant", "2.5.4.33"),
  ("seeAlso", "2.5.4.34"), ("userPassword", "2.5.4.35"), ("userCertificate", "2.5.4.36"),
  ("cACertificate", "2.5.4.37"), ("authorityRevocationList", "2.5.4.38"),
  ("certificateRevocationList", "2.5.4.39"), ("crossCertificatePair", "2.5.4.40"),
  ("name", "2.5.4.41"), ("givenName", "2.5.4.42"), ("initials", "2.5.4.43"),
  ("generationQualifier", "2.5.4.44"), ("x500UniqueIdentifier", "2.5.4.45"),
  ("dnQualifier", "2.5.4.46"), ("enhancedSearchGuide", "2.5.4.47"),
  ("distinguishedName", "2.5.4.49"), ("uniqueMember", "2.5.4.50"),
  ("houseIdentifier", "2.5.4.51"), ("supportedAlgorithms", "2.5.4.52"),
  ("deltaRevocationList", "2.5.4.53"), ("pseudonym", "2.5.4.65"),
  ("country", "2.5.6.2"), ("locality", "2.5.6.3"), ("organization", "2.5.6.4"),
  ("organizationalUnit", "2.5.6.5"), ("person", "2.5.6.6"), ("organizationalPerson", "2.5.6.7"),
  ("organizationalRole", "2.5.6.8"), ("groupOfNames", "2.5.6.9"),
  ("residentialPerson", "2.5.6.10"), ("applicationProcess", "2.5.6.11"), ("device", "2.5.6.14"),
  ("groupOfUniqueNames", "2.5.6.17"), ("dcObject", "1.3.6.1.4.1.1466.344"),
  ("uidObject", "1.3.6.1.1.3.1"),
  ("info", "0.9.2342.19200300.100.1.4"), ("drink", "0.9.2342.19200300.100.1.5"),
  ("roomNumber", "0.9.2342.19200300.100.1.6"), ("userClass", "0.9.2342.19200300.100.1.8"),
  ("host", "0.9.2342.19200300.100.1.9"), ("manager", "0.9.2342.19200300.100.1.10"),
  ("documentIdentifier", "0.9.2342.19200300.100.1.11"),
  ("documentTitle", "0.9.2342.19200300.100.1.12"),
  ("documentVersion", "0.9.2342.19200300.100.1.13"),
  ("documentAuthor", "0.9.2342.19200300.100.1.14"),
  ("documentLocation", "0.9.2342.19200300.100.1.15"),
  ("homePhone", "0.9.2342.19200300.100.1.20"), ("secretary", "0.9.2342.19200300.100.1.21"),
  ("associatedDomain", "0.9.2342.19200300.100.1.37"),
  ("associatedName", "0.9.2342.19200300.100.1.38"),
  ("homePostalAddress", "0.9.2342.19200300.100.1.39"),
  ("personalTitle", "0.9.2342.19200300.100.1.40"),
  ("mobile", "0.9.2342.19200300.100.1.41"), ("pager", "0.9.2342.19200300.100.1.42"),
  ("co", "0.9.2342.19200300.100.1.43"),
  ("uniqueIdentifier", "0.9.2342.19200300.100.1.44"),
  ("organizationalStatus", "0.9.2342.19200300.100.1.45"),
  ("buildingName", "0.9.2342.19200300.100.1.48"),
  ("documentPublisher", "0.9.2342.19200300.100.1.56")]

/-- The kind of the attribute that a name, in any letter case, stands for. -/
def kindOfName? (name : List Char) : Option ObjectId := do
  let (_, kind) ← descriptors.find? fun d => Ascii.eqIgnoreCase d.1.toList name
  ObjectId.ofText? kind

/-- The shortest name of a kind; of two of one length the first. -/
def nameOfKind? (kind : ObjectId) : Option String :=
  let names := (descriptors.filter fun d => d.2 == kind.toText).map Prod.fst
  names.foldl
    (fun best name =>
      match best with
      | some b => if name.length < b.length then some name else best
      | none => some name)
    none

/-- The kind of a common name. -/
def commonName : ObjectId := ⟨[0x55, 0x04, 0x03]⟩

/-- The kind of a country. -/
def country : ObjectId := ⟨[0x55, 0x04, 0x06]⟩

/-- The kind of the serial number of a device. -/
def deviceSerial : ObjectId := ⟨[0x55, 0x04, 0x05]⟩

/-- The kind of a part of a domain. -/
def domainPart : ObjectId :=
  ⟨[0x09, 0x92, 0x26, 0x89, 0x93, 0xf2, 0x2c, 0x64, 0x01, 0x19]⟩

end X509

end RevocationLab
