import SecureStream.Asn1.Octets

/-!
# Short names of object identifiers

The names that the TLS library knows object identifiers by. Identifiers are a tree, of which each
table has the branches of one authority: a path, and the names of the steps from there.

* `shortNames`: path and short name;
* `Oid.shortName?`, `Oid.shortName`: the short name of an identifier, with a stand-in for those
  that have none;
* `Oid.known`: what the library calls an identifier.
-/

namespace SecureStream.Asn1

/-- Directory services. -/
def directoryNames : List (List Nat × List (Nat × String)) :=
  [([2, 5], [(4, "X509"), (8, "X500algorithms"), (29, "id-ce")]),
    ([2, 5, 1], [(5, "selected-attribute-types")]),
    ([2, 5, 1, 5], [(55, "clearance")]),
    ([2, 5, 4], [(3, "CN"), (4, "SN"), (5, "serialNumber"), (6, "C"), (7, "L"), (8, "ST"),
      (9, "street"), (10, "O"), (11, "OU"), (12, "title"), (13, "description"), (14, "searchGuide"),
      (15, "businessCategory"), (16, "postalAddress"), (17, "postalCode"), (18, "postOfficeBox"),
      (19, "physicalDeliveryOfficeName"), (20, "telephoneNumber"), (21, "telexNumber"),
      (22, "teletexTerminalIdentifier"), (23, "facsimileTelephoneNumber"), (24, "x121Address"),
      (25, "internationaliSDNNumber"), (26, "registeredAddress"), (27, "destinationIndicator"),
      (28, "preferredDeliveryMethod"), (29, "presentationAddress"),
      (30, "supportedApplicationContext"), (31, "member"), (32, "owner"), (33, "roleOccupant"),
      (34, "seeAlso"), (35, "userPassword"), (36, "userCertificate"), (37, "cACertificate"),
      (38, "authorityRevocationList"), (39, "certificateRevocationList"),
      (40, "crossCertificatePair"), (41, "name"), (42, "GN"), (43, "initials"),
      (44, "generationQualifier"), (45, "x500UniqueIdentifier"), (46, "dnQualifier"),
      (47, "enhancedSearchGuide"), (48, "protocolInformation"), (49, "distinguishedName"),
      (50, "uniqueMember"), (51, "houseIdentifier"), (52, "supportedAlgorithms"),
      (53, "deltaRevocationList"), (54, "dmdName"), (65, "pseudonym"), (72, "role"),
      (97, "organizationIdentifier"), (98, "c3"), (99, "n3"), (100, "dnsName")]),
    ([2, 5, 8, 1], [(1, "RSA")]),
    ([2, 5, 8, 3], [(100, "RSA-MDC2"), (101, "MDC2")]),
    ([2, 5, 29], [(9, "subjectDirectoryAttributes"), (14, "subjectKeyIdentifier"), (15, "keyUsage"),
      (16, "privateKeyUsagePeriod"), (17, "subjectAltName"), (18, "issuerAltName"),
      (19, "basicConstraints"), (20, "crlNumber"), (21, "CRLReason"), (23, "holdInstructionCode"),
      (24, "invalidityDate"), (27, "deltaCRL"), (28, "issuingDistributionPoint"),
      (29, "certificateIssuer"), (30, "nameConstraints"), (31, "crlDistributionPoints"),
      (32, "certificatePolicies"), (33, "policyMappings"), (35, "authorityKeyIdentifier"),
      (36, "policyConstraints"), (37, "extendedKeyUsage"), (46, "freshestCRL"),
      (54, "inhibitAnyPolicy"), (55, "targetInformation"), (56, "noRevAvail")]),
    ([2, 5, 29, 32], [(0, "anyPolicy")]),
    ([2, 5, 29, 37], [(0, "anyExtendedKeyUsage")])]

/-- The standardization of telecommunication, with the pilot directory. -/
def telecomNames : List (List Nat × List (Nat × String)) :=
  [([0], [(9, "data")]),
    ([0, 3, 4401, 5, 3, 1, 9], [(1, "CAMELLIA-128-ECB"), (3, "CAMELLIA-128-OFB"),
      (4, "CAMELLIA-128-CFB"), (6, "CAMELLIA-128-GCM"), (7, "CAMELLIA-128-CCM"),
      (9, "CAMELLIA-128-CTR"), (10, "CAMELLIA-128-CMAC"), (21, "CAMELLIA-192-ECB"),
      (23, "CAMELLIA-192-OFB"), (24, "CAMELLIA-192-CFB"), (26, "CAMELLIA-192-GCM"),
      (27, "CAMELLIA-192-CCM"), (29, "CAMELLIA-192-CTR"), (30, "CAMELLIA-192-CMAC"),
      (41, "CAMELLIA-256-ECB"), (43, "CAMELLIA-256-OFB"), (44, "CAMELLIA-256-CFB"),
      (46, "CAMELLIA-256-GCM"), (47, "CAMELLIA-256-CCM"), (49, "CAMELLIA-256-CTR"),
      (50, "CAMELLIA-256-CMAC")]),
    ([0, 9], [(2342, "pss")]),
    ([0, 9, 2342], [(19200300, "ucl")]),
    ([0, 9, 2342, 19200300], [(100, "pilot")]),
    ([0, 9, 2342, 19200300, 100], [(1, "pilotAttributeType"), (3, "pilotAttributeSyntax"),
      (4, "pilotObjectClass"), (10, "pilotGroups")]),
    ([0, 9, 2342, 19200300, 100, 1], [(1, "UID"), (2, "textEncodedORAddress"), (3, "mail"),
      (4, "info"), (5, "favouriteDrink"), (6, "roomNumber"), (7, "photo"), (8, "userClass"),
      (9, "host"), (10, "manager"), (11, "documentIdentifier"), (12, "documentTitle"),
      (13, "documentVersion"), (14, "documentAuthor"), (15, "documentLocation"),
      (20, "homeTelephoneNumber"), (21, "secretary"), (22, "otherMailbox"),
      (23, "lastModifiedTime"), (24, "lastModifiedBy"), (25, "DC"), (26, "aRecord"),
      (27, "pilotAttributeType27"), (28, "mXRecord"), (29, "nSRecord"), (30, "sOARecord"),
      (31, "cNAMERecord"), (37, "associatedDomain"), (38, "associatedName"),
      (39, "homePostalAddress"), (40, "personalTitle"), (41, "mobileTelephoneNumber"),
      (42, "pagerTelephoneNumber"), (43, "friendlyCountryName"), (44, "uid"),
      (45, "organizationalStatus"), (46, "janetMailbox"), (47, "mailPreferenceOption"),
      (48, "buildingName"), (49, "dSAQuality"), (50, "singleLevelQuality"),
      (51, "subtreeMinimumQuality"), (52, "subtreeMaximumQuality"), (53, "personalSignature"),
      (54, "dITRedirect"), (55, "audio"), (56, "documentPublisher")]),
    ([0, 9, 2342, 19200300, 100, 3], [(4, "iA5StringSyntax"), (5, "caseIgnoreIA5StringSyntax")]),
    ([0, 9, 2342, 19200300, 100, 4], [(3, "pilotObject"), (4, "pilotPerson"), (5, "account"),
      (6, "document"), (7, "room"), (9, "documentSeries"), (13, "domain"), (14, "rFC822localPart"),
      (15, "dNSDomain"), (17, "domainRelatedObject"), (18, "friendlyCountry"),
      (19, "simpleSecurityObject"), (20, "pilotOrganization"), (21, "pilotDSA"),
      (22, "qualityLabelledData")])]

/-- RSA Data Security. -/
def rsaNames : List (List Nat × List (Nat × String)) :=
  [([1, 2, 840, 113549], [(1, "pkcs")]),
    ([1, 2, 840, 113549, 1], [(1, "pkcs1"), (3, "pkcs3"), (5, "pkcs5"), (7, "pkcs7"),
      (9, "pkcs9")]),
    ([1, 2, 840, 113549, 1, 1], [(1, "rsaEncryption"), (2, "RSA-MD2"), (3, "RSA-MD4"),
      (4, "RSA-MD5"), (5, "RSA-SHA1"), (6, "rsaOAEPEncryptionSET"), (7, "RSAES-OAEP"), (8, "MGF1"),
      (9, "PSPECIFIED"), (10, "RSASSA-PSS"), (11, "RSA-SHA256"), (12, "RSA-SHA384"),
      (13, "RSA-SHA512"), (14, "RSA-SHA224"), (15, "RSA-SHA512/224"), (16, "RSA-SHA512/256")]),
    ([1, 2, 840, 113549, 1, 3], [(1, "dhKeyAgreement")]),
    ([1, 2, 840, 113549, 1, 5], [(1, "PBE-MD2-DES"), (3, "PBE-MD5-DES"), (4, "PBE-MD2-RC2-64"),
      (6, "PBE-MD5-RC2-64"), (10, "PBE-SHA1-DES"), (11, "PBE-SHA1-RC2-64"), (12, "PBKDF2"),
      (13, "PBES2"), (14, "PBMAC1")]),
    ([1, 2, 840, 113549, 1, 7], [(1, "pkcs7-data"), (2, "pkcs7-signedData"),
      (3, "pkcs7-envelopedData"), (4, "pkcs7-signedAndEnvelopedData"), (5, "pkcs7-digestData"),
      (6, "pkcs7-encryptedData")]),
    ([1, 2, 840, 113549, 1, 9], [(1, "emailAddress"), (2, "unstructuredName"), (3, "contentType"),
      (4, "messageDigest"), (5, "signingTime"), (6, "countersignature"), (7, "challengePassword"),
      (8, "unstructuredAddress"), (9, "extendedCertificateAttributes"), (14, "extReq"),
      (15, "SMIME-CAPS"), (16, "SMIME"), (20, "friendlyName"), (21, "localKeyID")]),
    ([1, 2, 840, 113549, 1, 9, 16], [(0, "id-smime-mod"), (1, "id-smime-ct"), (2, "id-smime-aa"),
      (3, "id-smime-alg"), (4, "id-smime-cd"), (5, "id-smime-spq"), (6, "id-smime-cti")]),
    ([1, 2, 840, 113549, 1, 9, 16, 0], [(1, "id-smime-mod-cms"), (2, "id-smime-mod-ess"),
      (3, "id-smime-mod-oid"), (4, "id-smime-mod-msg-v3"), (5, "id-smime-mod-ets-eSignature-88"),
      (6, "id-smime-mod-ets-eSignature-97"), (7, "id-smime-mod-ets-eSigPolicy-88"),
      (8, "id-smime-mod-ets-eSigPolicy-97")]),
    ([1, 2, 840, 113549, 1, 9, 16, 1], [(1, "id-smime-ct-receipt"), (2, "id-smime-ct-authData"),
      (3, "id-smime-ct-publishCert"), (4, "id-smime-ct-TSTInfo"), (5, "id-smime-ct-TDTInfo"),
      (6, "id-smime-ct-contentInfo"), (7, "id-smime-ct-DVCSRequestData"),
      (8, "id-smime-ct-DVCSResponseData"), (9, "id-smime-ct-compressedData"),
      (19, "id-smime-ct-contentCollection"), (23, "id-smime-ct-authEnvelopedData"),
      (24, "id-ct-routeOriginAuthz"), (26, "id-ct-rpkiManifest"), (27, "id-ct-asciiTextWithCRLF"),
      (28, "id-ct-xml"), (35, "id-ct-rpkiGhostbusters"), (36, "id-ct-resourceTaggedAttest"),
      (47, "id-ct-geofeedCSVwithCRLF"), (48, "id-ct-signedChecklist")]),
    ([1, 2, 840, 113549, 1, 9, 16, 2], [(1, "id-smime-aa-receiptRequest"),
      (2, "id-smime-aa-securityLabel"), (3, "id-smime-aa-mlExpandHistory"),
      (4, "id-smime-aa-contentHint"), (5, "id-smime-aa-msgSigDigest"),
      (6, "id-smime-aa-encapContentType"), (7, "id-smime-aa-contentIdentifier"),
      (8, "id-smime-aa-macValue"), (9, "id-smime-aa-equivalentLabels"),
      (10, "id-smime-aa-contentReference"), (11, "id-smime-aa-encrypKeyPref"),
      (12, "id-smime-aa-signingCertificate"), (13, "id-smime-aa-smimeEncryptCerts"),
      (14, "id-smime-aa-timeStampToken"), (15, "id-smime-aa-ets-sigPolicyId"),
      (16, "id-smime-aa-ets-commitmentType"), (17, "id-smime-aa-ets-signerLocation"),
      (18, "id-smime-aa-ets-signerAttr"), (19, "id-smime-aa-ets-otherSigCert"),
      (20, "id-smime-aa-ets-contentTimestamp"), (21, "id-smime-aa-ets-CertificateRefs"),
      (22, "id-smime-aa-ets-RevocationRefs"), (23, "id-smime-aa-ets-certValues"),
      (24, "id-smime-aa-ets-revocationValues"), (25, "id-smime-aa-ets-escTimeStamp"),
      (26, "id-smime-aa-ets-certCRLTimestamp"), (27, "id-smime-aa-ets-archiveTimeStamp"),
      (28, "id-smime-aa-signatureType"), (29, "id-smime-aa-dvcs-dvc"),
      (47, "id-smime-aa-signingCertificateV2")]),
    ([1, 2, 840, 113549, 1, 9, 16, 3], [(1, "id-smime-alg-ESDHwith3DES"),
      (2, "id-smime-alg-ESDHwithRC2"), (3, "id-smime-alg-3DESwrap"), (4, "id-smime-alg-RC2wrap"),
      (5, "id-smime-alg-ESDH"), (6, "id-smime-alg-CMS3DESwrap"), (7, "id-smime-alg-CMSRC2wrap"),
      (8, "ZLIB"), (9, "id-alg-PWRI-KEK")]),
    ([1, 2, 840, 113549, 1, 9, 16, 4], [(1, "id-smime-cd-ldap")]),
    ([1, 2, 840, 113549, 1, 9, 16, 5], [(1, "id-smime-spq-ets-sqt-uri"),
      (2, "id-smime-spq-ets-sqt-unotice")]),
    ([1, 2, 840, 113549, 1, 9, 16, 6], [(1, "id-smime-cti-ets-proofOfOrigin"),
      (2, "id-smime-cti-ets-proofOfReceipt"), (3, "id-smime-cti-ets-proofOfDelivery"),
      (4, "id-smime-cti-ets-proofOfSender"), (5, "id-smime-cti-ets-proofOfApproval"),
      (6, "id-smime-cti-ets-proofOfCreation")]),
    ([1, 2, 840, 113549, 1, 9, 22], [(1, "x509Certificate"), (2, "sdsiCertificate")]),
    ([1, 2, 840, 113549, 1, 9, 23], [(1, "x509Crl")]),
    ([1, 2, 840, 113549, 1, 12, 1], [(1, "PBE-SHA1-RC4-128"), (2, "PBE-SHA1-RC4-40"),
      (3, "PBE-SHA1-3DES"), (4, "PBE-SHA1-2DES"), (5, "PBE-SHA1-RC2-128"), (6, "PBE-SHA1-RC2-40")]),
    ([1, 2, 840, 113549, 1, 12, 10, 1], [(1, "keyBag"), (2, "pkcs8ShroudedKeyBag"), (3, "certBag"),
      (4, "crlBag"), (5, "secretBag"), (6, "safeContentsBag")]),
    ([1, 2, 840, 113549, 2], [(2, "MD2"), (4, "MD4"), (5, "MD5"), (6, "hmacWithMD5"),
      (7, "hmacWithSHA1"), (8, "hmacWithSHA224"), (9, "hmacWithSHA256"), (10, "hmacWithSHA384"),
      (11, "hmacWithSHA512"), (12, "hmacWithSHA512-224"), (13, "hmacWithSHA512-256")]),
    ([1, 2, 840, 113549, 3], [(2, "RC2-CBC"), (4, "RC4"), (7, "DES-EDE3-CBC"), (8, "RC5-CBC"),
      (10, "DES-CDMF")])]

/-- The internet. -/
def internetNames : List (List Nat × List (Nat × String)) :=
  [([1, 3, 6, 1], [(1, "directory"), (2, "mgmt"), (3, "experimental"), (4, "private"),
      (5, "security"), (6, "snmpv2"), (7, "Mail")]),
    ([1, 3, 6, 1, 4], [(1, "enterprises")]),
    ([1, 3, 6, 1, 4, 1, 188, 7, 1, 1], [(2, "IDEA-CBC")]),
    ([1, 3, 6, 1, 4, 1, 311, 2, 1], [(14, "msExtReq"), (21, "msCodeInd"), (22, "msCodeCom")]),
    ([1, 3, 6, 1, 4, 1, 311, 10, 3], [(1, "msCTLSign"), (3, "msSGC"), (4, "msEFS")]),
    ([1, 3, 6, 1, 4, 1, 311, 17], [(1, "CSPName"), (2, "LocalKeySet")]),
    ([1, 3, 6, 1, 4, 1, 311, 20, 2], [(2, "msSmartcardLogin"), (3, "msUPN")]),
    ([1, 3, 6, 1, 4, 1, 311, 60, 2, 1], [(1, "jurisdictionL"), (2, "jurisdictionST"),
      (3, "jurisdictionC")]),
    ([1, 3, 6, 1, 4, 1, 1466], [(344, "dcobject")]),
    ([1, 3, 6, 1, 4, 1, 1722, 12, 2], [(1, "BLAKE2BMAC"), (2, "BLAKE2SMAC")]),
    ([1, 3, 6, 1, 4, 1, 1722, 12, 2, 1], [(16, "BLAKE2b512")]),
    ([1, 3, 6, 1, 4, 1, 1722, 12, 2, 2], [(8, "BLAKE2s256")]),
    ([1, 3, 6, 1, 4, 1, 3029, 1], [(2, "BF-CBC")]),
    ([1, 3, 6, 1, 4, 1, 11129, 2, 4], [(2, "ct_precert_scts"), (3, "ct_precert_poison"),
      (4, "ct_precert_signer"), (5, "ct_cert_scts")]),
    ([1, 3, 6, 1, 4, 1, 11591, 4], [(11, "id-scrypt")]),
    ([1, 3, 6, 1, 5, 2], [(3, "id-pkinit")]),
    ([1, 3, 6, 1, 5, 2, 3], [(4, "pkInitClientAuth"), (5, "pkInitKDC")]),
    ([1, 3, 6, 1, 5, 5], [(7, "PKIX")]),
    ([1, 3, 6, 1, 5, 5, 7], [(0, "id-pkix-mod"), (1, "id-pe"), (2, "id-qt"), (3, "id-kp"),
      (4, "id-it"), (5, "id-pkip"), (6, "id-alg"), (7, "id-cmc"), (8, "id-on"), (9, "id-pda"),
      (10, "id-aca"), (11, "id-qcs"), (12, "id-cct"), (14, "id-cp"), (21, "id-ppl"),
      (48, "id-ad")]),
    ([1, 3, 6, 1, 5, 5, 7, 0], [(1, "id-pkix1-explicit-88"), (2, "id-pkix1-implicit-88"),
      (3, "id-pkix1-explicit-93"), (4, "id-pkix1-implicit-93"), (5, "id-mod-crmf"),
      (6, "id-mod-cmc"), (7, "id-mod-kea-profile-88"), (8, "id-mod-kea-profile-93"),
      (9, "id-mod-cmp"), (10, "id-mod-qualified-cert-88"), (11, "id-mod-qualified-cert-93"),
      (12, "id-mod-attribute-cert"), (13, "id-mod-timestamp-protocol"), (14, "id-mod-ocsp"),
      (15, "id-mod-dvcs"), (16, "id-mod-cmp2000")]),
    ([1, 3, 6, 1, 5, 5, 7, 1], [(1, "authorityInfoAccess"), (2, "biometricInfo"),
      (3, "qcStatements"), (4, "ac-auditEntity"), (5, "ac-targeting"), (6, "aaControls"),
      (7, "sbgp-ipAddrBlock"), (8, "sbgp-autonomousSysNum"), (9, "sbgp-routerIdentifier"),
      (10, "ac-proxying"), (11, "subjectInfoAccess"), (14, "proxyCertInfo"), (24, "tlsfeature"),
      (28, "sbgp-ipAddrBlockv2"), (29, "sbgp-autonomousSysNumv2")]),
    ([1, 3, 6, 1, 5, 5, 7, 2], [(1, "id-qt-cps"), (2, "id-qt-unotice"), (3, "textNotice")]),
    ([1, 3, 6, 1, 5, 5, 7, 3], [(1, "serverAuth"), (2, "clientAuth"), (3, "codeSigning"),
      (4, "emailProtection"), (5, "ipsecEndSystem"), (6, "ipsecTunnel"), (7, "ipsecUser"),
      (8, "timeStamping"), (9, "OCSPSigning"), (10, "DVCS"), (17, "ipsecIKE"), (18, "capwapAC"),
      (19, "capwapWTP"), (21, "secureShellClient"), (22, "secureShellServer"), (23, "sendRouter"),
      (24, "sendProxiedRouter"), (25, "sendOwner"), (26, "sendProxiedOwner"), (27, "cmcCA"),
      (28, "cmcRA"), (29, "cmcArchive"), (30, "id-kp-bgpsec-router"),
      (31, "id-kp-BrandIndicatorforMessageIdentification"), (32, "cmKGA")]),
    ([1, 3, 6, 1, 5, 5, 7, 4], [(1, "id-it-caProtEncCert"), (2, "id-it-signKeyPairTypes"),
      (3, "id-it-encKeyPairTypes"), (4, "id-it-preferredSymmAlg"), (5, "id-it-caKeyUpdateInfo"),
      (6, "id-it-currentCRL"), (7, "id-it-unsupportedOIDs"), (8, "id-it-subscriptionRequest"),
      (9, "id-it-subscriptionResponse"), (10, "id-it-keyPairParamReq"),
      (11, "id-it-keyPairParamRep"), (12, "id-it-revPassphrase"), (13, "id-it-implicitConfirm"),
      (14, "id-it-confirmWaitTime"), (15, "id-it-origPKIMessage"), (16, "id-it-suppLangTags"),
      (17, "id-it-caCerts"), (18, "id-it-rootCaKeyUpdate"), (19, "id-it-certReqTemplate")]),
    ([1, 3, 6, 1, 5, 5, 7, 5], [(1, "id-regCtrl"), (2, "id-regInfo")]),
    ([1, 3, 6, 1, 5, 5, 7, 5, 1], [(1, "id-regCtrl-regToken"), (2, "id-regCtrl-authenticator"),
      (3, "id-regCtrl-pkiPublicationInfo"), (4, "id-regCtrl-pkiArchiveOptions"),
      (5, "id-regCtrl-oldCertID"), (6, "id-regCtrl-protocolEncrKey")]),
    ([1, 3, 6, 1, 5, 5, 7, 5, 2], [(1, "id-regInfo-utf8Pairs"), (2, "id-regInfo-certReq")]),
    ([1, 3, 6, 1, 5, 5, 7, 6], [(1, "id-alg-des40"), (2, "id-alg-noSignature"),
      (3, "id-alg-dh-sig-hmac-sha1"), (4, "id-alg-dh-pop")]),
    ([1, 3, 6, 1, 5, 5, 7, 7], [(1, "id-cmc-statusInfo"), (2, "id-cmc-identification"),
      (3, "id-cmc-identityProof"), (4, "id-cmc-dataReturn"), (5, "id-cmc-transactionId"),
      (6, "id-cmc-senderNonce"), (7, "id-cmc-recipientNonce"), (8, "id-cmc-addExtensions"),
      (9, "id-cmc-encryptedPOP"), (10, "id-cmc-decryptedPOP"), (11, "id-cmc-lraPOPWitness"),
      (15, "id-cmc-getCert"), (16, "id-cmc-getCRL"), (17, "id-cmc-revokeRequest"),
      (18, "id-cmc-regInfo"), (19, "id-cmc-responseInfo"), (21, "id-cmc-queryPending"),
      (22, "id-cmc-popLinkRandom"), (23, "id-cmc-popLinkWitness"),
      (24, "id-cmc-confirmCertAcceptance")]),
    ([1, 3, 6, 1, 5, 5, 7, 8], [(1, "id-on-personalData"), (3, "id-on-permanentIdentifier"),
      (5, "id-on-xmppAddr"), (7, "id-on-dnsSRV"), (8, "id-on-NAIRealm"),
      (9, "id-on-SmtpUTF8Mailbox")]),
    ([1, 3, 6, 1, 5, 5, 7, 9], [(1, "id-pda-dateOfBirth"), (2, "id-pda-placeOfBirth"),
      (3, "id-pda-gender"), (4, "id-pda-countryOfCitizenship"), (5, "id-pda-countryOfResidence")]),
    ([1, 3, 6, 1, 5, 5, 7, 10], [(1, "id-aca-authenticationInfo"), (2, "id-aca-accessIdentity"),
      (3, "id-aca-chargingIdentity"), (4, "id-aca-group"), (5, "id-aca-role"),
      (6, "id-aca-encAttrs")]),
    ([1, 3, 6, 1, 5, 5, 7, 11], [(1, "id-qcs-pkixQCSyntax-v1")]),
    ([1, 3, 6, 1, 5, 5, 7, 12], [(1, "id-cct-crs"), (2, "id-cct-PKIData"),
      (3, "id-cct-PKIResponse")]),
    ([1, 3, 6, 1, 5, 5, 7, 14], [(2, "ipAddr-asNumber"), (3, "ipAddr-asNumberv2")]),
    ([1, 3, 6, 1, 5, 5, 7, 21], [(0, "id-ppl-anyLanguage"), (1, "id-ppl-inheritAll"),
      (2, "id-ppl-independent")]),
    ([1, 3, 6, 1, 5, 5, 7, 48], [(1, "OCSP"), (2, "caIssuers"), (3, "ad_timestamping"),
      (4, "AD_DVCS"), (5, "caRepository"), (10, "rpkiManifest"), (11, "signedObject"),
      (13, "rpkiNotify")]),
    ([1, 3, 6, 1, 5, 5, 7, 48, 1], [(1, "basicOCSPResponse"), (2, "Nonce"), (3, "CrlID"),
      (4, "acceptableResponses"), (5, "noCheck"), (6, "archiveCutoff"), (7, "serviceLocator"),
      (8, "extendedStatus"), (9, "valid"), (10, "path"), (11, "trustRoot")]),
    ([1, 3, 6, 1, 5, 5, 8, 1], [(1, "HMAC-MD5"), (2, "HMAC-SHA1")]),
    ([1, 3, 6, 1, 7], [(1, "mime-mhs")]),
    ([1, 3, 6, 1, 7, 1], [(1, "mime-mhs-headings"), (2, "mime-mhs-bodies")]),
    ([1, 3, 6, 1, 7, 1, 1], [(1, "id-hex-partial-message"), (2, "id-hex-multipart-message")])]

/-- Identified organizations. -/
def organizationNames : List (List Nat × List (Nat × String)) :=
  [([1, 3], [(6, "DOD"), (111, "ieee"), (132, "certicom-arc")]),
    ([1, 3, 6], [(1, "IANA")]),
    ([1, 3, 14, 3], [(2, "algorithm")]),
    ([1, 3, 14, 3, 2], [(3, "RSA-NP-MD5"), (6, "DES-ECB"), (7, "DES-CBC"), (8, "DES-OFB"),
      (9, "DES-CFB"), (11, "rsaSignature"), (12, "DSA-old"), (13, "DSA-SHA"), (15, "RSA-SHA"),
      (17, "DES-EDE"), (18, "SHA"), (26, "SHA1"), (27, "DSA-SHA1-old"), (29, "RSA-SHA1-2")]),
    ([1, 3, 36, 3, 2], [(1, "RIPEMD160")]),
    ([1, 3, 36, 3, 3, 1], [(2, "RSA-RIPEMD160")]),
    ([1, 3, 36, 3, 3, 2, 8, 1, 1], [(1, "brainpoolP160r1"), (2, "brainpoolP160t1"),
      (3, "brainpoolP192r1"), (4, "brainpoolP192t1"), (5, "brainpoolP224r1"),
      (6, "brainpoolP224t1"), (7, "brainpoolP256r1"), (8, "brainpoolP256t1"),
      (9, "brainpoolP320r1"), (10, "brainpoolP320t1"), (11, "brainpoolP384r1"),
      (12, "brainpoolP384t1"), (13, "brainpoolP512r1"), (14, "brainpoolP512t1")]),
    ([1, 3, 36, 8, 3], [(3, "x509ExtAdmission")]),
    ([1, 3, 101], [(110, "X25519"), (111, "X448"), (112, "ED25519"), (113, "ED448")]),
    ([1, 3, 101, 1, 4], [(1, "SXNetID")]),
    ([1, 3, 111, 2], [(1619, "ieee-siswg")]),
    ([1, 3, 111, 2, 1619, 0, 1], [(1, "AES-128-XTS"), (2, "AES-256-XTS")]),
    ([1, 3, 132, 0], [(1, "sect163k1"), (2, "sect163r1"), (3, "sect239k1"), (4, "sect113r1"),
      (5, "sect113r2"), (6, "secp112r1"), (7, "secp112r2"), (8, "secp160r1"), (9, "secp160k1"),
      (10, "secp256k1"), (15, "sect163r2"), (16, "sect283k1"), (17, "sect283r1"), (22, "sect131r1"),
      (23, "sect131r2"), (24, "sect193r1"), (25, "sect193r2"), (26, "sect233k1"), (27, "sect233r1"),
      (28, "secp128r1"), (29, "secp128r2"), (30, "secp160r2"), (31, "secp192k1"), (32, "secp224k1"),
      (33, "secp224r1"), (34, "secp384r1"), (35, "secp521r1"), (36, "sect409k1"), (37, "sect409r1"),
      (38, "sect571k1"), (39, "sect571r1")]),
    ([1, 3, 132, 1, 11], [(0, "dhSinglePass-stdDH-sha224kdf-scheme"),
      (1, "dhSinglePass-stdDH-sha256kdf-scheme"), (2, "dhSinglePass-stdDH-sha384kdf-scheme"),
      (3, "dhSinglePass-stdDH-sha512kdf-scheme")]),
    ([1, 3, 132, 1, 14], [(0, "dhSinglePass-cofactorDH-sha224kdf-scheme"),
      (1, "dhSinglePass-cofactorDH-sha256kdf-scheme"),
      (2, "dhSinglePass-cofactorDH-sha384kdf-scheme"),
      (3, "dhSinglePass-cofactorDH-sha512kdf-scheme")]),
    ([1, 3, 133, 16, 840, 63, 0], [(2, "dhSinglePass-stdDH-sha1kdf-scheme"),
      (3, "dhSinglePass-cofactorDH-sha1kdf-scheme")])]

/-- International standards and member bodies. -/
def standardNames : List (List Nat × List (Nat × String)) :=
  [([1], [(2, "member-body"), (3, "ORG")]),
    ([1, 0, 9797, 3], [(4, "GMAC")]),
    ([1, 0, 10118, 3, 0], [(55, "whirlpool")]),
    ([1, 2], [(156, "ISO-CN"), (804, "ISO-UA"), (840, "ISO-US")]),
    ([1, 2, 156], [(10197, "oscca")]),
    ([1, 2, 156, 10197], [(1, "sm-scheme")]),
    ([1, 2, 156, 10197, 1], [(301, "SM2"), (401, "SM3"), (501, "SM2-SM3"), (504, "RSA-SM3")]),
    ([1, 2, 156, 10197, 1, 104], [(1, "SM4-ECB"), (2, "SM4-CBC"), (3, "SM4-OFB"), (4, "SM4-CFB"),
      (5, "SM4-CFB1"), (6, "SM4-CFB8"), (7, "SM4-CTR")]),
    ([1, 2, 392, 200011, 61, 1, 1, 1], [(2, "CAMELLIA-128-CBC"), (3, "CAMELLIA-192-CBC"),
      (4, "CAMELLIA-256-CBC")]),
    ([1, 2, 392, 200011, 61, 1, 1, 3], [(2, "id-camellia128-wrap"), (3, "id-camellia192-wrap"),
      (4, "id-camellia256-wrap")]),
    ([1, 2, 410], [(200004, "KISA")]),
    ([1, 2, 410, 200004, 1], [(3, "SEED-ECB"), (4, "SEED-CBC"), (5, "SEED-CFB"), (6, "SEED-OFB")]),
    ([1, 2, 410, 200046, 1, 1], [(1, "ARIA-128-ECB"), (2, "ARIA-128-CBC"), (3, "ARIA-128-CFB"),
      (4, "ARIA-128-OFB"), (5, "ARIA-128-CTR"), (6, "ARIA-192-ECB"), (7, "ARIA-192-CBC"),
      (8, "ARIA-192-CFB"), (9, "ARIA-192-OFB"), (10, "ARIA-192-CTR"), (11, "ARIA-256-ECB"),
      (12, "ARIA-256-CBC"), (13, "ARIA-256-CFB"), (14, "ARIA-256-OFB"), (15, "ARIA-256-CTR"),
      (34, "ARIA-128-GCM"), (35, "ARIA-192-GCM"), (36, "ARIA-256-GCM"), (37, "ARIA-128-CCM"),
      (38, "ARIA-192-CCM"), (39, "ARIA-256-CCM")]),
    ([1, 2, 643, 2], [(2, "cryptopro"), (9, "cryptocom")]),
    ([1, 2, 643, 2, 2], [(3, "id-GostR3411-94-with-GostR3410-2001"),
      (4, "id-GostR3411-94-with-GostR3410-94"), (9, "md_gost94"), (10, "id-HMACGostR3411-94"),
      (19, "gost2001"), (20, "gost94"), (21, "gost89"), (22, "gost-mac"), (23, "prf-gostr3411-94"),
      (98, "id-GostR3410-2001DH"), (99, "id-GostR3410-94DH")]),
    ([1, 2, 643, 2, 2, 14], [(0, "id-Gost28147-89-None-KeyMeshing"),
      (1, "id-Gost28147-89-CryptoPro-KeyMeshing")]),
    ([1, 2, 643, 2, 2, 20], [(1, "id-GostR3410-94-a"), (2, "id-GostR3410-94-aBis"),
      (3, "id-GostR3410-94-b"), (4, "id-GostR3410-94-bBis")]),
    ([1, 2, 643, 2, 2, 30], [(0, "id-GostR3411-94-TestParamSet"),
      (1, "id-GostR3411-94-CryptoProParamSet")]),
    ([1, 2, 643, 2, 2, 31], [(0, "id-Gost28147-89-TestParamSet"),
      (1, "id-Gost28147-89-CryptoPro-A-ParamSet"), (2, "id-Gost28147-89-CryptoPro-B-ParamSet"),
      (3, "id-Gost28147-89-CryptoPro-C-ParamSet"), (4, "id-Gost28147-89-CryptoPro-D-ParamSet"),
      (5, "id-Gost28147-89-CryptoPro-Oscar-1-1-ParamSet"),
      (6, "id-Gost28147-89-CryptoPro-Oscar-1-0-ParamSet"),
      (7, "id-Gost28147-89-CryptoPro-RIC-1-ParamSet")]),
    ([1, 2, 643, 2, 2, 32], [(0, "id-GostR3410-94-TestParamSet"),
      (2, "id-GostR3410-94-CryptoPro-A-ParamSet"), (3, "id-GostR3410-94-CryptoPro-B-ParamSet"),
      (4, "id-GostR3410-94-CryptoPro-C-ParamSet"), (5, "id-GostR3410-94-CryptoPro-D-ParamSet")]),
    ([1, 2, 643, 2, 2, 33], [(1, "id-GostR3410-94-CryptoPro-XchA-ParamSet"),
      (2, "id-GostR3410-94-CryptoPro-XchB-ParamSet"),
      (3, "id-GostR3410-94-CryptoPro-XchC-ParamSet")]),
    ([1, 2, 643, 2, 2, 35], [(0, "id-GostR3410-2001-TestParamSet"),
      (1, "id-GostR3410-2001-CryptoPro-A-ParamSet"), (2, "id-GostR3410-2001-CryptoPro-B-ParamSet"),
      (3, "id-GostR3410-2001-CryptoPro-C-ParamSet")]),
    ([1, 2, 643, 2, 2, 36], [(0, "id-GostR3410-2001-CryptoPro-XchA-ParamSet"),
      (1, "id-GostR3410-2001-CryptoPro-XchB-ParamSet")]),
    ([1, 2, 643, 2, 9, 1, 3], [(3, "id-GostR3411-94-with-GostR3410-94-cc"),
      (4, "id-GostR3411-94-with-GostR3410-2001-cc")]),
    ([1, 2, 643, 2, 9, 1, 5], [(3, "gost94cc"), (4, "gost2001cc")]),
    ([1, 2, 643, 2, 9, 1, 6], [(1, "id-Gost28147-89-cc")]),
    ([1, 2, 643, 2, 9, 1, 8], [(1, "id-GostR3410-2001-ParamSet-cc")]),
    ([1, 2, 643, 3, 131, 1], [(1, "INN")]),
    ([1, 2, 643, 7], [(1, "id-tc26")]),
    ([1, 2, 643, 7, 1], [(1, "id-tc26-algorithms"), (2, "id-tc26-constants")]),
    ([1, 2, 643, 7, 1, 1], [(1, "id-tc26-sign"), (2, "id-tc26-digest"),
      (3, "id-tc26-signwithdigest"), (4, "id-tc26-mac"), (5, "id-tc26-cipher"),
      (6, "id-tc26-agreement"), (7, "id-tc26-wrap")]),
    ([1, 2, 643, 7, 1, 1, 1], [(1, "gost2012_256"), (2, "gost2012_512")]),
    ([1, 2, 643, 7, 1, 1, 2], [(2, "md_gost12_256"), (3, "md_gost12_512")]),
    ([1, 2, 643, 7, 1, 1, 3], [(2, "id-tc26-signwithdigest-gost3410-2012-256"),
      (3, "id-tc26-signwithdigest-gost3410-2012-512")]),
    ([1, 2, 643, 7, 1, 1, 4], [(1, "id-tc26-hmac-gost-3411-2012-256"),
      (2, "id-tc26-hmac-gost-3411-2012-512")]),
    ([1, 2, 643, 7, 1, 1, 5], [(1, "id-tc26-cipher-gostr3412-2015-magma"),
      (2, "id-tc26-cipher-gostr3412-2015-kuznyechik")]),
    ([1, 2, 643, 7, 1, 1, 5, 1], [(1, "magma-ctr-acpkm"), (2, "magma-ctr-acpkm-omac")]),
    ([1, 2, 643, 7, 1, 1, 5, 2], [(1, "kuznyechik-ctr-acpkm"), (2, "kuznyechik-ctr-acpkm-omac")]),
    ([1, 2, 643, 7, 1, 1, 6], [(1, "id-tc26-agreement-gost-3410-2012-256"),
      (2, "id-tc26-agreement-gost-3410-2012-512")]),
    ([1, 2, 643, 7, 1, 1, 7], [(1, "id-tc26-wrap-gostr3412-2015-magma"),
      (2, "id-tc26-wrap-gostr3412-2015-kuznyechik")]),
    ([1, 2, 643, 7, 1, 1, 7, 1], [(1, "magma-kexp15")]),
    ([1, 2, 643, 7, 1, 1, 7, 2], [(1, "kuznyechik-kexp15")]),
    ([1, 2, 643, 7, 1, 2], [(1, "id-tc26-sign-constants"), (2, "id-tc26-digest-constants"),
      (5, "id-tc26-cipher-constants")]),
    ([1, 2, 643, 7, 1, 2, 1], [(1, "id-tc26-gost-3410-2012-256-constants"),
      (2, "id-tc26-gost-3410-2012-512-constants")]),
    ([1, 2, 643, 7, 1, 2, 1, 1], [(1, "id-tc26-gost-3410-2012-256-paramSetA"),
      (2, "id-tc26-gost-3410-2012-256-paramSetB"), (3, "id-tc26-gost-3410-2012-256-paramSetC"),
      (4, "id-tc26-gost-3410-2012-256-paramSetD")]),
    ([1, 2, 643, 7, 1, 2, 1, 2], [(0, "id-tc26-gost-3410-2012-512-paramSetTest"),
      (1, "id-tc26-gost-3410-2012-512-paramSetA"), (2, "id-tc26-gost-3410-2012-512-paramSetB"),
      (3, "id-tc26-gost-3410-2012-512-paramSetC")]),
    ([1, 2, 643, 7, 1, 2, 5], [(1, "id-tc26-gost-28147-constants")]),
    ([1, 2, 643, 7, 1, 2, 5, 1], [(1, "id-tc26-gost-28147-param-Z")]),
    ([1, 2, 643, 100], [(1, "OGRN"), (3, "SNILS"), (5, "OGRNIP"), (111, "subjectSignTool"),
      (112, "issuerSignTool"), (113, "classSignTool")]),
    ([1, 2, 643, 100, 113], [(1, "classSignToolKC1"), (2, "classSignToolKC2"),
      (3, "classSignToolKC3"), (4, "classSignToolKB1"), (5, "classSignToolKB2"),
      (6, "classSignToolKA1")]),
    ([1, 2, 804, 2, 1, 1], [(1, "ua-pki")]),
    ([1, 2, 804, 2, 1, 1, 1, 1, 1], [(1, "dstu28147"), (2, "hmacWithDstu34311")]),
    ([1, 2, 804, 2, 1, 1, 1, 1, 1, 1], [(2, "dstu28147-ofb"), (3, "dstu28147-cfb"),
      (5, "dstu28147-wrap")]),
    ([1, 2, 804, 2, 1, 1, 1, 1, 2], [(1, "dstu34311")]),
    ([1, 2, 804, 2, 1, 1, 1, 1, 3, 1], [(1, "dstu4145le")]),
    ([1, 2, 804, 2, 1, 1, 1, 1, 3, 1, 1, 1], [(1, "dstu4145be")]),
    ([1, 2, 804, 2, 1, 1, 1, 1, 3, 1, 1, 2], [(0, "uacurve0"), (1, "uacurve1"), (2, "uacurve2"),
      (3, "uacurve3"), (4, "uacurve4"), (5, "uacurve5"), (6, "uacurve6"), (7, "uacurve7"),
      (8, "uacurve8"), (9, "uacurve9")]),
    ([1, 2, 840], [(10040, "X9-57"), (10045, "ansi-X9-62"), (113549, "rsadsi")]),
    ([1, 2, 840, 10040], [(4, "X9cm")]),
    ([1, 2, 840, 10040, 2], [(1, "holdInstructionNone"), (2, "holdInstructionCallIssuer"),
      (3, "holdInstructionReject")]),
    ([1, 2, 840, 10040, 4], [(1, "DSA"), (3, "DSA-SHA1")]),
    ([1, 2, 840, 10045, 1], [(1, "prime-field"), (2, "characteristic-two-field")]),
    ([1, 2, 840, 10045, 1, 2], [(3, "id-characteristic-two-basis")]),
    ([1, 2, 840, 10045, 1, 2, 3], [(1, "onBasis"), (2, "tpBasis"), (3, "ppBasis")]),
    ([1, 2, 840, 10045, 2], [(1, "id-ecPublicKey")]),
    ([1, 2, 840, 10045, 3, 0], [(1, "c2pnb163v1"), (2, "c2pnb163v2"), (3, "c2pnb163v3"),
      (4, "c2pnb176v1"), (5, "c2tnb191v1"), (6, "c2tnb191v2"), (7, "c2tnb191v3"), (8, "c2onb191v4"),
      (9, "c2onb191v5"), (10, "c2pnb208w1"), (11, "c2tnb239v1"), (12, "c2tnb239v2"),
      (13, "c2tnb239v3"), (14, "c2onb239v4"), (15, "c2onb239v5"), (16, "c2pnb272w1"),
      (17, "c2pnb304w1"), (18, "c2tnb359v1"), (19, "c2pnb368w1"), (20, "c2tnb431r1")]),
    ([1, 2, 840, 10045, 3, 1], [(1, "prime192v1"), (2, "prime192v2"), (3, "prime192v3"),
      (4, "prime239v1"), (5, "prime239v2"), (6, "prime239v3"), (7, "prime256v1")]),
    ([1, 2, 840, 10045, 4], [(1, "ecdsa-with-SHA1"), (2, "ecdsa-with-Recommended"),
      (3, "ecdsa-with-Specified")]),
    ([1, 2, 840, 10045, 4, 3], [(1, "ecdsa-with-SHA224"), (2, "ecdsa-with-SHA256"),
      (3, "ecdsa-with-SHA384"), (4, "ecdsa-with-SHA512")]),
    ([1, 2, 840, 10046, 2], [(1, "dhpublicnumber")]),
    ([1, 2, 840, 113533, 7, 66], [(10, "CAST5-CBC"), (12, "pbeWithMD5AndCast5CBC"),
      (13, "id-PasswordBasedMAC"), (30, "id-DHBasedMac")])]

/-- What is assigned jointly. -/
def jointNames : List (List Nat × List (Nat × String)) :=
  [([2], [(5, "X500"), (23, "international-organizations")]),
    ([2, 16, 840, 1], [(113730, "Netscape")]),
    ([2, 16, 840, 1, 101, 3, 4, 1], [(1, "AES-128-ECB"), (2, "AES-128-CBC"), (3, "AES-128-OFB"),
      (4, "AES-128-CFB"), (5, "id-aes128-wrap"), (6, "id-aes128-GCM"), (7, "id-aes128-CCM"),
      (8, "id-aes128-wrap-pad"), (21, "AES-192-ECB"), (22, "AES-192-CBC"), (23, "AES-192-OFB"),
      (24, "AES-192-CFB"), (25, "id-aes192-wrap"), (26, "id-aes192-GCM"), (27, "id-aes192-CCM"),
      (28, "id-aes192-wrap-pad"), (41, "AES-256-ECB"), (42, "AES-256-CBC"), (43, "AES-256-OFB"),
      (44, "AES-256-CFB"), (45, "id-aes256-wrap"), (46, "id-aes256-GCM"), (47, "id-aes256-CCM"),
      (48, "id-aes256-wrap-pad")]),
    ([2, 16, 840, 1, 101, 3, 4, 2], [(1, "SHA256"), (2, "SHA384"), (3, "SHA512"), (4, "SHA224"),
      (5, "SHA512-224"), (6, "SHA512-256"), (7, "SHA3-224"), (8, "SHA3-256"), (9, "SHA3-384"),
      (10, "SHA3-512"), (11, "SHAKE128"), (12, "SHAKE256"), (13, "id-hmacWithSHA3-224"),
      (14, "id-hmacWithSHA3-256"), (15, "id-hmacWithSHA3-384"), (16, "id-hmacWithSHA3-512"),
      (19, "KMAC128"), (20, "KMAC256")]),
    ([2, 16, 840, 1, 101, 3, 4, 3], [(1, "dsa_with_SHA224"), (2, "dsa_with_SHA256"),
      (3, "id-dsa-with-sha384"), (4, "id-dsa-with-sha512"), (5, "id-dsa-with-sha3-224"),
      (6, "id-dsa-with-sha3-256"), (7, "id-dsa-with-sha3-384"), (8, "id-dsa-with-sha3-512"),
      (9, "id-ecdsa-with-sha3-224"), (10, "id-ecdsa-with-sha3-256"), (11, "id-ecdsa-with-sha3-384"),
      (12, "id-ecdsa-with-sha3-512"), (13, "id-rsassa-pkcs1-v1_5-with-sha3-224"),
      (14, "id-rsassa-pkcs1-v1_5-with-sha3-256"), (15, "id-rsassa-pkcs1-v1_5-with-sha3-384"),
      (16, "id-rsassa-pkcs1-v1_5-with-sha3-512")]),
    ([2, 16, 840, 1, 113730], [(1, "nsCertExt"), (2, "nsDataType")]),
    ([2, 16, 840, 1, 113730, 1], [(1, "nsCertType"), (2, "nsBaseUrl"), (3, "nsRevocationUrl"),
      (4, "nsCaRevocationUrl"), (7, "nsRenewalUrl"), (8, "nsCaPolicyUrl"), (12, "nsSslServerName"),
      (13, "nsComment")]),
    ([2, 16, 840, 1, 113730, 2], [(5, "nsCertSequence")]),
    ([2, 16, 840, 1, 113730, 4], [(1, "nsSGC")]),
    ([2, 23], [(42, "id-set"), (43, "wap")]),
    ([2, 23, 42], [(0, "set-ctype"), (1, "set-msgExt"), (3, "set-attr"), (5, "set-policy"),
      (7, "set-certExt"), (8, "set-brand")]),
    ([2, 23, 42, 0], [(0, "setct-PANData"), (1, "setct-PANToken"), (2, "setct-PANOnly"),
      (3, "setct-OIData"), (4, "setct-PI"), (5, "setct-PIData"), (6, "setct-PIDataUnsigned"),
      (7, "setct-HODInput"), (8, "setct-AuthResBaggage"), (9, "setct-AuthRevReqBaggage"),
      (10, "setct-AuthRevResBaggage"), (11, "setct-CapTokenSeq"), (12, "setct-PInitResData"),
      (13, "setct-PI-TBS"), (14, "setct-PResData"), (16, "setct-AuthReqTBS"),
      (17, "setct-AuthResTBS"), (18, "setct-AuthResTBSX"), (19, "setct-AuthTokenTBS"),
      (20, "setct-CapTokenData"), (21, "setct-CapTokenTBS"), (22, "setct-AcqCardCodeMsg"),
      (23, "setct-AuthRevReqTBS"), (24, "setct-AuthRevResData"), (25, "setct-AuthRevResTBS"),
      (26, "setct-CapReqTBS"), (27, "setct-CapReqTBSX"), (28, "setct-CapResData"),
      (29, "setct-CapRevReqTBS"), (30, "setct-CapRevReqTBSX"), (31, "setct-CapRevResData"),
      (32, "setct-CredReqTBS"), (33, "setct-CredReqTBSX"), (34, "setct-CredResData"),
      (35, "setct-CredRevReqTBS"), (36, "setct-CredRevReqTBSX"), (37, "setct-CredRevResData"),
      (38, "setct-PCertReqData"), (39, "setct-PCertResTBS"), (40, "setct-BatchAdminReqData"),
      (41, "setct-BatchAdminResData"), (42, "setct-CardCInitResTBS"), (43, "setct-MeAqCInitResTBS"),
      (44, "setct-RegFormResTBS"), (45, "setct-CertReqData"), (46, "setct-CertReqTBS"),
      (47, "setct-CertResData"), (48, "setct-CertInqReqTBS"), (49, "setct-ErrorTBS"),
      (50, "setct-PIDualSignedTBE"), (51, "setct-PIUnsignedTBE"), (52, "setct-AuthReqTBE"),
      (53, "setct-AuthResTBE"), (54, "setct-AuthResTBEX"), (55, "setct-AuthTokenTBE"),
      (56, "setct-CapTokenTBE"), (57, "setct-CapTokenTBEX"), (58, "setct-AcqCardCodeMsgTBE"),
      (59, "setct-AuthRevReqTBE"), (60, "setct-AuthRevResTBE"), (61, "setct-AuthRevResTBEB"),
      (62, "setct-CapReqTBE"), (63, "setct-CapReqTBEX"), (64, "setct-CapResTBE"),
      (65, "setct-CapRevReqTBE"), (66, "setct-CapRevReqTBEX"), (67, "setct-CapRevResTBE"),
      (68, "setct-CredReqTBE"), (69, "setct-CredReqTBEX"), (70, "setct-CredResTBE"),
      (71, "setct-CredRevReqTBE"), (72, "setct-CredRevReqTBEX"), (73, "setct-CredRevResTBE"),
      (74, "setct-BatchAdminReqTBE"), (75, "setct-BatchAdminResTBE"), (76, "setct-RegFormReqTBE"),
      (77, "setct-CertReqTBE"), (78, "setct-CertReqTBEX"), (79, "setct-CertResTBE"),
      (80, "setct-CRLNotificationTBS"), (81, "setct-CRLNotificationResTBS"),
      (82, "setct-BCIDistributionTBS")]),
    ([2, 23, 42, 1], [(1, "setext-genCrypt"), (3, "setext-miAuth"), (4, "setext-pinSecure"),
      (5, "setext-pinAny"), (7, "setext-track2"), (8, "setext-cv")]),
    ([2, 23, 42, 3], [(0, "setAttr-Cert"), (1, "setAttr-PGWYcap"), (2, "setAttr-TokenType"),
      (3, "setAttr-IssCap")]),
    ([2, 23, 42, 3, 0], [(0, "set-rootKeyThumb"), (1, "set-addPolicy")]),
    ([2, 23, 42, 3, 2], [(1, "setAttr-Token-EMV"), (2, "setAttr-Token-B0Prime")]),
    ([2, 23, 42, 3, 3], [(3, "setAttr-IssCap-CVM"), (4, "setAttr-IssCap-T2"),
      (5, "setAttr-IssCap-Sig")]),
    ([2, 23, 42, 3, 3, 3], [(1, "setAttr-GenCryptgrm")]),
    ([2, 23, 42, 3, 3, 4], [(1, "setAttr-T2Enc"), (2, "setAttr-T2cleartxt")]),
    ([2, 23, 42, 3, 3, 5], [(1, "setAttr-TokICCsig"), (2, "setAttr-SecDevSig")]),
    ([2, 23, 42, 5], [(0, "set-policy-root")]),
    ([2, 23, 42, 7], [(0, "setCext-hashedRoot"), (1, "setCext-certType"), (2, "setCext-merchData"),
      (3, "setCext-cCertRequired"), (4, "setCext-tunneling"), (5, "setCext-setExt"),
      (6, "setCext-setQualf"), (7, "setCext-PGWYcapabilities"), (8, "setCext-TokenIdentifier"),
      (9, "setCext-Track2Data"), (10, "setCext-TokenType"), (11, "setCext-IssuerCapabilities")]),
    ([2, 23, 42, 8], [(1, "set-brand-IATA-ATA"), (4, "set-brand-Visa"), (5, "set-brand-MasterCard"),
      (30, "set-brand-Diners"), (34, "set-brand-AmericanExpress"), (35, "set-brand-JCB"),
      (6011, "set-brand-Novus")]),
    ([2, 23, 43], [(1, "wap-wsg")]),
    ([2, 23, 43, 1, 4], [(1, "wap-wsg-idm-ecid-wtls1"), (3, "wap-wsg-idm-ecid-wtls3"),
      (4, "wap-wsg-idm-ecid-wtls4"), (5, "wap-wsg-idm-ecid-wtls5"), (6, "wap-wsg-idm-ecid-wtls6"),
      (7, "wap-wsg-idm-ecid-wtls7"), (8, "wap-wsg-idm-ecid-wtls8"), (9, "wap-wsg-idm-ecid-wtls9"),
      (10, "wap-wsg-idm-ecid-wtls10"), (11, "wap-wsg-idm-ecid-wtls11"),
      (12, "wap-wsg-idm-ecid-wtls12")])]

/-- Identifiers and their short names. -/
def shortNames : List (List Nat × String) :=
  [directoryNames, telecomNames, rsaNames, internetNames, organizationNames, standardNames,
    jointNames].flatten.flatMap fun (path, steps) =>
      steps.map fun (step, name) => (path ++ [step], name)

namespace Oid

/-- The short name of an identifier, if it has one. -/
def shortName? (oid : Oid) : Option String := shortNames.lookup oid.path

/-- What stands for identifiers without a short name. -/
def unnamed : String := "UNDEF"

/-- The short name of an identifier, or the stand-in. -/
def shortName (oid : Oid) : String := oid.shortName?.getD unnamed

/-- What the library calls an identifier. It has an answer for every one. -/
def known (oid : Oid) : Option String := some oid.shortName

end Oid

end SecureStream.Asn1
