/-!
# Cipher suites

The cipher suites that a session of version 1.2 may use.

* `Suite`: a suite with the four algorithms that make it up, its strength and its first version;
* `Suite.table`: all suites, the preferred ones first;
* `Suite.isDefault`: the suite is offered unless someone asks for others;
* `Suite.modern`: the one suite of version 1.3 that both sides prefer.
-/

namespace SecureStream.Cipher

/-- How the two sides agree on keys. -/
inductive Exchange
  | ecdhe
  | dhe
  | rsa
  deriving DecidableEq

/-- How the peer proves who it is. -/
inductive Authentication
  | ecdsa
  | rsa
  | dss
  | none
  deriving DecidableEq

/-- How records are encrypted. -/
inductive Encryption
  | aesGcm
  | aesCcm
  | aesCcm8
  | aesCbc
  | ariaGcm
  | camellia
  | chacha20
  | null
  deriving DecidableEq

/-- How records are protected against change. -/
inductive Digest
  | aead
  | sha384
  | sha256
  | sha1
  | md5
  deriving DecidableEq

/-- The first protocol version that has a suite. -/
inductive Since
  | ssl3
  | tls10
  | tls12
  deriving DecidableEq

/-- A cipher suite. -/
structure Suite where
  name : String
  exchange : Exchange
  authentication : Authentication
  encryption : Encryption
  /-- The length of the encryption key in bits. -/
  strength : Nat
  digest : Digest
  since : Since
  deriving DecidableEq

namespace Suite

/-- Every suite, in order of preference: a key exchange with ephemeral keys before one without, then
encryption and protection in one before separate ones, then by strength. -/
def table : List Suite :=
  [⟨"ECDHE-ECDSA-AES256-GCM-SHA384", .ecdhe, .ecdsa, .aesGcm, 256, .aead, .tls12⟩,
    ⟨"ECDHE-RSA-AES256-GCM-SHA384", .ecdhe, .rsa, .aesGcm, 256, .aead, .tls12⟩,
    ⟨"DHE-DSS-AES256-GCM-SHA384", .dhe, .dss, .aesGcm, 256, .aead, .tls12⟩,
    ⟨"DHE-RSA-AES256-GCM-SHA384", .dhe, .rsa, .aesGcm, 256, .aead, .tls12⟩,
    ⟨"ECDHE-ECDSA-CHACHA20-POLY1305", .ecdhe, .ecdsa, .chacha20, 256, .aead, .tls12⟩,
    ⟨"ECDHE-RSA-CHACHA20-POLY1305", .ecdhe, .rsa, .chacha20, 256, .aead, .tls12⟩,
    ⟨"DHE-RSA-CHACHA20-POLY1305", .dhe, .rsa, .chacha20, 256, .aead, .tls12⟩,
    ⟨"ECDHE-ECDSA-AES256-CCM8", .ecdhe, .ecdsa, .aesCcm8, 256, .aead, .tls12⟩,
    ⟨"ECDHE-ECDSA-AES256-CCM", .ecdhe, .ecdsa, .aesCcm, 256, .aead, .tls12⟩,
    ⟨"DHE-RSA-AES256-CCM8", .dhe, .rsa, .aesCcm8, 256, .aead, .tls12⟩,
    ⟨"DHE-RSA-AES256-CCM", .dhe, .rsa, .aesCcm, 256, .aead, .tls12⟩,
    ⟨"ECDHE-ECDSA-ARIA256-GCM-SHA384", .ecdhe, .ecdsa, .ariaGcm, 256, .aead, .tls12⟩,
    ⟨"ECDHE-ARIA256-GCM-SHA384", .ecdhe, .rsa, .ariaGcm, 256, .aead, .tls12⟩,
    ⟨"DHE-DSS-ARIA256-GCM-SHA384", .dhe, .dss, .ariaGcm, 256, .aead, .tls12⟩,
    ⟨"DHE-RSA-ARIA256-GCM-SHA384", .dhe, .rsa, .ariaGcm, 256, .aead, .tls12⟩,
    ⟨"ADH-AES256-GCM-SHA384", .dhe, .none, .aesGcm, 256, .aead, .tls12⟩,
    ⟨"ECDHE-ECDSA-AES128-GCM-SHA256", .ecdhe, .ecdsa, .aesGcm, 128, .aead, .tls12⟩,
    ⟨"ECDHE-RSA-AES128-GCM-SHA256", .ecdhe, .rsa, .aesGcm, 128, .aead, .tls12⟩,
    ⟨"DHE-DSS-AES128-GCM-SHA256", .dhe, .dss, .aesGcm, 128, .aead, .tls12⟩,
    ⟨"DHE-RSA-AES128-GCM-SHA256", .dhe, .rsa, .aesGcm, 128, .aead, .tls12⟩,
    ⟨"ECDHE-ECDSA-AES128-CCM8", .ecdhe, .ecdsa, .aesCcm8, 128, .aead, .tls12⟩,
    ⟨"ECDHE-ECDSA-AES128-CCM", .ecdhe, .ecdsa, .aesCcm, 128, .aead, .tls12⟩,
    ⟨"DHE-RSA-AES128-CCM8", .dhe, .rsa, .aesCcm8, 128, .aead, .tls12⟩,
    ⟨"DHE-RSA-AES128-CCM", .dhe, .rsa, .aesCcm, 128, .aead, .tls12⟩,
    ⟨"ECDHE-ECDSA-ARIA128-GCM-SHA256", .ecdhe, .ecdsa, .ariaGcm, 128, .aead, .tls12⟩,
    ⟨"ECDHE-ARIA128-GCM-SHA256", .ecdhe, .rsa, .ariaGcm, 128, .aead, .tls12⟩,
    ⟨"DHE-DSS-ARIA128-GCM-SHA256", .dhe, .dss, .ariaGcm, 128, .aead, .tls12⟩,
    ⟨"DHE-RSA-ARIA128-GCM-SHA256", .dhe, .rsa, .ariaGcm, 128, .aead, .tls12⟩,
    ⟨"ADH-AES128-GCM-SHA256", .dhe, .none, .aesGcm, 128, .aead, .tls12⟩,
    ⟨"ECDHE-ECDSA-AES256-SHA384", .ecdhe, .ecdsa, .aesCbc, 256, .sha384, .tls12⟩,
    ⟨"ECDHE-RSA-AES256-SHA384", .ecdhe, .rsa, .aesCbc, 256, .sha384, .tls12⟩,
    ⟨"DHE-RSA-AES256-SHA256", .dhe, .rsa, .aesCbc, 256, .sha256, .tls12⟩,
    ⟨"DHE-DSS-AES256-SHA256", .dhe, .dss, .aesCbc, 256, .sha256, .tls12⟩,
    ⟨"ECDHE-ECDSA-CAMELLIA256-SHA384", .ecdhe, .ecdsa, .camellia, 256, .sha384, .tls12⟩,
    ⟨"ECDHE-RSA-CAMELLIA256-SHA384", .ecdhe, .rsa, .camellia, 256, .sha384, .tls12⟩,
    ⟨"DHE-RSA-CAMELLIA256-SHA256", .dhe, .rsa, .camellia, 256, .sha256, .tls12⟩,
    ⟨"DHE-DSS-CAMELLIA256-SHA256", .dhe, .dss, .camellia, 256, .sha256, .tls12⟩,
    ⟨"ADH-AES256-SHA256", .dhe, .none, .aesCbc, 256, .sha256, .tls12⟩,
    ⟨"ADH-CAMELLIA256-SHA256", .dhe, .none, .camellia, 256, .sha256, .tls12⟩,
    ⟨"ECDHE-ECDSA-AES128-SHA256", .ecdhe, .ecdsa, .aesCbc, 128, .sha256, .tls12⟩,
    ⟨"ECDHE-RSA-AES128-SHA256", .ecdhe, .rsa, .aesCbc, 128, .sha256, .tls12⟩,
    ⟨"DHE-RSA-AES128-SHA256", .dhe, .rsa, .aesCbc, 128, .sha256, .tls12⟩,
    ⟨"DHE-DSS-AES128-SHA256", .dhe, .dss, .aesCbc, 128, .sha256, .tls12⟩,
    ⟨"ECDHE-ECDSA-CAMELLIA128-SHA256", .ecdhe, .ecdsa, .camellia, 128, .sha256, .tls12⟩,
    ⟨"ECDHE-RSA-CAMELLIA128-SHA256", .ecdhe, .rsa, .camellia, 128, .sha256, .tls12⟩,
    ⟨"DHE-RSA-CAMELLIA128-SHA256", .dhe, .rsa, .camellia, 128, .sha256, .tls12⟩,
    ⟨"DHE-DSS-CAMELLIA128-SHA256", .dhe, .dss, .camellia, 128, .sha256, .tls12⟩,
    ⟨"ADH-AES128-SHA256", .dhe, .none, .aesCbc, 128, .sha256, .tls12⟩,
    ⟨"ADH-CAMELLIA128-SHA256", .dhe, .none, .camellia, 128, .sha256, .tls12⟩,
    ⟨"ECDHE-ECDSA-AES256-SHA", .ecdhe, .ecdsa, .aesCbc, 256, .sha1, .tls10⟩,
    ⟨"ECDHE-RSA-AES256-SHA", .ecdhe, .rsa, .aesCbc, 256, .sha1, .tls10⟩,
    ⟨"DHE-RSA-AES256-SHA", .dhe, .rsa, .aesCbc, 256, .sha1, .ssl3⟩,
    ⟨"DHE-DSS-AES256-SHA", .dhe, .dss, .aesCbc, 256, .sha1, .ssl3⟩,
    ⟨"DHE-RSA-CAMELLIA256-SHA", .dhe, .rsa, .camellia, 256, .sha1, .ssl3⟩,
    ⟨"DHE-DSS-CAMELLIA256-SHA", .dhe, .dss, .camellia, 256, .sha1, .ssl3⟩,
    ⟨"AECDH-AES256-SHA", .ecdhe, .none, .aesCbc, 256, .sha1, .tls10⟩,
    ⟨"ADH-AES256-SHA", .dhe, .none, .aesCbc, 256, .sha1, .ssl3⟩,
    ⟨"ADH-CAMELLIA256-SHA", .dhe, .none, .camellia, 256, .sha1, .ssl3⟩,
    ⟨"ECDHE-ECDSA-AES128-SHA", .ecdhe, .ecdsa, .aesCbc, 128, .sha1, .tls10⟩,
    ⟨"ECDHE-RSA-AES128-SHA", .ecdhe, .rsa, .aesCbc, 128, .sha1, .tls10⟩,
    ⟨"DHE-RSA-AES128-SHA", .dhe, .rsa, .aesCbc, 128, .sha1, .ssl3⟩,
    ⟨"DHE-DSS-AES128-SHA", .dhe, .dss, .aesCbc, 128, .sha1, .ssl3⟩,
    ⟨"DHE-RSA-CAMELLIA128-SHA", .dhe, .rsa, .camellia, 128, .sha1, .ssl3⟩,
    ⟨"DHE-DSS-CAMELLIA128-SHA", .dhe, .dss, .camellia, 128, .sha1, .ssl3⟩,
    ⟨"AECDH-AES128-SHA", .ecdhe, .none, .aesCbc, 128, .sha1, .tls10⟩,
    ⟨"ADH-AES128-SHA", .dhe, .none, .aesCbc, 128, .sha1, .ssl3⟩,
    ⟨"ADH-CAMELLIA128-SHA", .dhe, .none, .camellia, 128, .sha1, .ssl3⟩,
    ⟨"ECDHE-ECDSA-NULL-SHA", .ecdhe, .ecdsa, .null, 0, .sha1, .tls10⟩,
    ⟨"ECDHE-RSA-NULL-SHA", .ecdhe, .rsa, .null, 0, .sha1, .tls10⟩,
    ⟨"AECDH-NULL-SHA", .ecdhe, .none, .null, 0, .sha1, .tls10⟩,
    ⟨"AES256-GCM-SHA384", .rsa, .rsa, .aesGcm, 256, .aead, .tls12⟩,
    ⟨"AES256-CCM8", .rsa, .rsa, .aesCcm8, 256, .aead, .tls12⟩,
    ⟨"AES256-CCM", .rsa, .rsa, .aesCcm, 256, .aead, .tls12⟩,
    ⟨"ARIA256-GCM-SHA384", .rsa, .rsa, .ariaGcm, 256, .aead, .tls12⟩,
    ⟨"AES128-GCM-SHA256", .rsa, .rsa, .aesGcm, 128, .aead, .tls12⟩,
    ⟨"AES128-CCM8", .rsa, .rsa, .aesCcm8, 128, .aead, .tls12⟩,
    ⟨"AES128-CCM", .rsa, .rsa, .aesCcm, 128, .aead, .tls12⟩,
    ⟨"ARIA128-GCM-SHA256", .rsa, .rsa, .ariaGcm, 128, .aead, .tls12⟩,
    ⟨"AES256-SHA256", .rsa, .rsa, .aesCbc, 256, .sha256, .tls12⟩,
    ⟨"CAMELLIA256-SHA256", .rsa, .rsa, .camellia, 256, .sha256, .tls12⟩,
    ⟨"AES128-SHA256", .rsa, .rsa, .aesCbc, 128, .sha256, .tls12⟩,
    ⟨"CAMELLIA128-SHA256", .rsa, .rsa, .camellia, 128, .sha256, .tls12⟩,
    ⟨"NULL-SHA256", .rsa, .rsa, .null, 0, .sha256, .tls12⟩,
    ⟨"AES256-SHA", .rsa, .rsa, .aesCbc, 256, .sha1, .ssl3⟩,
    ⟨"CAMELLIA256-SHA", .rsa, .rsa, .camellia, 256, .sha1, .ssl3⟩,
    ⟨"AES128-SHA", .rsa, .rsa, .aesCbc, 128, .sha1, .ssl3⟩,
    ⟨"CAMELLIA128-SHA", .rsa, .rsa, .camellia, 128, .sha1, .ssl3⟩,
    ⟨"NULL-SHA", .rsa, .rsa, .null, 0, .sha1, .ssl3⟩,
    ⟨"NULL-MD5", .rsa, .rsa, .null, 0, .md5, .ssl3⟩]

/-- The suite is offered unless someone asks for others. -/
def isDefault (s : Suite) : Bool :=
  (s.authentication = .ecdsa || s.authentication = .rsa) &&
    (s.encryption = .aesGcm || s.encryption = .aesCbc || s.encryption = .chacha20)

/-- The name of the suite that two peers of version 1.3 agree on. -/
def modern : String := "TLS_AES_256_GCM_SHA384"

end Suite

end SecureStream.Cipher
