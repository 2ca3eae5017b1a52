import Nodewright.Beacon.Client
import Nodewright.Codec.Choice
import Nodewright.Resources
import Nodewright.Url.Parser

/-! # Validators

A validator signs for its keys what the beacon nodes behind its endpoints propose. -/

namespace Nodewright.Beacon

/-- A key to sign with, and the secret that holds it with its password. -/
structure Keystore where
  secretName : String
  publicKey : Option String
deriving DecidableEq

/-- A validator. -/
structure Validator where
  client : Client
  image : Option String
  /-- The public network that the validator signs for. -/
  network : String
  beaconEndpoints : List String
  graffiti : Option String
  /-- The account that is paid the fees of proposed blocks. -/
  feeRecipient : Option String
  keystores : List Keystore
  walletPasswordSecret : Option String
  certSecretName : Option String
  logging : Option Verbosity
  resources : Resources
deriving DecidableEq

namespace Keystore

/-- A key as JSON. -/
def codec : Codec Keystore :=
  (Fields.build mk
    |>.member (.required "secretName" .text) secretName
    |>.member (.optional "publicKey" .text) publicKey).codec "Keystore"

end Keystore

namespace Validator

/-- A validator as JSON. -/
def codec : Codec Validator :=
  (Fields.build mk
    |>.member (.defaulted "client" (.client Client .validator) .teku) client
    |>.member (.optional "image" .text) image
    |>.member (.required "network" .text) network
    |>.member (.listing "beaconEndpoints" .text) beaconEndpoints
    |>.member (.optional "graffiti" .text) graffiti
    |>.member (.optional "feeRecipient" .text) feeRecipient
    |>.member (.listing "keystores" Keystore.codec) keystores
    |>.member (.optional "walletPasswordSecret" .text) walletPasswordSecret
    |>.member (.optional "certSecretName" .text) certSecretName
    |>.member (.optional "logging" (.choice Verbosity)) logging
    |>.member (.defaulted "resources" Resources.codec .none) resources).codec "ValidatorSpec"

/-- What a validator asks for by default. -/
def profile : ResourceProfile := ⟨"2", "4", "2Gi", "4Gi", "1Gi"⟩

/-- The usual settings where none are given. -/
def fill (images : Image.Overrides) (v : Validator) : Validator :=
  { v with
    image := some (images.resolve v.image v.client.validatorImage)
    logging := some (v.logging.getD .info)
    graffiti := some (v.graffiti.getD "Validated by Kotal")
    resources := v.resources.fill profile }

/-- The endpoints that are addresses, in their order. -/
def beaconUrls (v : Validator) : List Url := v.beaconEndpoints.filterMap Url.ofText?

/-- The texts of those addresses. -/
def beaconTexts (v : Validator) : List String := v.beaconUrls.map Url.text

end Validator

end Nodewright.Beacon
