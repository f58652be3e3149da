/-
This file holds connection profiles: where the remote side is, and with which keys and
certificates to speak to it. No text made of a profile shows its secret.
-/

import Steward.Document
import Steward.Text.Quoted

namespace Steward

open Json (Value)
open Text (quoted quotedOption redacted)

/-- Certificates for a connection. -/
structure TlsMaterial where
  caPem : Option String := none
  clientCertPem : Option String := none
  clientKeyPem : Option String := none
  insecureSkipVerify : Bool := false
  deriving DecidableEq, Repr, Inhabited

namespace TlsMaterial

def describe (tls : TlsMaterial) : String :=
  "TlsMaterial \x7b ca_pem: " ++ toString tls.caPem.isSome ++
    ", client_cert_pem: " ++ toString tls.clientCertPem.isSome ++
    ", client_key_pem: " ++ quotedOption (fun _ => redacted) tls.clientKeyPem ++
    ", insecure_skip_verify: " ++ toString tls.insecureSkipVerify ++ " \x7d"

def toJson (tls : TlsMaterial) : Value :=
  .ofMembers
    [("ca_pem", .ofOption .string tls.caPem), ("client_cert_pem", .ofOption .string tls.clientCertPem),
      ("client_key_pem", .ofOption .string tls.clientKeyPem),
      ("insecure_skip_verify", .bool tls.insecureSkipVerify)]

def ofDocument? (document : Document) : Option TlsMaterial := do
  let fields ← document.fields?
    ["ca_pem", "client_cert_pem", "client_key_pem", "insecure_skip_verify"]
  return {
    caPem := ← fields.optional "ca_pem" Document.string?
    clientCertPem := ← fields.optional "client_cert_pem" Document.string?
    clientKeyPem := ← fields.optional "client_key_pem" Document.string?
    insecureSkipVerify := ← fields.withDefault "insecure_skip_verify" false Document.bool? }

end TlsMaterial

/-- A named set of connection settings. -/
structure Profile where
  url : String := ""
  accessKey : String := ""
  /-- The secret key, given inline. -/
  secretKey : Option String := none
  /-- The environment variable that holds the secret key. -/
  secretKeyEnv : Option String := none
  tls : Option TlsMaterial := none
  deriving DecidableEq, Repr, Inhabited

namespace Profile

/-- All settings in their written form. -/
def describe (profile : Profile) : String :=
  "Profile \x7b url: " ++ quoted profile.url ++ ", access_key: " ++ quoted profile.accessKey ++
    ", secret_key: " ++ quotedOption (fun _ => redacted) profile.secretKey ++
    ", secret_key_env: " ++ quotedOption quoted profile.secretKeyEnv ++
    ", tls: " ++ quotedOption TlsMaterial.describe profile.tls ++ " \x7d"

/-- The settings in one line for a reader. -/
def summary (profile : Profile) : String :=
  let secret := match profile.secretKey, profile.secretKeyEnv with
    | some _, _ => "secret_key=<redacted>"
    | none, some source => "secret_key_env=" ++ source
    | none, none => "secret_key=<missing>"
  let tls := match profile.tls with
    | none => "tls=default"
    | some tls => if tls.insecureSkipVerify then "tls=insecure" else "tls=custom"
  "url=" ++ profile.url ++ " access_key=" ++ profile.accessKey ++ " " ++ secret ++ " " ++ tls

def toJson (profile : Profile) : Value :=
  .ofMembers
    [("url", .string profile.url), ("access_key", .string profile.accessKey),
      ("secret_key", .ofOption .string profile.secretKey),
      ("secret_key_env", .ofOption .string profile.secretKeyEnv),
      ("tls", .ofOption TlsMaterial.toJson profile.tls)]

def ofDocument? (document : Document) : Option Profile := do
  let fields ← document.fields? ["url", "access_key", "secret_key", "secret_key_env", "tls"]
  return {
    url := ← fields.withDefault "url" "" Document.string?
    accessKey := ← fields.withDefault "access_key" "" Document.string?
    secretKey := ← fields.optional "secret_key" Document.string?
    secretKeyEnv := ← fields.optional "secret_key_env" Document.string?
    tls := ← fields.optional "tls" TlsMaterial.ofDocument? }

end Profile

end Steward
