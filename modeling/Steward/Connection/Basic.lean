/-
This file resolves a record to the settings of its connection and checks them.
The address is judged first, then the keys, then the certificates.
-/

import Steward.Connection.Profile
import Steward.Record.Basic
import Steward.Text.Basic
import Steward.Url.Basic

namespace Steward

open Text (hasPart quoted quotedOption redacted)

/-- What the look-up of a variable of the environment gives. A variable counts as absent when it
is not set, and also when its value is not Unicode, for then the look-up fails alike. -/
abbrev Environment := String → Option String

/-- Why no settings are found for a record. -/
inductive ResolveError where
  | unknownProfile (profile : String)
  | noDefaultProfile
  | secretUnavailable (profile reason : String)
  deriving DecidableEq, Repr

def ResolveError.message : ResolveError → String
  | .unknownProfile profile => "no connection profile named '" ++ profile ++ "'"
  | .noDefaultProfile =>
      "record has no credentials reference and no default profile is configured"
  | .secretUnavailable profile reason =>
      "secret for profile '" ++ profile ++ "' is unavailable: " ++ reason

/-- The two halves of the remote side: buckets with their objects, and identities. -/
inductive Side where
  | data
  | admin
  deriving DecidableEq, Repr

def Side.text : Side → String
  | .data => "data"
  | .admin => "admin"

/-- Why no connection can be made. -/
inductive ConnectError where
  | credentialsUnavailable (reason : String)
  | malformedEndpoint (endpoint reason : String)
  | tlsBuild (reason : String)
  | planeUnavailable (side : Side)
  deriving DecidableEq, Repr

namespace ConnectError

def message : ConnectError → String
  | .credentialsUnavailable reason => "credentials unavailable: " ++ reason
  | .malformedEndpoint endpoint reason =>
      "malformed endpoint '" ++ endpoint ++ "': " ++ reason
  | .tlsBuild reason => "cannot build TLS configuration: " ++ reason
  | .planeUnavailable side => "client factory cannot provide the " ++ side.text ++ " plane"

/-- The word by which a program tells the cause. -/
def reason : ConnectError → String
  | .credentialsUnavailable _ => "credentials-unavailable"
  | .malformedEndpoint _ _ => "malformed-endpoint"
  | .tlsBuild _ => "tls-build-failure"
  | .planeUnavailable _ => "plane-unavailable"

def ofResolve (error : ResolveError) : ConnectError :=
  .credentialsUnavailable error.message

end ConnectError

/-- Settings that nobody has checked yet. -/
structure ConnectionParameters where
  endpoint : String
  accessKey : String
  secretKey : String
  tls : Option TlsMaterial
  deriving DecidableEq, Repr

def ConnectionParameters.describe (parameters : ConnectionParameters) : String :=
  "ConnectionParameters \x7b endpoint: " ++ quoted parameters.endpoint ++
    ", access_key: " ++ quoted parameters.accessKey ++ ", secret_key: " ++ redacted ++
    ", tls: " ++ quotedOption TlsMaterial.describe parameters.tls ++ " \x7d"

namespace Profile

/-- The secret key: the inline one unless it is empty, or else that of the environment. -/
def secret (profile : Profile) (environment : Environment) (name : String) :
    Except ResolveError String :=
  match profile.secretKey.filter (· ≠ ""), profile.secretKeyEnv with
  | some secret, _ => .ok secret
  | none, some source =>
      match environment source with
      | some secret => .ok secret
      | none => .error (.secretUnavailable name (source ++ ": environment variable not found"))
  | none, none =>
      .error (.secretUnavailable name "neither secret_key nor secret_key_env is set")

end Profile

/-- The profiles by name, and the one that records without a name of their own use. -/
structure Resolver where
  profiles : Table String Profile := ∅
  defaultProfile : Option String := none
  deriving DecidableEq, Repr, Inhabited

namespace Resolver

/-- One profile for every record. -/
def single (profile : Profile) : Resolver :=
  ⟨Table.ofList [("default", profile)], some "default"⟩

/-- The name of the profile that a record uses. -/
def profileName (resolver : Resolver) (record : Record) : Except ResolveError String :=
  match record.credentialsRef, resolver.defaultProfile with
  | some name, _ => .ok name
  | none, some name => .ok name
  | none, none => .error .noDefaultProfile

def resolve (resolver : Resolver) (environment : Environment) (record : Record) :
    Except ResolveError ConnectionParameters := do
  let name ← resolver.profileName record
  match resolver.profiles.get? name with
  | none => .error (.unknownProfile name)
  | some profile =>
      let secretKey ← profile.secret environment name
      return ⟨profile.url, profile.accessKey, secretKey, profile.tls⟩

end Resolver

/-- Settings that can be connected with. -/
structure Connection where
  endpoint : Url
  /-- Whether the connection is encrypted. -/
  secure : Bool
  accessKey : String
  secretKey : String
  tls : Option TlsMaterial
  deriving DecidableEq, Repr

namespace Connection

def describe (connection : Connection) : String :=
  "Connection \x7b endpoint: " ++ quoted connection.endpoint.render ++ ", secure: " ++
    toString connection.secure ++ ", access_key: " ++ quoted connection.accessKey ++ ", .. \x7d"

def isCertificate (pem : String) : Bool :=
  hasPart pem "-----BEGIN CERTIFICATE-----"

def isPrivateKey (pem : String) : Bool :=
  hasPart pem "PRIVATE KEY-----"

def validateTls (tls : TlsMaterial) (secure : Bool) : Except ConnectError Unit :=
  if ¬ secure then .error (.tlsBuild "TLS material configured for a plain http endpoint")
  else if tls.caPem.any (¬ isCertificate ·) then
    .error (.tlsBuild "CA bundle is not a PEM certificate")
  else
    match tls.clientCertPem, tls.clientKeyPem with
    | none, none => .ok ()
    | some certificate, some key =>
        if ¬ isCertificate certificate then
          .error (.tlsBuild "client certificate is not a PEM certificate")
        else if ¬ isPrivateKey key then
          .error (.tlsBuild "client key is not a PEM private key")
        else .ok ()
    | _, _ =>
        .error (.tlsBuild "client certificate and key must be configured together")

/-- Checks settings; an address without a scheme is taken for an encrypted one. -/
def validate (parameters : ConnectionParameters) : Except ConnectError Connection := do
  let raw := Text.trim parameters.endpoint
  if raw = "" then .error (.malformedEndpoint raw "endpoint is empty")
  let full := if hasPart raw "://" then raw else "https://" ++ raw
  let endpoint ← (Url.read full).mapError fun error => .malformedEndpoint raw error.message
  if endpoint.scheme ≠ "https" ∧ endpoint.scheme ≠ "http" then
    .error (.malformedEndpoint raw ("unsupported scheme '" ++ endpoint.scheme ++ "'"))
  let secure := endpoint.scheme = "https"
  if endpoint.hostText?.all (· = "") then
    .error (.malformedEndpoint raw "endpoint has no host")
  if Text.isBlank parameters.accessKey then
    .error (.credentialsUnavailable "access key is empty")
  if parameters.secretKey = "" then .error (.credentialsUnavailable "secret key is empty")
  match parameters.tls with
  | some tls => validateTls tls secure
  | none => pure ()
  return ⟨endpoint, secure, parameters.accessKey, parameters.secretKey, parameters.tls⟩

end Connection

namespace Resolver

/-- The checked connection of a record. -/
def connect (resolver : Resolver) (environment : Environment) (record : Record) :
    Except ConnectError Connection := do
  let parameters ← (resolver.resolve environment record).mapError .ofResolve
  Connection.validate parameters

end Resolver

end Steward
