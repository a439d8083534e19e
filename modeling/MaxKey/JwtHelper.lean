import MaxKey.Base64Codec

namespace MaxKey.OAuth2
open JavaException Effects Codecs

inductive JsonToken
  | startObject | endObject | startArray | endArray | fieldName
  | valueString | valueNumber | valueTrue | valueFalse | valueNull
  deriving DecidableEq

/-- The text of a token that always has the same one. -/
def JsonToken.asString : JsonToken → Option String
  | startObject => some "\x7b"
  | endObject => some "\x7d"
  | startArray => some "["
  | endArray => some "]"
  | valueTrue => some "true"
  | valueFalse => some "false"
  | valueNull => some "null"
  | fieldName | valueString | valueNumber => none

/-- A token with the name of its field and its text, as the parser gives them. -/
structure JsonEvent where
  token : JsonToken
  currentName : Option String := none
  text : String
  deriving DecidableEq

/-- What a streaming parser gives. Behind the events it fails, or there are no more. -/
structure JsonStream where
  events : List JsonEvent
  failure : Bool := false
  deriving DecidableEq

/-- The generator for an object of texts, and the parser. -/
structure JsonFactory where
  generate : List (String × String) → List UInt8
  parse : List UInt8 → JsonStream

/-- The events of an object of texts. -/
def JsonStream.ofFields (fields : List (String × String)) : JsonStream where
  events := { token := .startObject, text := "\x7b" } ::
    fields.flatMap (fun field =>
      [{ token := .fieldName, currentName := some field.1, text := field.1 },
        { token := .valueString, currentName := some field.1, text := field.2 }]) ++
    [{ token := .endObject, text := "\x7d" }]

/-- The parser reads what the generator writes for these fields. -/
structure JsonFactory.Reads (json : JsonFactory) (fields : List (String × String)) : Prop where
  ne_nil : json.generate fields ≠ []
  parse : json.parse (json.generate fields) = .ofFields fields

structure HeaderParameters where
  alg : String
  enc : Option String := none
  iv : Option String := none
  deriving DecidableEq

structure JwtHeader where
  bytes : List UInt8
  parameters : HeaderParameters

structure Jwt where
  header : JwtHeader
  content : List UInt8
  crypto : List UInt8

structure Signer where
  algorithm : String
  sign : List UInt8 → Except JavaException (List UInt8)

abbrev SignatureVerifier := List UInt8 → List UInt8 → Except JavaException Unit

namespace JwtHeaderHelper

/-- The names of the signature algorithms. -/
def sigAlg : String → Except JavaException String
  | "HMACSHA256" => .ok "HS256"
  | "HMACSHA384" => .ok "HS384"
  | "HMACSHA512" => .ok "HS512"
  | "SHA256withRSA" => .ok "RS256"
  | "SHA512withRSA" => .ok "RS512"
  | javaName => .error (illegalArgument
      ("Invalid or unsupported signature algorithm: " ++ javaName))

/-- The fields in the order in which they are written. -/
def fieldsOf (params : HeaderParameters) : List (String × String) :=
  ("alg", params.alg) :: params.enc.elim [] (fun enc => [("enc", enc)]) ++
    params.iv.elim [] (fun iv => [("iv", iv)])

def serializeParams (json : JsonFactory) (params : HeaderParameters) : List UInt8 :=
  json.generate (fieldsOf params)

structure HeaderFields where
  alg : Option String := none
  enc : Option String := none
  iv : Option String := none

/-- Where no token is left: the exception of the parser, or a token that is no text. -/
def ended (failure : Bool) : JavaException :=
  if failure then runtime "com.fasterxml.jackson.core.JsonParseException"
  else illegalArgument "Header fields must be strings"

def readField (name : Option String) (value : String) (fields : HeaderFields) :
    Except JavaException HeaderFields :=
  if name = some "alg" then
    if fields.alg = none then .ok { fields with alg := some value }
    else .error (illegalArgument "Duplicate 'alg' field")
  else if name = some "enc" then
    if fields.enc = none then .ok { fields with enc := some value }
    else .error (illegalArgument "Duplicate 'enc' field")
  else if name = some "typ" ∧ ¬JavaText.equalsIgnoreCase "JWT" value then
    .error (illegalArgument "typ is not \"JWT\"")
  else .ok fields

/-- The loop over the fields. For an iv it takes the token behind the value. -/
def parseFields (failure : Bool) (fields : HeaderFields) :
    List JsonEvent → Except JavaException HeaderFields
  | [] => .error (ended failure)
  | [event] => if event.token = .endObject then .ok fields else .error (ended failure)
  | event :: value :: events =>
    if event.token = .endObject then .ok fields
    else if value.token ≠ .valueString then
      .error (illegalArgument "Header fields must be strings")
    else if event.currentName = some "iv" then
      if fields.iv ≠ none then .error (illegalArgument "Duplicate 'iv' field")
      else
        match events with
        | [] => .error (if failure then ended failure else nullPointer)
        | next :: events => parseFields failure { fields with iv := next.token.asString } events
    else
      match readField event.currentName value.text fields with
      | .error e => .error e
      | .ok fields => parseFields failure fields events

def newHeaderParameters (fields : HeaderFields) : Except JavaException HeaderParameters :=
  match fields.alg with
  | none => .error (illegalArgument "alg is required")
  | some alg => .ok { alg := alg, enc := fields.enc, iv := fields.iv }

/-- The first token is passed over. -/
def parseParams (stream : JsonStream) : Except JavaException HeaderParameters :=
  parseFields stream.failure {} stream.events.tail >>= newHeaderParameters

def create (json : JsonFactory) (header : String) : Except JavaException JwtHeader := do
  let bytes ← urlDecode (utf8Encode header)
  let parameters ← parseParams (json.parse bytes)
  return { bytes := bytes, parameters := parameters }

def createFor (json : JsonFactory) (signer : Signer) : Except JavaException JwtHeader := do
  let alg ← sigAlg signer.algorithm
  return { bytes := serializeParams json { alg := alg }, parameters := { alg := alg } }

/-- The header of an encrypted token. Its initialisation vector is not optional. -/
def createWith (json : JsonFactory) (alg enc : Option String) (iv : Option (List UInt8)) :
    Except JavaException JwtHeader := do
  let iv ← iv.elim (.error nullPointer) urlEncode
  let iv ← utf8Decode iv
  let parameters ← newHeaderParameters { alg := alg, enc := enc, iv := some iv }
  return { bytes := serializeParams json parameters, parameters := parameters }

end JwtHeaderHelper

namespace Jwt

def period : UInt8 := 46

def signingInput (header content : List UInt8) : Except JavaException (List UInt8) := do
  let header ← urlEncode header
  let content ← urlEncode content
  return header ++ period :: content

def bytes (jwt : Jwt) : Except JavaException (List UInt8) := do
  let input ← signingInput jwt.header.bytes jwt.content
  let crypto ← urlEncode jwt.crypto
  return input ++ period :: crypto

def getEncoded (jwt : Jwt) : Except JavaException String := jwt.bytes >>= utf8Decode

def getClaims (jwt : Jwt) : Except JavaException String := utf8Decode jwt.content

/-- The constructor decodes the claims once. -/
def new (header : JwtHeader) (content crypto : List UInt8) : Except JavaException Jwt := do
  let _ ← utf8Decode content
  return { header := header, content := content, crypto := crypto }

def verifySignature (jwt : Jwt) (verifier : SignatureVerifier) : Except JavaException Unit := do
  let input ← signingInput jwt.header.bytes jwt.content
  verifier input jwt.crypto

end Jwt

namespace JwtHelper
open JwtHeaderHelper

def firstPeriod (token : List Char) : ℤ := if '.' ∈ token then token.idxOf '.' else -1

def lastPeriod (token : List Char) : ℤ :=
  if '.' ∈ token then token.length - 1 - token.reverse.idxOf '.' else -1

/-- The segment in front of the first period, that up to the last one, and what is behind. -/
def decode (json : JsonFactory) (token : String) : Except JavaException Jwt := do
  let chars := token.toList
  let first := firstPeriod chars
  let last := lastPeriod chars
  failIf (first ≤ 0 ∨ last ≤ first) (illegalArgument "JWT must have 3 tokens")
  let header ← create json (String.ofList (chars.take first.toNat))
  let claims ← urlDecode
    (utf8Encode (String.ofList ((chars.take last.toNat).drop (first.toNat + 1))))
  let emptyCrypto := last = chars.length - 1
  failIf (emptyCrypto ∧ header.parameters.alg ≠ "none")
    (illegalArgument "Signed or encrypted token must have non-empty crypto segment")
  let crypto ← urlDecode (utf8Encode (String.ofList (chars.drop (last.toNat + 1))))
  Jwt.new header claims crypto

def decodeAndVerify (json : JsonFactory) (token : String) (verifier : SignatureVerifier) :
    Except JavaException Jwt := do
  let jwt ← decode json token
  jwt.verifySignature verifier
  return jwt

def encode (json : JsonFactory) (content : String) (signer : Signer) :
    Except JavaException Jwt := do
  let header ← createFor json signer
  let claims := utf8Encode content
  let input ← Jwt.signingInput header.bytes claims
  let crypto ← signer.sign input
  Jwt.new header claims crypto

end JwtHelper

end MaxKey.OAuth2
