import ServiceCall.Http.Request

/-!
The edge to the network. What is checked of a request before a connection is made for it: the header
fields must be writable and the URL must be one of the web's own schemes with a host. What is kept
of the header fields that arrive with a response.
-/

namespace ServiceCall.Wire

/-- Whether a header value may be sent: it holds no control character but the tab. -/
def isFieldValue (value : String) : Bool :=
  value.toList.all fun c => c == '\t' || (0x20 ≤ c.toNat && c.toNat != 0x7F)

/-- Whether all header fields of a request may be sent. -/
def fieldsAreValid (headers : Headers) : Bool :=
  headers.entries.all fun (name, values) =>
    values.isEmpty || (isToken name && values.all isFieldValue)

/-- Encoded text as it is meant, if that is UTF-8. -/
def meant? (encoded : String) : Option (List Char) :=
  (Utf8.decode (Url.percentDecode encoded.toList)).toOption

/--
The URL as it is sent. Credentials become a header field and are left out, but those that are not
UTF-8 stay where they are.
-/
def withoutCredentials (url : Url) : Url :=
  match meant? url.username, url.password?.bind meant? with
  | none, _ | some [], none => url
  | _, _ => { url with username := "", password := "" }

/-- The failure met before connecting, if there is one. -/
def refusal? (request : Request) : Option TransportFault :=
  let url := request.uri
  if url.hostText?.isNone then some ⟨.building, some url.text⟩
  else if !fieldsAreValid request.headers then some ⟨.building, none⟩
  else if url.scheme = "http" ∨ url.scheme = "https" then none
  else some ⟨.building, some (withoutCredentials url).text⟩

/-- A field name as it arrives, in lower case. -/
def fieldName (name : String) : String :=
  String.ofList (name.toList.map Char.toLower)

/-- The header fields that arrived; what is not UTF-8 in a value is replaced. -/
def received (fields : List (String × List UInt8)) : Headers :=
  .ofList (fields.map fun (name, value) =>
    (fieldName name, String.ofList (Utf8.decodeLenient value)))

end ServiceCall.Wire
