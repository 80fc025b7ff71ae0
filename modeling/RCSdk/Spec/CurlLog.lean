import RCSdk.Spec.Response
import RCSdk.Lib.Shell

/-!
# The log of a request (`NSMutableString+AXNetworkingMethods.m`)

`appendURLRequest:` appends the parts of a request to a log, and a cURL command for it. The header
fields are enumerated in the order of their list, which `NSDictionary` does not fix. How a
dictionary prints, and `RC_jsonString` of one, are parameters.
-/

namespace RCSdk

open Foundation

/-- A method token, which has no white space in it. -/
structure HTTPToken where
  text : String
  ne_empty : text ≠ ""
  unbroken : Shell.unbroken text.toList = true

/-- A URL, by the text it prints as, which has no white space in it. -/
structure NSURL where
  text : String
  unbroken : Shell.unbroken text.toList = true

/-- The header fields of a request. -/
structure HTTPHeaderFields where
  entries : List (String × String)
  nodup : (entries.map Prod.fst).Nodup

/-- A request, with what its log shows. -/
structure LoggedRequest extends NSURLRequest where
  URL : NSURL
  HTTPMethod : HTTPToken
  allHTTPHeaderFields : Option HTTPHeaderFields
  HTTPBody : Option NSData
  actualRequestParams : Option NSDictionary

/-- The header fields, none when there is no dictionary. -/
def LoggedRequest.fields (request : LoggedRequest) : List (String × String) :=
  request.allHTTPHeaderFields.elim [] HTTPHeaderFields.entries

/-- What `%@` prints for a text, or for `nil`. -/
def printed (text : Option String) : String := text.getD "(null)"

/-- The text of a string object. -/
def NSObject.string? (x : NSObject) : Option String :=
  match x.value with
  | .string s => some s
  | _ => none

/-- `data.length > 0`: bytes that are no text are there too. -/
def NSData.isNonempty (d : NSData) : Bool := d.utf8 != some ""

section Foundation

variable [Foundation]

/-- `[[[NSString alloc] initWithData:data encoding:NSUTF8StringEncoding]
RC_defaultValue:@"\t\t\t\tN/A"]`, with the empty string for no data. -/
def bodyText (data : Option NSData) : Option String :=
  let string := stringWithData (data.getD ⟨some "", none⟩)
  let string := RC_defaultValue string ⟨literalClass, .string "\t\t\t\tN/A"⟩
  string.bind NSObject.string?

/-- What the block appends for a header field. -/
def headerOption (field : String × String) : String :=
  " -H \"" ++ field.1 ++ ": " ++ field.2 ++ "\""

/-- What `appendURLRequest:` appends after `CURL:`. -/
def curlText (request : LoggedRequest) : String :=
  let headerString := String.join (request.fields.map headerOption)
  "\n\t curl" ++ " -X " ++ request.HTTPMethod.text ++
    (if headerString.length > 0 then headerString else "") ++
    (if request.HTTPBody.any NSData.isNonempty then
      " -d '" ++ printed (bodyText request.HTTPBody) ++ "'" else "") ++
    " " ++ request.URL.text

/-- `appendURLRequest:`. -/
def appendURLRequest (describe : HTTPHeaderFields → String) (RC_jsonString : NSDictionary → String)
    (log : String) (request : LoggedRequest) : String :=
  log ++ "\n\nHTTP URL:\n\t" ++ request.URL.text ++
    "\n\nHTTP Header:\n" ++ request.allHTTPHeaderFields.elim "\t\t\t\t\tN/A" describe ++
    "\n\nHTTP Origin Params:\n\t" ++ printed (request.originRequestParams.map RC_jsonString) ++
    "\n\nHTTP Actual Params:\n\t" ++ printed (request.actualRequestParams.map RC_jsonString) ++
    "\n\nHTTP Body:\n\t" ++ printed (bodyText request.HTTPBody) ++
    "\n\nCURL:" ++ curlText request

end Foundation

end RCSdk
