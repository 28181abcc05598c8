import TabularQuery.Query.Params
import TabularQuery.Service.Url

/-!
# Requests

The message to the service for a query: its method, its URL with the parameters of the
query, its headers and its body.

## Main definitions

* `Connection` — where the service is, and what it is shown.
* `Connection.request` — the request for a query.
* `RequestFault` — why there is none.
-/

namespace TabularQuery

/-- The methods of requests. -/
inductive Method where
  | get
  | head
  | post
  | patch
  | delete
  deriving DecidableEq, Repr

namespace Method

/-- The name of a method. -/
def name : Method → String
  | get => "GET"
  | head => "HEAD"
  | post => "POST"
  | patch => "PATCH"
  | delete => "DELETE"

/-- Whether a method only reads. -/
def isRead : Method → Bool
  | get | head => true
  | _ => false

/-- The method of a query. -/
def ofQuery (q : Query) : Method :=
  match q.action with
  | .select true => head
  | .select false => get
  | .insert _ => post
  | .update _ => patch
  | .delete => delete

end Method

/-- A request. -/
structure Request where
  method : Method
  url : Url
  /-- The headers that the service reads, by their names. -/
  headers : List (String × String)
  body : Option String := none
  deriving DecidableEq, Repr

/-- The path and the query, as they are sent. -/
def Request.target (r : Request) : List Char :=
  r.url.path.text ++
    match r.url.query with
    | some q => '?' :: q
    | none => []

/-- Why there is no request for a query. -/
inductive RequestFault where
  /-- The URL or a header cannot be written. -/
  | malformed
  /-- The URL is none that a request can be sent to. -/
  | unusable (url : Url)
  deriving DecidableEq, Repr

/-- The wording of a fault. -/
def RequestFault.message : RequestFault → String
  | malformed => "builder error"
  | unusable u => "builder error for url (" ++ String.ofList u.text ++ ")"

namespace Url

/-- Adds parameters to the query of a URL.  A query without anything in it is none. -/
def withParams (u : Url) (params : List (List Char × List Char)) : Url :=
  let added := Percent.formList params
  let query :=
    match u.query with
    | none | some [] => added
    | some q => if params.isEmpty then q else q ++ '&' :: added
  { u with query := if query.isEmpty then none else some query }

/-- The user and the password in a URL as texts, if there are any. -/
def credentials? (u : Url) : Option (List Char × Option (List Char)) := do
  let a ← u.authority
  let name ← Percent.text? (Percent.decode a.username)
  let password := a.password.bind fun p => Percent.text? (Percent.decode p)
  if name.isEmpty && password.isNone then none else some (name, password)

/-- A URL without a user and a password. -/
def withoutCredentials (u : Url) : Url :=
  { u with authority := u.authority.map fun a => { a with username := [], password := none } }

/-- Whether a request can be sent to a URL: its scheme must be one of the web, its text
not too long, and its host without quotes and braces. -/
def isUsable (u : Url) : Bool :=
  (u.scheme == "http".toList || u.scheme == "https".toList) && u.text.length ≤ 65534 &&
    !(hostText u.host?).any ['"', '\x60', '\x7b', '\x7d'].contains

end Url

/-! ## Headers -/

/-- Whether a text can be the value of a header: no control character but the tab. -/
def isHeaderValue (s : List Char) : Bool :=
  s.all fun c => c == '\t' || (0x20 ≤ c.toNat && c.toNat != 0x7F)

/-- The sixty-four digits of the code for bytes. -/
def base64Digit (n : Nat) : Char :=
  if n < 26 then Char.ofNat ('A'.toNat + n)
  else if n < 52 then Char.ofNat ('a'.toNat + (n - 26))
  else if n < 62 then Char.ofNat ('0'.toNat + (n - 52))
  else if n = 62 then '+' else '/'

/-- Bytes in digits of six bits, filled up with equals signs. -/
def base64 : List UInt8 → List Char
  | [] => []
  | [a] =>
    let n := a.toNat * 65536
    [base64Digit (n / 262144), base64Digit (n / 4096 % 64), '=', '=']
  | [a, b] =>
    let n := a.toNat * 65536 + b.toNat * 256
    [base64Digit (n / 262144), base64Digit (n / 4096 % 64), base64Digit (n / 64 % 64), '=']
  | a :: b :: c :: rest =>
    let n := a.toNat * 65536 + b.toNat * 256 + c.toNat
    [base64Digit (n / 262144), base64Digit (n / 4096 % 64), base64Digit (n / 64 % 64),
      base64Digit (n % 64)] ++ base64 rest

/-- The header value of a user and a password. -/
def basicCredentials (user : List Char) (password : Option (List Char)) : List Char :=
  "Basic ".toList ++
    base64 ((user ++ ':' :: password.getD []).flatMap String.utf8EncodeChar)

/-- Where the service is, and what it is shown. -/
structure Connection where
  base : String
  key : String
  schema : Option String := none
  deriving DecidableEq, Repr

namespace Connection

/-- The text of the base, without slashes at its end. -/
def baseText (c : Connection) : List Char :=
  (c.base.toList.reverse.dropWhile (· == '/')).reverse

/-- The place of a table, as a text. -/
def endpoint (c : Connection) (table : String) : List Char :=
  c.baseText ++ "/rest/v1/".toList ++ table.toList

/-- The form of an answer with one row. -/
def singleForm : String := "application/vnd.pgrst.object+json"

/-- The body of a request: the rows that are written. -/
def body? (q : Query) : Option String :=
  match q.action with
  | .insert rows => some (Json.print (.array (rows.map .object)))
  | .update values => some (Json.print (.object values))
  | _ => none

/-- The headers of a request, without those of the user in the URL. -/
def headers (c : Connection) (q : Query) : List (String × String) :=
  [("accept", if q.single then singleForm else "*/*")] ++
  (match c.schema with
   | some s => if (Method.ofQuery q).isRead then [("accept-profile", s)] else []
   | none => []) ++
  [("apikey", c.key), ("authorization", "Bearer " ++ c.key)] ++
  (match c.schema with
   | some s => if (Method.ofQuery q).isRead then [] else [("content-profile", s)]
   | none => []) ++
  (if (body? q).isSome then [("content-type", "application/json")] else []) ++
  ((q.prefer?).toList.map fun p => ("prefer", p))

/-- Whether the key and the name of the schema can be sent. -/
def isSendable (c : Connection) : Bool :=
  isHeaderValue c.key.toList && isHeaderValue (c.schema.getD "").toList

/-- The request for a query. -/
def request (c : Connection) (q : Query) : Except RequestFault Request := do
  let url ← (Url.read (c.endpoint q.table)).mapError fun _ => RequestFault.malformed
  if url.host?.isNone then .error (.unusable url)
  else if !c.isSendable then .error .malformed
  else
    let user := url.credentials?
    let url := (if user.isSome then url.withoutCredentials else url).withParams q.params
    if !url.isUsable then .error (.unusable url)
    else
      let basic := user.toList.map fun (name, password) =>
        ("authorization", String.ofList (basicCredentials name password))
      .ok
        { method := Method.ofQuery q
          url
          headers := c.headers q ++ basic
          body := body? q }

end Connection

end TabularQuery
