import TabularQuery.Backend
import TabularQuery.Descriptor.Decode

/-!
# Replies

What the service replies to a request, and what it means: the rows and the count of an
answer, or a fault.

## Main definitions

* `HttpReply` — a reply, and `HttpReply.outcome`, what it means.
* `Decode.serviceFault` — the fault that a body describes.
* `countOfRanges` — the count in the headers of a reply.
-/

namespace TabularQuery

namespace Decode

/-- The fields of a fault. -/
def serviceFaultShape : Shape ServiceFault where
  name := "BackendError"
  fields :=
    [("code", fun s f => do return { f with code := ← optional text s }),
     ("message", fun s f => do return { f with message := ← text s }),
     ("details", fun s f => do return { f with details := ← optional text s }),
     ("hint", fun s f => do return { f with hint := ← optional text s })]

/-- The fault that the service describes. -/
def serviceFault (s : Json.Source) : Decode ServiceFault := do
  return (← ofShape serviceFaultShape {} s).1

end Decode

/-- The phrase for the status of a reply. -/
def statusPhrase : Nat → String
  | 100 => "Continue"
  | 101 => "Switching Protocols"
  | 102 => "Processing"
  | 103 => "Early Hints"
  | 200 => "OK"
  | 201 => "Created"
  | 202 => "Accepted"
  | 203 => "Non Authoritative Information"
  | 204 => "No Content"
  | 205 => "Reset Content"
  | 206 => "Partial Content"
  | 207 => "Multi-Status"
  | 208 => "Already Reported"
  | 226 => "IM Used"
  | 300 => "Multiple Choices"
  | 301 => "Moved Permanently"
  | 302 => "Found"
  | 303 => "See Other"
  | 304 => "Not Modified"
  | 305 => "Use Proxy"
  | 307 => "Temporary Redirect"
  | 308 => "Permanent Redirect"
  | 400 => "Bad Request"
  | 401 => "Unauthorized"
  | 402 => "Payment Required"
  | 403 => "Forbidden"
  | 404 => "Not Found"
  | 405 => "Method Not Allowed"
  | 406 => "Not Acceptable"
  | 407 => "Proxy Authentication Required"
  | 408 => "Request Timeout"
  | 409 => "Conflict"
  | 410 => "Gone"
  | 411 => "Length Required"
  | 412 => "Precondition Failed"
  | 413 => "Payload Too Large"
  | 414 => "URI Too Long"
  | 415 => "Unsupported Media Type"
  | 416 => "Range Not Satisfiable"
  | 417 => "Expectation Failed"
  | 418 => "I'm a teapot"
  | 421 => "Misdirected Request"
  | 422 => "Unprocessable Entity"
  | 423 => "Locked"
  | 424 => "Failed Dependency"
  | 425 => "Too Early"
  | 426 => "Upgrade Required"
  | 428 => "Precondition Required"
  | 429 => "Too Many Requests"
  | 431 => "Request Header Fields Too Large"
  | 451 => "Unavailable For Legal Reasons"
  | 500 => "Internal Server Error"
  | 501 => "Not Implemented"
  | 502 => "Bad Gateway"
  | 503 => "Service Unavailable"
  | 504 => "Gateway Timeout"
  | 505 => "HTTP Version Not Supported"
  | 506 => "Variant Also Negotiates"
  | 507 => "Insufficient Storage"
  | 508 => "Loop Detected"
  | 510 => "Not Extended"
  | 511 => "Network Authentication Required"
  | _ => "<unknown status code>"

/-- The text of a status: its number and its phrase. -/
def statusText (status : Nat) : String :=
  String.ofList (Text.digits status) ++ " " ++ statusPhrase status

/-- The text after the last slash of a text with one. -/
def afterLastSlash? (s : List Char) : Option (List Char) :=
  if s.contains '/' then some (s.reverse.takeWhile (· != '/')).reverse else none

/-- A count in decimal, perhaps with a plus sign, of 64 bits. -/
def readCount? (s : List Char) : Option Nat :=
  let digits :=
    match s with
    | '+' :: rest => rest
    | _ => s
  if digits.isEmpty || !digits.all Text.isDigit then none
  else
    let n := Text.readDigits digits
    if n ≤ 18446744073709551615 then some n else none

/-- The count in the ranges that a reply gives, of which the first counts: what comes after
its last slash. -/
def countOfRanges : List (List Char) → Option Nat
  | [] => none
  | range :: _ =>
    if range.all fun c => c == '\t' || (0x20 ≤ c.toNat && c.toNat < 0x7F) then
      (afterLastSlash? range).bind readCount?
    else none

/-- A reply to a request. -/
structure HttpReply where
  status : Nat := 200
  /-- The ranges that the headers give. -/
  ranges : List (List Char) := []
  /-- The body, unless it was broken off. -/
  body : Option String := some ""
  deriving DecidableEq, Repr

namespace HttpReply

/-- Whether the status is that of a success. -/
def isSuccess (r : HttpReply) : Bool :=
  200 ≤ r.status && r.status < 300

/-- The fault of a reply without success: the one that its body describes, or its status
with the body. -/
def fault (status : Nat) (body : String) : ServiceFault :=
  let described :=
    match (Decode.runText Decode.serviceFault body).1 with
    | .ok f => if !f.message.isEmpty || f.code.isSome then some f else none
    | .error _ => none
  match described with
  | some f => f
  | none =>
    .transport
      (if Text.allBlank body.toList then statusText status
       else statusText status ++ ": " ++ body)

/-- What a reply means. -/
def outcome (r : HttpReply) : Except ServiceFault Answer :=
  match r.body with
  | none => .error (.transport "error decoding response body")
  | some body =>
    if !r.isSuccess then .error (fault r.status body)
    else
      let count := countOfRanges r.ranges
      if Text.allBlank body.toList then .ok { count }
      else
        match Json.read body with
        | .ok data => .ok { data := some data, count }
        | .error f => .error (.transport ("invalid response body: " ++ f.message))

end HttpReply

end TabularQuery
