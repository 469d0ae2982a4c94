import LabelStream.Error
import LabelStream.WebAddress

/-! Where captures come from: standard input, a file, or a download of limited size. -/
namespace LabelStream

inductive Source where
  | stdin
  | file (path : String)
  | url (address : String)
  deriving Repr, DecidableEq

namespace Source

def isWeb (address : String) : Bool :=
  address.startsWith "http://" || address.startsWith "https://"

def parse (input : String) : Source :=
  if input == "-" then stdin else if isWeb input then url input else file input

def label : Source → String
  | stdin => "stdin"
  | file path => path
  | url address => address

end Source

inductive Reply where
  /-- No answer came. -/
  | unreachable (detail : String)
  /-- A status, the length that was declared, and the body as it arrives. -/
  | response (status : Nat) (declared : Option Nat) (chunks : List Octets)
  /-- The same, but the connection fails behind these chunks. -/
  | brokenOff (status : Nat) (declared : Option Nat) (chunks : List Octets) (detail : String)

/-- No answer comes from an address, or none is asked for since it makes no sense. -/
def Reply.silence (address : String) : Reply :=
  let reason := match WebAddress.parse? address with
    | some read =>
      (if read.asked.canBeAsked then "error sending request" else "builder error") ++ " for url (" ++
        read.asked.text ++ ")"
    | none => "builder error"
  .unreachable reason

def reasonPhrase : Nat → String
  | 100 => "Continue"
  | 101 => "Switching Protocols"
  | 102 => "Processing"
  | 103 => "Early Hints"
  | 200 => "OK"
  | 201 => "Created"
  | 202 => "Accepted"
  | 203 => "Non Authoritative Information"
  | 204 => "No Content"
  | 205 => "Reset Content"
  | 206 => "Partial Content"
  | 207 => "Multi-Status"
  | 208 => "Already Reported"
  | 226 => "IM Used"
  | 300 => "Multiple Choices"
  | 301 => "Moved Permanently"
  | 302 => "Found"
  | 303 => "See Other"
  | 304 => "Not Modified"
  | 305 => "Use Proxy"
  | 307 => "Temporary Redirect"
  | 308 => "Permanent Redirect"
  | 400 => "Bad Request"
  | 401 => "Unauthorized"
  | 402 => "Payment Required"
  | 403 => "Forbidden"
  | 404 => "Not Found"
  | 405 => "Method Not Allowed"
  | 406 => "Not Acceptable"
  | 407 => "Proxy Authentication Required"
  | 408 => "Request Timeout"
  | 409 => "Conflict"
  | 410 => "Gone"
  | 411 => "Length Required"
  | 412 => "Precondition Failed"
  | 413 => "Payload Too Large"
  | 414 => "URI Too Long"
  | 415 => "Unsupported Media Type"
  | 416 => "Range Not Satisfiable"
  | 417 => "Expectation Failed"
  | 418 => "I'm a teapot"
  | 421 => "Misdirected Request"
  | 422 => "Unprocessable Entity"
  | 423 => "Locked"
  | 424 => "Failed Dependency"
  | 425 => "Too Early"
  | 426 => "Upgrade Required"
  | 428 => "Precondition Required"
  | 429 => "Too Many Requests"
  | 431 => "Request Header Fields Too Large"
  | 451 => "Unavailable For Legal Reasons"
  | 500 => "Internal Server Error"
  | 501 => "Not Implemented"
  | 502 => "Bad Gateway"
  | 503 => "Service Unavailable"
  | 504 => "Gateway Timeout"
  | 505 => "HTTP Version Not Supported"
  | 506 => "Variant Also Negotiates"
  | 507 => "Insufficient Storage"
  | 508 => "Loop Detected"
  | 510 => "Not Extended"
  | 511 => "Network Authentication Required"
  | _ => "<unknown status code>"

def isSuccess (status : Nat) : Bool := 200 ≤ status && status < 300

/-- Joins chunks until they are all there or exceed the limit. `got` holds what has arrived. -/
def gather (limit : Nat) (got : Octets) : List Octets → Except Error Octets
  | [] => .ok got
  | chunk :: rest =>
    let total := got.length + chunk.length
    if limit < total then .error (.tooLarge total limit) else gather limit (got ++ chunk) rest

/-- Takes a body if its status is a good one. A declared length that exceeds the limit is refused before
the body is looked at. -/
def bodyOf (url : String) (limit status : Nat) (declared : Option Nat) (body : Except Error Octets) :
    Except Error Octets :=
  if !isSuccess status then
    .error (.fetch (url ++ ": HTTP " ++ toString status ++ " " ++ reasonPhrase status))
  else
    match declared with
    | some size => if limit < size then .error (.tooLarge size limit) else body
    | none => body

/-- The capture that a reply brings, if it succeeds and is not larger than `limit`. -/
def download (url : String) (limit : Nat) : Reply → Except Error Octets
  | .unreachable detail => .error (.fetch (url ++ ": " ++ detail))
  | .response status declared chunks => bodyOf url limit status declared (gather limit [] chunks)
  | .brokenOff status declared chunks detail =>
    bodyOf url limit status declared do
      let _ ← gather limit [] chunks
      .error (.fetch (url ++ ": " ++ detail))

end LabelStream
