import LabelStream.Http.Query
import LabelStream.Http.Response
import LabelStream.Job
import LabelStream.Source

/-! The requests that a server answers. Downloads come from a function that gives the reply of any
address, so an answer depends on nothing but the request and that reply. -/
namespace LabelStream.Http

structure Server where
  /-- The largest capture that is accepted. -/
  maxBodyBytes : Nat
  /-- Options of requests that do not choose otherwise. -/
  defaults : Options

/-- Sixteen megabytes. -/
def standardBodyLimit : Nat := 16 * 1024 * 1024

structure Request where
  method : String
  uri : String
  body : Octets

namespace Request

/-- What follows a scheme and two slashes, if that is how an address begins. -/
def afterScheme? (address : List Char) : Option (List Char) :=
  let (scheme, rest) := (address.takeWhile (· != ':'), address.dropWhile (· != ':'))
  match rest with
  | ':' :: '/' :: '/' :: rest => if scheme.any (fun c => "/?".contains c) then none else some rest
  | _ => none

/-- Path and query of the address, its fragment and the host of an absolute address left aside. An
address that is only a host has neither. -/
def target (r : Request) : List Char :=
  let address := r.uri.toList.takeWhile (· != '#')
  match address with
  | '/' :: _ => address
  | _ =>
    match afterScheme? address with
    | none => []
    | some rest =>
      match rest.dropWhile fun c => c != '/' && c != '?' with
      | '/' :: path => '/' :: path
      | query => '/' :: query

def path (r : Request) : String := String.ofList (r.target.takeWhile (· != '?'))

def query (r : Request) : String := String.ofList ((r.target.dropWhile (· != '?')).drop 1)

end Request

/-- Gives a capture as many turns as it takes; what was drawn comes back with the fault, if any. -/
def runJob (o : Options) (capture : Octets) : Decoded × Option Fault :=
  match (Job.drive o none 0 (.start o capture)).outcome.result with
  | .ok decoded => (decoded, none)
  | .error failure => (failure.decoded, some failure.fault)

namespace Server

/-- Reads the query and the body of an upload and answers it by `answer`. -/
def upload (s : Server) (r : Request) (answer : Query → Options → Octets → Response) : Response :=
  match Query.parse? r.query with
  | none => .text 400 "The query string cannot be read"
  | some query =>
    if s.maxBodyBytes < r.body.length then .text 413 "The body exceeds the limit"
    else
      match query.options s.defaults with
      | .error unknown => .text 400 unknown.message
      | .ok options => answer query options r.body

def previewAnswer (_ : Query) (o : Options) (capture : Octets) : Response :=
  let (decoded, error) := runJob o capture
  imageResponse decoded error

/-- A report has a trace unless the query declines it. -/
def traceAnswer (q : Query) (o : Options) (capture : Octets) : Response :=
  let (decoded, error) := runJob { o with trace := q.trace.getD true } capture
  reportResponse decoded error

def preview (s : Server) (r : Request) : Response := s.upload r previewAnswer

def trace (s : Server) (r : Request) : Response := s.upload r traceAnswer

/-- Downloads a capture and decodes it as the query's format asks. -/
def fetch (s : Server) (reply : String → Reply) (r : Request) : Response :=
  match Query.parse? r.query with
  | none => .text 400 "The query string cannot be read"
  | some query =>
    match query.url.filter Source.isWeb with
    | none => .text 400 "Missing or invalid 'url' parameter"
    | some url =>
      match query.options s.defaults with
      | .error unknown => .text 400 unknown.message
      | .ok options =>
        match download url s.maxBodyBytes (reply url) with
        | .error (.tooLarge size limit) => .text 413 (Error.tooLarge size limit).message
        | .error e => .text 502 e.message
        | .ok capture =>
          match query.format.getD .png with
          | .png => previewAnswer query options capture
          | .json => traceAnswer query options capture

def models : Response := .json 200 (.array (Model.all.map Model.toJson))

/-- Answers a request that only reads. A `HEAD` is answered like a `GET`, without the body. -/
def readOnly (r : Request) (answer : Response) : Response :=
  if r.method == "GET" then answer
  else if r.method == "HEAD" then answer.headOnly
  else .bare 405

def writing (r : Request) (answer : Response) : Response :=
  if r.method == "POST" then answer else .bare 405

def respond (s : Server) (reply : String → Reply) (r : Request) : Response :=
  match r.path with
  | "/api/models" => readOnly r models
  | "/api/decode/preview" => writing r (s.preview r)
  | "/api/decode/trace" => writing r (s.trace r)
  | "/api/decode/fetch" => readOnly r (s.fetch reply r)
  | _ => .bare 404

end Server
end LabelStream.Http
