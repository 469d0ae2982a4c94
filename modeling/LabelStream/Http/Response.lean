import LabelStream.Report

/-! Answers to requests. -/
namespace LabelStream.Http

inductive Body where
  | empty
  | text (content : String)
  | json (value : Json)
  | png (image : GrayImage)

/-- What the headers of a picture tell about the decode that it comes from. -/
structure ImageHeaders where
  width : Nat
  height : Nat
  halt : String
  error : Option String
  deriving Repr, DecidableEq

structure Response where
  status : Nat
  contentType : Option String
  image : Option ImageHeaders
  body : Body

namespace Response

def bare (status : Nat) : Response := ⟨status, none, none, .empty⟩

def text (status : Nat) (content : String) : Response :=
  ⟨status, some "text/plain; charset=utf-8", none, .text content⟩

def json (status : Nat) (value : Json) : Response :=
  ⟨status, some "application/json", none, .json value⟩

def headOnly (r : Response) : Response := { r with body := .empty }

end Response

def decodeStatus (error : Option Fault) : Nat := if error.isSome then 422 else 200

def reportResponse (d : Decoded) (error : Option Fault) : Response :=
  .json (decodeStatus error) (Report.of d error).toJson

/-- Answers with the picture, or with a report where there is none. -/
def imageResponse (d : Decoded) (error : Option Fault) : Response :=
  match d.export? with
  | .error e => .json 422 ((Report.of d error).withoutImage e).toJson
  | .ok image =>
    ⟨decodeStatus error, some "image/png",
      some ⟨d.width, d.height, d.halt.message, error.map Fault.message⟩, .png image⟩

end LabelStream.Http
