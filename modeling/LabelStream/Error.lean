import LabelStream.Image

/-! Everything that can go wrong outside a stream and around it. -/
namespace LabelStream

inductive Error where
  /-- A capture could not be downloaded. -/
  | fetch (detail : String)
  /-- A capture is larger than `limit`; `size` is what was declared or has been read. -/
  | tooLarge (size limit : Nat)
  | decode (fault : Fault)
  | image (error : ExportError)
  | server (detail : String)
  | invalidInput (detail : String)
  | io (detail : String)
  deriving Repr, DecidableEq

def Error.message : Error → String
  | fetch detail => "Fetch error: " ++ detail
  | tooLarge size limit =>
    "Capture too large: at least " ++ toString size ++ " bytes, limit is " ++ toString limit
  | decode fault => "Decode error: " ++ fault.message
  | image error => "Image error: " ++ error.message
  | server detail => "Server error: " ++ detail
  | invalidInput detail => "Invalid input: " ++ detail
  | io detail => "I/O error: " ++ detail

end LabelStream
