import LabelStream.Http.Endpoint
import LabelStream.Proofs.Steering
import LabelStream.Proofs.Turns

/-! What the server answers to a capture. Nothing in an answer shows how the capture came, whole with the
request or in pieces from elsewhere. -/
namespace LabelStream

/-- The reply succeeds and brings these octets, in whatever pieces, with or without their number. -/
inductive Reply.Brings (capture : Octets) : Reply → Prop
  | sized {status : Nat} {chunks : List Octets} (success : isSuccess status = true)
      (pieces : chunks.flatten = capture) :
      Brings capture (.response status (some capture.length) chunks)
  | unsized {status : Nat} {chunks : List Octets} (success : isSuccess status = true)
      (pieces : chunks.flatten = capture) : Brings capture (.response status none chunks)

theorem gather_whole {limit : Nat} {got : Octets} {chunks : List Octets}
    (h : got.length + chunks.flatten.length ≤ limit) :
    gather limit got chunks = .ok (got ++ chunks.flatten) := by
  induction chunks generalizing got with
  | nil => exact congrArg Except.ok (List.append_nil got).symm
  | cons chunk chunks ih =>
      rw [List.flatten_cons, List.length_append] at h
      have fits : ¬ limit < got.length + chunk.length := by omega
      simp only [gather, if_neg fits]
      rw [ih (by rw [List.length_append]; omega), List.flatten_cons, List.append_assoc]

theorem gather_tooLarge {limit : Nat} {got : Octets} {chunks : List Octets} (room : got.length ≤ limit)
    (h : limit < got.length + chunks.flatten.length) :
    ∃ size, gather limit got chunks = .error (.tooLarge size limit) := by
  induction chunks generalizing got with
  | nil =>
      rw [List.flatten_nil, List.length_nil] at h
      omega
  | cons chunk chunks ih =>
      rw [List.flatten_cons, List.length_append] at h
      simp only [gather]
      split
      · exact ⟨_, rfl⟩
      next fits =>
        apply ih
        · rw [List.length_append]
          omega
        · rw [List.length_append]
          omega

namespace Reply.Brings

variable {capture : Octets} {reply : Reply} {limit : Nat}

theorem download_ok (h : reply.Brings capture) (url : String) (fits : capture.length ≤ limit) :
    download url limit reply = .ok capture := by
  have whole : ∀ chunks : List Octets, chunks.flatten = capture →
      gather limit [] chunks = .ok capture := by
    rintro chunks rfl
    have room : ([] : Octets).length + chunks.flatten.length ≤ limit := by
      rw [List.length_nil, Nat.zero_add]
      exact fits
    exact gather_whole room
  cases h with
  | sized success pieces =>
      simp only [download, bodyOf, success, Bool.not_true, Bool.false_eq_true, if_false,
        if_neg (Nat.not_lt_of_le fits)]
      exact whole _ pieces
  | unsized success pieces =>
      simp only [download, bodyOf, success, Bool.not_true, Bool.false_eq_true, if_false]
      exact whole _ pieces

theorem download_tooLarge (h : reply.Brings capture) (url : String) (exceeds : limit < capture.length) :
    ∃ size, download url limit reply = .error (.tooLarge size limit) := by
  cases h with
  | sized success pieces =>
      simp only [download, bodyOf, success, Bool.not_true, Bool.false_eq_true, if_false, if_pos exceeds]
      exact ⟨capture.length, rfl⟩
  | unsized success pieces =>
      simp only [download, bodyOf, success, Bool.not_true, Bool.false_eq_true, if_false]
      refine gather_tooLarge (Nat.zero_le _) ?_
      rw [pieces, List.length_nil, Nat.zero_add]
      exact exceeds

end Reply.Brings

namespace Http

/-- A job of the server is a plain decode. -/
theorem runJob_eq (o : Options) (capture : Octets) :
    runJob o capture = ((decode o capture).decoded, (decode o capture).fault?) := by
  rw [runJob, Job.drive_alone, Outcome.decoded, Outcome.fault?]
  cases (decode o capture).result <;> rfl

def Format.endpoint : Format → String
  | png => "/api/decode/preview"
  | json => "/api/decode/trace"

def Format.answer : Format → Query → Options → Octets → Response
  | png => Server.previewAnswer
  | json => Server.traceAnswer

def Query.asked (q : Query) : Format := q.format.getD .png

theorem decodeStatus_cases (error : Option Fault) :
    decodeStatus error = 200 ∨ decodeStatus error = 422 := by
  cases error with
  | none => exact .inl rfl
  | some fault => exact .inr rfl

theorem imageResponse_status (d : Decoded) (error : Option Fault) :
    (imageResponse d error).status = 200 ∨ (imageResponse d error).status = 422 := by
  unfold imageResponse
  split
  · exact .inr rfl
  · exact decodeStatus_cases error

/-- A decode is never answered by a refusal. -/
theorem Format.answer_status (format : Format) (q : Query) (o : Options) (capture : Octets) :
    (format.answer q o capture).status = 200 ∨ (format.answer q o capture).status = 422 := by
  cases format with
  | png => exact imageResponse_status _ _
  | json => exact decodeStatus_cases _

namespace Server

variable (s : Server) (reply : String → Reply) {r : Request} {q : Query} {o : Options}

/-- The query can be read and makes sense: it names an address and no unknown model. -/
structure Accepts (text : String) (q : Query) (o : Options) (url : String) : Prop where
  reads : Query.parse? text = some q
  options : q.options s.defaults = .ok o
  address : q.url = some url
  web : Source.isWeb url = true

theorem upload_accepted (reads : Query.parse? r.query = some q) (options : q.options s.defaults = .ok o)
    (answer : Query → Options → Octets → Response) :
    s.upload r answer =
      if s.maxBodyBytes < r.body.length then .text 413 "The body exceeds the limit"
      else answer q o r.body := by
  simp only [upload, reads, options]

theorem fetch_accepted {url : String} (h : s.Accepts r.query q o url) :
    s.fetch reply r =
      match download url s.maxBodyBytes (reply url) with
      | .error (.tooLarge size limit) => .text 413 (Error.tooLarge size limit).message
      | .error e => .text 502 e.message
      | .ok capture => q.asked.answer q o capture := by
  have named : q.url.filter Source.isWeb = some url := by
    rw [h.address, Option.filter_some_pos h.web]
  simp only [fetch, h.reads, named, h.options, Query.asked]
  rcases download url s.maxBodyBytes (reply url) with e | capture
  · cases e <;> rfl
  · cases q.format.getD .png <;> rfl

/-- An upload is refused in words, or it is answered with its body, decoded as the query says. -/
theorem upload_cases (r : Request) (answer : Query → Options → Octets → Response) :
    (∃ status content, s.upload r answer = .text status content) ∨
    ∃ q o, Query.parse? r.query = some q ∧ q.options s.defaults = .ok o ∧
      r.body.length ≤ s.maxBodyBytes ∧ s.upload r answer = answer q o r.body := by
  unfold upload
  cases Query.parse? r.query with
  | none => exact .inl ⟨_, _, rfl⟩
  | some q =>
      simp only
      split
      · exact .inl ⟨_, _, rfl⟩
      next fits =>
        cases options : q.options s.defaults with
        | error unknown => exact .inl ⟨_, _, rfl⟩
        | ok o => exact .inr ⟨q, o, rfl, options, Nat.le_of_not_lt fits, rfl⟩

/-- A download is refused in words, or it is answered with the capture that it gave. -/
theorem fetch_cases (r : Request) :
    (∃ status content, s.fetch reply r = .text status content) ∨
    ∃ q o url capture, Query.parse? r.query = some q ∧ q.options s.defaults = .ok o ∧
      q.url = some url ∧ download url s.maxBodyBytes (reply url) = .ok capture ∧
      s.fetch reply r = q.asked.answer q o capture := by
  unfold fetch
  cases Query.parse? r.query with
  | none => exact .inl ⟨_, _, rfl⟩
  | some q =>
      cases address : q.url.filter Source.isWeb with
      | none =>
          simp only [address]
          exact .inl ⟨_, _, rfl⟩
      | some url =>
          have named : q.url = some url := (Option.filter_eq_some_iff.mp address).1
          simp only [address]
          cases options : q.options s.defaults with
          | error unknown => exact .inl ⟨_, _, rfl⟩
          | ok o =>
              cases brought : download url s.maxBodyBytes (reply url) with
              | error e => cases e <;> exact .inl ⟨_, _, rfl⟩
              | ok capture =>
                  refine .inr ⟨q, o, url, capture, rfl, options, named, brought, ?_⟩
                  rw [Query.asked]
                  cases q.format.getD .png <;> rfl

theorem respond_fetch (get : r.method = "GET") (path : r.path = "/api/decode/fetch") :
    s.respond reply r = s.fetch reply r := by
  simp only [respond, path, readOnly, get, beq_self_eq_true, if_true]

theorem respond_upload {format : Format} (post : r.method = "POST") (path : r.path = format.endpoint) :
    s.respond reply r = s.upload r format.answer := by
  cases format with
  | png =>
      simp only [respond, path, Format.endpoint, writing, post, beq_self_eq_true, if_true]
      rfl
  | json =>
      simp only [respond, path, Format.endpoint, writing, post, beq_self_eq_true, if_true]
      rfl

end Server

namespace Request

/-- The request asks for the decode of a capture that the query names. -/
structure Fetches (text : String) (r : Request) : Prop where
  method : r.method = "GET"
  path : r.path = "/api/decode/fetch"
  query : r.query = text

/-- The request brings its capture along. -/
structure Uploads (format : Format) (text : String) (capture : Octets) (r : Request) : Prop where
  method : r.method = "POST"
  path : r.path = format.endpoint
  query : r.query = text
  body : r.body = capture

end Request

namespace Server

variable (s : Server) {reply : String → Reply} {text url : String} {q : Query} {o : Options}
  {named brought : Request} {capture : Octets}

/-- A capture that is downloaded is answered as one that is uploaded, and refused where that is. -/
theorem fetch_like_upload (accepts : s.Accepts text q o url) (fetches : named.Fetches text)
    (uploads : brought.Uploads q.asked text capture) (brings : (reply url).Brings capture) :
    (capture.length ≤ s.maxBodyBytes →
      s.respond reply named = s.respond reply brought ∧
      ((s.respond reply named).status = 200 ∨ (s.respond reply named).status = 422)) ∧
    (s.maxBodyBytes < capture.length →
      (s.respond reply named).status = 413 ∧ (s.respond reply brought).status = 413) := by
  obtain ⟨get, fetchPath, rfl⟩ := fetches
  obtain ⟨post, uploadPath, query, rfl⟩ := uploads
  have reads : Query.parse? brought.query = some q := query ▸ accepts.reads
  have hfetch := (s.respond_fetch reply get fetchPath).trans (s.fetch_accepted reply accepts)
  have hupload := (s.respond_upload reply post uploadPath).trans
    (s.upload_accepted reads accepts.options q.asked.answer)
  constructor
  · intro fits
    rw [brings.download_ok url fits] at hfetch
    rw [if_neg (Nat.not_lt_of_le fits)] at hupload
    rw [hfetch, hupload]
    exact ⟨rfl, q.asked.answer_status q o brought.body⟩
  · intro exceeds
    obtain ⟨size, refused⟩ := brings.download_tooLarge url exceeds
    rw [refused] at hfetch
    rw [if_pos exceeds] at hupload
    rw [hfetch, hupload]
    exact ⟨rfl, rfl⟩

/-- A server with standard options and little room. -/
def narrow (room : Nat) : Server := ⟨room, .standard⟩

/-- Every address gives a blank line and the zero byte, in two pieces. -/
def twoPieces (_ : String) : Reply := .response 200 none [[0x1B, 0x40, 0x5A], [0x00]]

theorem twoPieces_like_upload :
    let text := "url=http://host/job&format=json&model=ql500"
    let named : Request := ⟨"GET", "/api/decode/fetch?" ++ text, []⟩
    let brought : Request := ⟨"POST", "/api/decode/trace?" ++ text, [0x1B, 0x40, 0x5A, 0x00]⟩
    (narrow 4).respond twoPieces named = (narrow 4).respond twoPieces brought ∧
      ((narrow 3).respond twoPieces named).status = 413 ∧
      ((narrow 3).respond twoPieces brought).status = 413 := by
  intro text named brought
  let q : Query :=
    { Query.empty with
      model := some "ql500", url := some "http://host/job", format := some .json }
  have accepts : ∀ room, (narrow room).Accepts text q { Options.standard with model := .ql500 }
      "http://host/job" := by
    intro room
    refine ⟨?reads, ?options, ?address, ?web⟩
    case reads => decide +kernel
    case options => rfl
    case address => rfl
    case web => decide +kernel
  have fetches : named.Fetches text := ⟨rfl, by decide +kernel, by decide +kernel⟩
  have uploads : brought.Uploads q.asked text [0x1B, 0x40, 0x5A, 0x00] :=
    ⟨rfl, by decide +kernel, by decide +kernel, rfl⟩
  have brings : (twoPieces "http://host/job").Brings [0x1B, 0x40, 0x5A, 0x00] := .unsized rfl rfl
  refine ⟨?fits, ?exceeds⟩
  case fits => exact ((narrow 4).fetch_like_upload (accepts 4) fetches uploads brings).1 (by decide) |>.1
  case exceeds => exact ((narrow 3).fetch_like_upload (accepts 3) fetches uploads brings).2 (by decide)

end Server
end Http
end LabelStream
