import LabelStream.Proofs.Answers
import LabelStream.Proofs.HighWater

/-! What the headers of a picture say. They measure the decode, and the picture is cut out of its
surface, which may be smaller. -/
namespace LabelStream

/-- A surface keeps the bound that it was made with. -/
theorem decode_bound (o : Options) (capture : Octets) :
    (decode o capture).decoded.surface.maxWidth = o.maxWidth ∧
      (decode o capture).decoded.surface.maxHeight = o.maxHeight := by
  obtain ⟨sink, budgets, hd⟩ := decode_reached o capture
  have painted : (decode o capture).decoded.surface =
      (Surface.blank o.maxWidth o.maxHeight).paintAll (strips (Session.history o capture budgets)) := by
    rw [hd]
    exact Session.reached_surface o sink capture budgets
  rw [painted]
  exact Surface.paintAll_bound _ _

theorem Decoded.export?_ok {d : Decoded} {image : GrayImage} (h : d.export? = .ok image) :
    image = d.surface.image d.width d.height := by
  unfold Decoded.export? Surface.export? at h
  simp only at h
  split at h
  · cases h
  · cases h
    rfl

/-- What the headers of a picture tell about the decode that it comes from. -/
def Outcome.headers (x : Outcome) : Http.ImageHeaders :=
  ⟨x.decoded.width, x.decoded.height, x.decoded.halt.message, x.fault?.map Fault.message⟩

namespace Http

theorem imageResponse_png {d : Decoded} {error : Option Fault} {image : GrayImage}
    (h : (imageResponse d error).body = .png image) :
    (imageResponse d error).image = some ⟨d.width, d.height, d.halt.message, error.map Fault.message⟩ ∧
      image = d.surface.image d.width d.height := by
  unfold imageResponse at h ⊢
  cases he : d.export? with
  | error e =>
      rw [he] at h
      cases h
  | ok picture =>
      rw [he] at h
      cases h
      exact ⟨rfl, Decoded.export?_ok he⟩

theorem readOnly_png {r : Request} {answer : Response} {image : GrayImage}
    (h : (Server.readOnly r answer).body = .png image) : Server.readOnly r answer = answer := by
  unfold Server.readOnly at h
  split at h
  next get => exact if_pos get
  next =>
    split at h
    · cases h
    · cases h

theorem writing_png {r : Request} {answer : Response} {image : GrayImage}
    (h : (Server.writing r answer).body = .png image) : Server.writing r answer = answer := by
  unfold Server.writing at h
  split at h
  next post => exact if_pos post
  next => cases h

namespace Server

variable (s : Server) (reply : String → Reply) (r : Request)

/-- The captures that a request can stand for: its own body, or what its address gives. -/
inductive Asks (q : Query) : Octets → Prop
  | upload (fits : r.body.length ≤ s.maxBodyBytes) : Asks q r.body
  | fetch {url : String} {capture : Octets} (address : q.url = some url)
      (brought : download url s.maxBodyBytes (reply url) = .ok capture) : Asks q capture

/-- The answer is the picture of a capture that the request stands for, decoded as its query says. -/
def Pictures (answer : Response) : Prop :=
  ∃ q o capture, Query.parse? r.query = some q ∧ q.options s.defaults = .ok o ∧
    s.Asks reply r q capture ∧ answer = previewAnswer q o capture

variable {s reply r} {image : GrayImage}

theorem preview_png (h : (s.preview r).body = .png image) : s.Pictures reply r (s.preview r) := by
  unfold preview at h ⊢
  rcases s.upload_cases r previewAnswer with
    ⟨status, content, refused⟩ | ⟨q, o, reads, options, fits, answered⟩
  · rw [refused] at h
    cases h
  · exact ⟨q, o, r.body, reads, options, .upload fits, answered⟩

theorem trace_not_png : (s.trace r).body ≠ .png image := by
  intro h
  unfold trace at h
  rcases s.upload_cases r traceAnswer with ⟨status, content, refused⟩ | ⟨q, o, _, _, _, answered⟩
  · rw [refused] at h
    cases h
  · rw [answered] at h
    cases h

theorem fetch_png (h : (s.fetch reply r).body = .png image) :
    s.Pictures reply r (s.fetch reply r) := by
  rcases s.fetch_cases reply r with
    ⟨status, content, refused⟩ | ⟨q, o, url, capture, reads, options, named, brought, answered⟩
  · rw [refused] at h
    cases h
  · rw [answered] at h ⊢
    cases hf : q.asked with
    | json =>
        rw [hf] at h
        cases h
    | png => exact ⟨q, o, capture, reads, options, .fetch named brought, rfl⟩

/-- Where there is a picture, it is one of the decode that was asked for. -/
theorem respond_png (h : (s.respond reply r).body = .png image) :
    s.Pictures reply r (s.respond reply r) := by
  unfold respond at h ⊢
  split at h
  next =>
    rw [readOnly_png h] at h
    cases h
  next =>
    have answered := writing_png h
    rw [answered] at h ⊢
    exact preview_png h
  next =>
    rw [writing_png h] at h
    exact absurd h trace_not_png
  next =>
    have answered := readOnly_png h
    rw [answered] at h ⊢
    exact fetch_png h
  next => cases h

theorem previewAnswer_eq (q : Query) (o : Options) (capture : Octets) :
    previewAnswer q o capture =
      imageResponse (decode o capture).decoded (decode o capture).fault? := by
  rw [previewAnswer, runJob_eq]

/-- A query has no say in the bound of the surface. -/
theorem options_bound {q : Query} {defaults o : Options} (h : q.options defaults = .ok o) :
    o.maxWidth = defaults.maxWidth ∧ o.maxHeight = defaults.maxHeight := by
  unfold Query.options at h
  rcases q with ⟨name, filler, lenient, compressed, trace, url, format⟩
  cases name with
  | none =>
      cases h
      exact ⟨rfl, rfl⟩
  | some name =>
      cases hm : Model.parse name with
      | error unknown =>
          simp only [hm] at h
          cases h
      | ok model =>
          simp only [hm] at h
          cases h
          exact ⟨rfl, rfl⟩

/-- The headers of a picture give the extent of the decode. The picture itself is cut to the bound of
the server's surfaces, so the two agree just if the decode stayed within it. -/
theorem picture_headers (h : (s.respond reply r).body = .png image) :
    let maxWidth := s.defaults.maxWidth % imageSizes
    let maxHeight := s.defaults.maxHeight % imageSizes
    ∃ headers, (s.respond reply r).image = some headers ∧
      image.width = min headers.width maxWidth ∧ image.height = min headers.height maxHeight ∧
      (headers.width = image.width ∧ headers.height = image.height ↔
        headers.width ≤ maxWidth ∧ headers.height ≤ maxHeight) ∧
      ∃ q o capture, Query.parse? r.query = some q ∧ q.options s.defaults = .ok o ∧
        s.Asks reply r q capture ∧ headers = (decode o capture).headers := by
  intro maxWidth maxHeight
  obtain ⟨q, o, capture, reads, options, asks, answered⟩ := respond_png h
  rw [answered, previewAnswer_eq] at h
  obtain ⟨headers, rfl⟩ := imageResponse_png h
  have width : (decode o capture).decoded.surface.maxWidth = s.defaults.maxWidth :=
    (decode_bound o capture).1.trans (options_bound options).1
  have height : (decode o capture).decoded.surface.maxHeight = s.defaults.maxHeight :=
    (decode_bound o capture).2.trans (options_bound options).2
  rw [answered, previewAnswer_eq]
  simp only [Surface.image, width, height]
  refine ⟨_, headers, rfl, rfl, ?_, q, o, capture, reads, options, asks, rfl⟩
  exact and_congr left_eq_inf left_eq_inf

def standard : Server := ⟨standardBodyLimit, .standard⟩

/-- A request for the picture of a capture, with nothing chosen. -/
def plainPreview (capture : Octets) : Request := ⟨"POST", "/api/decode/preview", capture⟩

theorem plainPreview_path (capture : Octets) :
    (plainPreview capture).path = Format.png.endpoint := by
  simp only [plainPreview, Request.path, Request.target]
  decide +kernel

theorem plainPreview_query (capture : Octets) :
    Query.parse? (plainPreview capture).query = some .empty := by
  simp only [plainPreview, Request.query, Request.target]
  decide +kernel

theorem respond_plainPreview (reply : String → Reply) {capture : Octets}
    (fits : capture.length ≤ standardBodyLimit) :
    standard.respond reply (plainPreview capture) =
      imageResponse (decode .standard capture).decoded (decode .standard capture).fault? := by
  have options : Query.empty.options standard.defaults = .ok .standard := rfl
  have within : ¬ standard.maxBodyBytes < (plainPreview capture).body.length := Nat.not_lt_of_le fits
  rw [standard.respond_upload reply rfl (plainPreview_path capture),
    standard.upload_accepted (plainPreview_query capture) options, if_neg within]
  exact previewAnswer_eq Query.empty .standard capture

def oneStrip : Octets := [0x1B, 0x40, 0x47, 0x01, 0x00, 0xFF]

theorem oneStrip_headers : ∃ image,
    (standard.respond Reply.silence (plainPreview oneStrip)).body = .png image ∧
    (standard.respond Reply.silence (plainPreview oneStrip)).image =
      some ⟨1, 8, "end of stream", none⟩ ∧
    image.width = 1 ∧ image.height = 8 := by
  have hf : ((Decoder.opened .standard oneStrip).walk .standard 2).1.isFinished = true := rfl
  have result := decode_result .standard oneStrip hf
  have answered : ∃ image,
      (standard.respond Reply.silence (plainPreview oneStrip)).body = .png image ∧
      (standard.respond Reply.silence (plainPreview oneStrip)).image =
        some ⟨1, 8, "end of stream", none⟩ := by
    rw [respond_plainPreview _ (by decide), decode_decoded result, decode_fault result]
    exact ⟨_, rfl, rfl⟩
  obtain ⟨image, body, shown⟩ := answered
  obtain ⟨headers, hheaders, width, height, _⟩ := picture_headers body
  rw [shown] at hheaders
  cases hheaders
  exact ⟨image, body, shown, width, height⟩

/-- A strip, and a move to the right of it that leaves the bound of a standard surface. -/
def farMove : Octets := oneStrip ++ [0x1B, 0x5C, 0xFF, 0xFF]

theorem farMove_headers : ∃ image,
    (standard.respond Reply.silence (plainPreview farMove)).body = .png image ∧
    (standard.respond Reply.silence (plainPreview farMove)).status = 200 ∧
    (standard.respond Reply.silence (plainPreview farMove)).image =
      some ⟨65536, 8, "end of stream", none⟩ ∧
    image.width = 16384 ∧ image.height = 8 := by
  have hf : ((Decoder.opened .standard farMove).walk .standard 3).1.isFinished = true := rfl
  have result := decode_result .standard farMove hf
  rw [respond_plainPreview _ (by decide), decode_decoded result, decode_fault result]
  exact ⟨_, rfl, rfl, rfl, rfl, rfl⟩

end Server
end Http
end LabelStream
