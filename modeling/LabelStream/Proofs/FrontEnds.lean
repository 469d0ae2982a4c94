import LabelStream.Proofs.Answers
import LabelStream.Proofs.Choices
import LabelStream.Proofs.Printing
import LabelStream.Proofs.PictureHeaders

/-! A picture by way of the command line and by way of the server. Each front end runs a job with options
of its own and has its own way of failing; what picture there is depends on neither. -/
namespace LabelStream

/-- Options that draw the same. They may differ in their batches, in the trace and in the hint. -/
structure Options.DrawsAlike (o o' : Options) : Prop extends Options.Alike o o' where
  maxWidth : o.maxWidth = o'.maxWidth
  maxHeight : o.maxHeight = o'.maxHeight

theorem Options.drawsAlike_of_choice {o o' : Options} (same : o.choice = o'.choice) : o.DrawsAlike o' := by
  obtain ⟨model, filler, lenient, width, height⟩ := Choice.mk.inj same
  exact ⟨⟨model, filler, lenient⟩, width, height⟩

theorem Decoder.opened_alike {o o' : Options} (h : o.DrawsAlike o') (capture : Octets) :
    opened o capture = opened o' capture := by
  rw [opened, opened, start, start, h.maxWidth, h.maxHeight]

theorem Decoder.walk_opened_alike {o o' : Options} (h : o.DrawsAlike o') (capture : Octets) (n : Nat) :
    (opened o' capture).walk o' n = (opened o capture).walk o n := by
  rw [← opened_alike h, ← walk_alike h.toAlike]

/-- The picture of a decode that came through, unless it is empty. -/
def Outcome.picture? (x : Outcome) : Option GrayImage :=
  match x.result with
  | .ok d => d.export?.toOption
  | .error _ => none

theorem Outcome.picture_cases (x : Outcome) :
    (∃ d image, x.result = .ok d ∧ d.export? = .ok image ∧ x.picture? = some image) ∨
    (∃ d e, x.result = .ok d ∧ d.export? = .error e ∧ x.picture? = none) ∨
    ∃ failure, x.result = .error failure ∧ x.picture? = none := by
  unfold Outcome.picture?
  cases x.result with
  | ok d =>
      cases he : d.export? with
      | ok image => exact .inl ⟨d, image, rfl, he, congrArg Except.toOption he⟩
      | error e => exact .inr (.inl ⟨d, e, rfl, he, congrArg Except.toOption he⟩)
  | error failure => exact .inr (.inr ⟨failure, rfl, rfl⟩)

theorem decode_picture {o : Options} {capture : Octets} {d : Decoder} {trace : Option (List Event)}
    (h : (decode o capture).result = d.result trace) :
    (decode o capture).picture? =
      if d.fault? = none then (d.decoded none).export?.toOption else none := by
  rcases d with ⟨phase, cursor, opcodes, pen, surface⟩
  rw [Outcome.picture?, h]
  cases phase <;> rfl

/-- The picture depends on nothing but the capture and the choices of how to draw. -/
theorem picture_alike {o o' : Options} (h : o.DrawsAlike o') (capture : Octets) :
    (decode o capture).picture? = (decode o' capture).picture? := by
  obtain ⟨n, hf⟩ := Decoder.exists_walk_finished o (Decoder.opened o capture)
  have walk := Decoder.walk_opened_alike h capture n
  have one := decode_result o capture hf
  rw [← walk] at hf
  have other := decode_result o' capture hf
  rw [decode_picture one, decode_picture other, walk]

namespace Http

def Response.Shows (answer : Response) : Option GrayImage → Prop
  | some image => answer.status = 200 ∧ answer.body = .png image
  | none => answer.status = 422

theorem imageResponse_shows (o : Options) (capture : Octets) :
    (imageResponse (decode o capture).decoded (decode o capture).fault?).Shows
      (decode o capture).picture? := by
  unfold imageResponse Outcome.decoded Outcome.fault?
  rcases (decode o capture).picture_cases with
    ⟨d, image, hr, he, hp⟩ | ⟨d, e, hr, he, hp⟩ | ⟨failure, hr, hp⟩
  · rw [hr, hp]
    simp only [he]
    exact ⟨rfl, rfl⟩
  · rw [hr, hp]
    simp only [he]
    rfl
  · rw [hr, hp]
    cases he : failure.decoded.export? with
    | ok image => rfl
    | error e => rfl

/-- An upload that is taken is answered by what its decode shows. -/
theorem Server.respond_upload_png (s : Server) (reply : String → Reply) {r : Request} {text : String}
    {q : Query} {o : Options} {capture : Octets} (uploads : r.Uploads .png text capture)
    (fits : capture.length ≤ s.maxBodyBytes) (reads : Query.parse? text = some q)
    (chosen : q.options s.defaults = .ok o) :
    s.respond reply r = imageResponse (decode o capture).decoded (decode o capture).fault? := by
  obtain ⟨post, endpoint, rfl, rfl⟩ := uploads
  have within : ¬ s.maxBodyBytes < r.body.length := Nat.not_lt_of_le fits
  rw [s.respond_upload reply post endpoint, s.upload_accepted reads chosen, if_neg within]
  exact previewAnswer_eq q o r.body

end Http

namespace CommandLine

/-- The run wrote the picture to the path, if there is one, and no other file. -/
def Ended.Writes (path : String) (ended : Ended) : Option GrayImage → Prop
  | some image => ended.status = 0 ∧ ended.record.files = [(path, .image .png image)]
  | none => ended.status = 1 ∧ ended.record.files = []

variable {w : World} {input path : String} {capture : Octets}

theorem picture_png (named : formatOfPath path = .ok .png) (d : Decoded) :
    picture d path = d.export?.map (ImageFormat.png, ·) := by
  unfold picture
  rw [named]
  cases d.export? <;> rfl

theorem render_writes (loaded : load w input = .ok capture) (named : formatOfPath path = .ok .png)
    (writable : w.writeFault? path = none) (o : Options) :
    (render w input (some path) o).Writes path (decode o capture).picture? := by
  unfold render withDecoded
  rw [loaded]
  dsimp only
  rw [Job.drive_alone]
  rcases (decode o capture).picture_cases with
    ⟨d, image, hr, he, hp⟩ | ⟨d, e, hr, he, hp⟩ | ⟨failure, hr, hp⟩
  · rw [hr, hp]
    simp only [save, picture_png named, he, Except.map, writable]
    exact ⟨rfl, rfl⟩
  · rw [hr, hp]
    simp only [save, picture_png named, he, Except.map]
    exact ⟨rfl, rfl⟩
  · rw [hr, hp]
    exact ⟨rfl, rfl⟩

/-- Whoever makes the same choices about a capture, in the words of a command line and in a query, gets the
same picture of it, in the file that the command line writes and as the server's answer, and both fail
together. -/
theorem render_like_preview (s : Http.Server) (reply : String → Reply) {words : List String}
    {given : List (String × String)} {c : Choice} {r : Http.Request} {text : String} {q : Http.Query}
    (line : Line renderUsage words given [input]) (once : (given.map Prod.fst).Nodup)
    (file : ("png", path) ∈ given) (byLine : c.ByLine given) (loaded : load w input = .ok capture)
    (named : formatOfPath path = .ok .png) (writable : w.writeFault? path = none)
    (uploads : r.Uploads .png text capture) (fits : capture.length ≤ s.maxBodyBytes)
    (reads : Http.Query.parse? text = some q) (byQuery : c.ByQuery s.defaults (Http.formPairs text)) :
    ∃ o, parse ("render" :: words) = .ok (.render input (some path) o) ∧ o.ByLine given ∧
      let ended := invoke w (.render input (some path) o)
      let answer := s.respond reply r
      ((ended.status = 0 ∧ ∃ image, ended.record.files = [(path, .image .png image)]) ↔
        answer.status = 200) ∧
      (answer.status = 200 → ∃ image, ended.record.files = [(path, .image .png image)] ∧
        answer.body = .png image) ∧
      (answer.status ≠ 200 → ended.status = 1 ∧ ended.record.files = []) := by
  obtain ⟨png, o, parsed, written, fields⟩ := parse_render line once
  rw [(written path).mpr file] at parsed
  obtain ⟨o', chosen, choice⟩ := Http.Query.options_byQuery reads byQuery
  have alike : o.DrawsAlike o' :=
    Options.drawsAlike_of_choice ((fields.choice.unique byLine).trans choice.symm)
  refine ⟨o, parsed, fields, ?_⟩
  intro ended answer
  have shown : answer.Shows (decode o' capture).picture? := by
    rw [show answer = _ from s.respond_upload_png reply uploads fits reads chosen]
    exact Http.imageResponse_shows o' capture
  have writes : ended.Writes path (decode o' capture).picture? := by
    rw [← picture_alike alike]
    exact render_writes loaded named writable o
  cases hp : (decode o' capture).picture? with
  | some image =>
      rw [hp] at shown writes
      obtain ⟨success, body⟩ := shown
      obtain ⟨status, files⟩ := writes
      refine ⟨⟨fun _ => success, fun _ => ⟨status, image, files⟩⟩, fun _ => ⟨image, files, body⟩, ?_⟩
      intro failure
      exact absurd success failure
  | none =>
      rw [hp] at shown writes
      obtain ⟨status, files⟩ := writes
      have failure : answer.status ≠ 200 := by
        intro success
        exact absurd (success.symm.trans shown) (by decide)
      refine ⟨⟨?_, fun success => absurd success failure⟩, fun success => absurd success failure,
        fun _ => ⟨status, files⟩⟩
      rintro ⟨exited, _⟩
      exact absurd (exited.symm.trans status) (by decide)

/-- Low pictures for one printer, without marker strips; with a trace and in small batches. -/
def lowLabels : Options :=
  { Options.traced with
    model := .ql500, drawFiller := false, batchSize := 3, maxWidth := 64, maxHeight := 4 }

/-- The same for a server, which is asked for neither. -/
def lowServed : Options := { lowLabels with trace := false, batchSize := 11 }

def lowLabelWords : List String :=
  ["job.prn", "--model", "ql500", "--no-filler", "-o", "label.png", "--max-width=64", "--max-height", "4",
    "--trace", "--batch-size", "3"]

/-- A server whose pictures are low, and a request that chooses the rest. -/
def lowServer : Http.Server :=
  ⟨Http.standardBodyLimit, { Options.standard with maxWidth := 64, maxHeight := 4 }⟩

def lowLabelRequest : Http.Request :=
  ⟨"POST", "/api/decode/preview?model=QL-500&filler=false", Http.Server.oneStrip⟩

theorem lowLabels_byQuery :
    lowLabels.choice.ByQuery lowServer.defaults (Http.formPairs "model=QL-500&filler=false") := by
  have pairs : Http.formPairs "model=QL-500&filler=false" = [("model", "QL-500"), ("filler", "false")] := by
    decide +kernel
  rw [pairs]
  constructor
  case model =>
    intro name given
    have same : name = "QL-500" := by simpa using given
    rw [same]
    decide +kernel
  case filler =>
    intro word given
    have same : word = "false" := by simpa using given
    exact same
  case lenient => exact fun word given => by simp at given
  case lenientOpen => exact fun _ => rfl
  case modelOpen => exact fun absent => absurd absent (by simp)
  case fillerOpen => exact fun absent => absurd absent (by simp)
  case maxWidth => rfl
  case maxHeight => rfl

theorem oneStrip_render_like_preview :
    parse ("render" :: lowLabelWords) = .ok (.render "job.prn" (some "label.png") lowLabels) ∧
    lowLabels.choice.ByQuery lowServer.defaults (Http.formPairs "model=QL-500&filler=false") ∧
    ∃ image,
      (invoke (oneFile Http.Server.oneStrip)
        (.render "job.prn" (some "label.png") lowLabels)).record.files =
          [("label.png", .image .png image)] ∧
      (lowServer.respond Reply.silence lowLabelRequest).body = .png image ∧
      image.width = 1 ∧ image.height = 4 ∧ image.luma 0 3 = 0 := by
  have call : parse ("render" :: lowLabelWords) =
      .ok (.render "job.prn" (some "label.png") lowLabels) := by decide +kernel
  have named : formatOfPath "label.png" = .ok .png := by decide +kernel
  have uploads : lowLabelRequest.Uploads .png "model=QL-500&filler=false" Http.Server.oneStrip :=
    ⟨rfl, by decide +kernel, by decide +kernel, rfl⟩
  have fits : Http.Server.oneStrip.length ≤ lowServer.maxBodyBytes := by decide
  have reads : Http.Query.parse? "model=QL-500&filler=false" =
      some { Http.Query.empty with model := some "QL-500", filler := some false } := by decide +kernel
  obtain ⟨given, line, once, file, byLine⟩ := parse_render_iff.mp call
  obtain ⟨o, parsed, _, _, same, _⟩ := render_like_preview lowServer Reply.silence line once
    ((file "label.png").mp rfl) byLine.choice (load_oneFile Http.Server.oneStrip) named rfl uploads fits
    reads lowLabels_byQuery
  cases call.symm.trans parsed
  have answered : ∃ image, (lowServer.respond Reply.silence lowLabelRequest).status = 200 ∧
      (lowServer.respond Reply.silence lowLabelRequest).body = .png image ∧
      image.width = 1 ∧ image.height = 4 ∧ image.luma 0 3 = 0 := by
    have options : Http.Query.options
        { Http.Query.empty with model := some "QL-500", filler := some false } lowServer.defaults =
          .ok lowServed := by decide +kernel
    have hf : ((Decoder.opened lowServed Http.Server.oneStrip).walk lowServed 2).1.isFinished = true := rfl
    have result := decode_result lowServed Http.Server.oneStrip hf
    rw [lowServer.respond_upload_png Reply.silence uploads fits reads options, decode_decoded result,
      decode_fault result]
    exact ⟨_, rfl, rfl, rfl, rfl, by decide +kernel⟩
  obtain ⟨picture, success, body, width, height, luma⟩ := answered
  obtain ⟨image, files, shown⟩ := same success
  cases body.symm.trans shown
  exact ⟨call, lowLabels_byQuery, picture, files, body, width, height, luma⟩

end CommandLine
end LabelStream
