import LabelStream.Proofs.Exporting

/-! What an answer says about the decode that it comes from. Status, report and headers are put together
in different places, and all of them say the same of it. -/
namespace LabelStream

theorem Outcome.fault?_eq_none {x : Outcome} : x.fault? = none ↔ ∃ d, x.result = .ok d := by
  unfold Outcome.fault?
  cases x.result with
  | ok d => exact iff_of_true rfl ⟨d, rfl⟩
  | error failure => exact iff_of_false nofun nofun

/-! ### Texts that can stand in a header -/

/-- The text is made of characters that a header can hold. -/
def Plain (text : String) : Prop := ∀ c ∈ text.toList, 32 ≤ c.toNat ∧ c.toNat < 127

theorem Plain.append {text more : String} (h : Plain text) (hm : Plain more) : Plain (text ++ more) := by
  intro c hc
  rw [String.toList_append] at hc
  exact (List.mem_append.mp hc).elim (h c) (hm c)

theorem plain_of_all {text : String}
    (h : text.toList.all (fun c => 32 ≤ c.toNat && c.toNat < 127) = true) : Plain text := by
  intro c hc
  have both := List.all_eq_true.mp h c hc
  rw [Bool.and_eq_true, decide_eq_true_iff, decide_eq_true_iff] at both
  exact both

theorem plain_toString (n : Nat) : Plain (toString n) := by
  intro c hc
  rw [Nat.toString_eq_ofList_toDigits, String.toList_ofList] at hc
  have digit := Json.all_isDigit n c hc
  simp only [Json.isDigit, Bool.and_eq_true, decide_eq_true_eq, Char.le_def, UInt32.le_iff_toNat_le]
    at digit
  have lower : 48 ≤ c.toNat := digit.1
  have upper : c.toNat ≤ 57 := digit.2
  omega

theorem plain_hexPair (b : UInt8) : Plain (hexPair b) := by
  have digit : ∀ n < 16, 32 ≤ (hexPair.digit n).toNat ∧ (hexPair.digit n).toNat < 127 := by decide
  have bound := b.toNat_lt
  intro c hc
  rw [hexPair, String.toList_ofList, List.mem_cons, List.mem_singleton] at hc
  rcases hc with rfl | rfl
  · exact digit _ (by omega)
  · exact digit _ (by omega)

/-- What is said of a fault can be said in a header. -/
theorem Fault.message_plain (f : Fault) : Plain f.message := by
  rcases f with ⟨position, byte, kind⟩
  have what : Plain kind.message := by cases kind <;> exact plain_of_all rfl
  have place : Plain (kind.message ++ " at offset " ++ toString position) :=
    (what.append (plain_of_all rfl)).append (plain_toString position)
  cases byte with
  | none => exact place
  | some byte => exact ((place.append (plain_of_all rfl)).append (plain_hexPair byte)).append (plain_of_all rfl)

/-! ### Reports -/

/-- The report says the same as the status that it is sent with, and its message is about its error. -/
structure Report.Agrees (status : Nat) (r : Report) : Prop where
  success : r.success = (status == 200)
  message : r.message = none ↔ status = 200
  error : ∀ fault, r.error = some fault → status = 422 ∧ r.message = some fault.message

theorem Report.of_agrees (d : Decoded) (error : Option Fault) :
    (Report.of d error).Agrees (Http.decodeStatus error) := by
  cases error with
  | none => exact ⟨rfl, iff_of_true rfl rfl, nofun⟩
  | some own =>
      have status : Http.decodeStatus (some own) = 422 := rfl
      rw [status]
      refine ⟨rfl, iff_of_false nofun (by decide), fun fault shown => ⟨rfl, ?_⟩⟩
      cases shown
      rfl

theorem Report.withoutImage_agrees (d : Decoded) (error : Option Fault) (e : ExportError) :
    ((Report.of d error).withoutImage e).Agrees 422 := by
  refine ⟨rfl, iff_of_false nofun (by decide), fun fault shown => ⟨rfl, ?_⟩⟩
  change error = some fault at shown
  subst shown
  rfl

theorem Report.toJson_success (r : Report) : r.toJson.get? "success" = some (.bool r.success) := rfl

theorem Report.toJson_error (r : Report) :
    r.toJson.get? "error" = some (Json.orNull Fault.toJson r.error) := rfl

theorem Report.toJson_message (r : Report) :
    r.toJson.get? "message" = some (Json.orNull (fun m => .string m) r.message) := rfl

namespace Http

def Response.Reports (answer : Response) (report : Report) : Prop :=
  answer.body = .json report.toJson ∧ report.Agrees answer.status

/-- What the fields of a report say, read off the body. -/
theorem Response.Reports.fields {answer : Response} {report : Report} (h : answer.Reports report)
    {value : Json} (body : answer.body = .json value) :
    value.get? "success" = some (.bool (answer.status == 200)) ∧
    (value.get? "message" = some .null ↔ answer.status = 200) ∧
    ∀ error, value.get? "error" = some error → error ≠ .null → answer.status = 422 ∧
      ∃ fault, report.error = some fault ∧ error = fault.toJson ∧
        value.get? "message" = some (.string fault.message) := by
  obtain ⟨shown, agrees⟩ := h
  obtain rfl : report.toJson = value := by
    rw [body] at shown
    cases shown
    rfl
  refine ⟨?success, ?message, ?error⟩
  case success => rw [report.toJson_success, agrees.success]
  case message =>
    rw [report.toJson_message, ← agrees.message]
    cases report.message with
    | none => exact iff_of_true rfl rfl
    | some text => exact iff_of_false nofun nofun
  case error =>
    intro error field present
    rw [report.toJson_error] at field
    cases found : report.error with
    | none =>
        rw [found] at field
        cases field
        exact absurd rfl present
    | some fault =>
        rw [found] at field
        cases field
        obtain ⟨status, message⟩ := agrees.error fault found
        refine ⟨status, fault, rfl, rfl, ?_⟩
        rw [report.toJson_message, message]
        rfl

theorem reportResponse_reports (d : Decoded) (error : Option Fault) :
    (reportResponse d error).Reports (Report.of d error) :=
  ⟨rfl, Report.of_agrees d error⟩

/-- With the picture of a decode comes what its report would say, and without one the report. -/
theorem imageResponse_cases (d : Decoded) (error : Option Fault) :
    (∃ image, d.export? = .ok image ∧ (imageResponse d error).body = .png image ∧
      (imageResponse d error).status = decodeStatus error) ∨
    ∃ e, d.export? = .error e ∧ (imageResponse d error).status = 422 ∧
      (imageResponse d error).Reports ((Report.of d error).withoutImage e) := by
  unfold imageResponse
  cases d.export? with
  | ok image => exact .inl ⟨image, rfl, rfl, rfl⟩
  | error e => exact .inr ⟨e, rfl, rfl, rfl, Report.withoutImage_agrees d error e⟩

theorem imageResponse_status_of_png {d : Decoded} {error : Option Fault} {image : GrayImage}
    (h : (imageResponse d error).body = .png image) :
    (imageResponse d error).status = decodeStatus error := by
  rcases imageResponse_cases d error with ⟨_, _, _, status⟩ | ⟨_, _, _, body, _⟩
  · exact status
  · rw [body] at h
    cases h

theorem decodeStatus_eq_ok {error : Option Fault} : decodeStatus error = 200 ↔ error = none := by
  cases error with
  | none => exact iff_of_true rfl rfl
  | some fault =>
      have status : decodeStatus (some fault) = 422 := rfl
      exact iff_of_false (by rw [status]; decide) nofun

def Format.decodeOptions : Format → Query → Options → Options
  | png, _, o => o
  | json, q, o => { o with trace := q.trace.getD true }

def Format.respond : Format → Decoded → Option Fault → Response
  | png => imageResponse
  | json => reportResponse

theorem Format.answer_eq (format : Format) (q : Query) (o : Options) (capture : Octets) :
    format.answer q o capture = format.respond (decode (format.decodeOptions q o) capture).decoded
      (decode (format.decodeOptions q o) capture).fault? := by
  cases format with
  | png => exact Server.previewAnswer_eq q o capture
  | json =>
      change Server.traceAnswer q o capture = _
      rw [Server.traceAnswer, runJob_eq]
      rfl

/-- Whatever is answered with a report has one on this decode. -/
theorem Format.respond_reports {format : Format} {d : Decoded} {error : Option Fault} {value : Json}
    (body : (format.respond d error).body = .json value) :
    ∃ report, (format.respond d error).Reports report ∧ report.error = error := by
  cases format with
  | json => exact ⟨_, reportResponse_reports d error, rfl⟩
  | png =>
      rcases imageResponse_cases d error with ⟨image, _, picture, _⟩ | ⟨e, _, _, reports⟩
      · exact absurd (picture.symm.trans body) nofun
      · exact ⟨_, reports, rfl⟩

namespace Server

variable (s : Server) (reply : String → Reply) (r : Request)

/-- The request is one for the decode of the capture in this form: it brings a capture that is not too
large along or names an address that gives one, and its query makes sense. -/
inductive Admits (q : Query) (o : Options) : Format → Octets → Prop
  | upload {format : Format} (method : r.method = "POST") (path : r.path = format.endpoint)
      (reads : Query.parse? r.query = some q) (options : q.options s.defaults = .ok o)
      (fits : r.body.length ≤ s.maxBodyBytes) : Admits q o format r.body
  | fetch {url : String} {capture : Octets} (method : r.method = "GET")
      (path : r.path = "/api/decode/fetch") (accepts : s.Accepts r.query q o url)
      (brought : download url s.maxBodyBytes (reply url) = .ok capture) : Admits q o q.asked capture

variable {s reply r} {q : Query} {o : Options} {format : Format} {capture : Octets}

theorem Admits.options_eq (h : s.Admits reply r q o format capture) : q.options s.defaults = .ok o := by
  cases h with
  | upload _ _ _ options _ => exact options
  | fetch _ _ accepts _ => exact accepts.options

theorem respond_admitted (h : s.Admits reply r q o format capture) :
    s.respond reply r = format.respond (decode (format.decodeOptions q o) capture).decoded
      (decode (format.decodeOptions q o) capture).fault? := by
  rw [← format.answer_eq]
  cases h with
  | upload post path reads options fits =>
      rw [s.respond_upload reply post path, s.upload_accepted reads options,
        if_neg (Nat.not_lt_of_le fits)]
  | fetch get path accepts brought =>
      rw [s.respond_fetch reply get path, s.fetch_accepted reply accepts, brought]

/-- The picture of a decode is cut to the bound of the server. -/
theorem export?_admitted (h : s.Admits reply r q o .png capture) (hw : s.defaults.maxWidth < imageSizes)
    (hh : s.defaults.maxHeight < imageSizes) :
    let d := (decode o capture).decoded
    let width := min d.width s.defaults.maxWidth
    let height := min d.height s.defaults.maxHeight
    (∀ e, d.export? = .error e ↔ (width = 0 ∨ height = 0) ∧ e = .empty width height) ∧
    ∀ image, d.export? = .ok image ↔ ¬ (width = 0 ∨ height = 0) ∧ image = d.surface.image d.width d.height := by
  intro d width height
  have columns : (d.surface.image d.width d.height).width = width := by
    change min d.width (d.surface.maxWidth % imageSizes) = _
    rw [(decode_bound o capture).1, (options_bound h.options_eq).1, Nat.mod_eq_of_lt hw]
  have rows : (d.surface.image d.width d.height).height = height := by
    change min d.height (d.surface.maxHeight % imageSizes) = _
    rw [(decode_bound o capture).2, (options_bound h.options_eq).2, Nat.mod_eq_of_lt hh]
  have failing := d.surface.export?_eq_error d.width d.height
  have showing := d.surface.export?_eq_ok d.width d.height
  rw [columns, rows] at failing showing
  exact ⟨failing, showing⟩

/-- Whatever a capture holds, the parts of its answer agree: the status with the report, the report's
message with its error, both with the decode, and a picture with what its headers say. -/
theorem answer_agrees (h : s.Admits reply r q o format capture) :
    let answer := s.respond reply r
    let x := decode (format.decodeOptions q o) capture
    let width := min x.decoded.width s.defaults.maxWidth
    let height := min x.decoded.height s.defaults.maxHeight
    (answer.status = 200 ∨ answer.status = 422) ∧
    (∀ value, answer.body = .json value →
      value.get? "success" = some (.bool (answer.status == 200)) ∧
      (value.get? "message" = some .null ↔ answer.status = 200) ∧
      ∀ error, value.get? "error" = some error → error ≠ .null → answer.status = 422 ∧
        ∃ fault, x.fault? = some fault ∧ error = fault.toJson ∧
          value.get? "message" = some (.string fault.message)) ∧
    (format = .json → (∃ value, answer.body = .json value) ∧
      (answer.status = 200 ↔ ∃ d, x.result = .ok d)) ∧
    (format = .png → s.defaults.maxWidth < imageSizes → s.defaults.maxHeight < imageSizes →
      ((∃ image, answer.body = .png image) ↔ width ≠ 0 ∧ height ≠ 0) ∧
      (width = 0 ∨ height = 0 → answer.status = 422 ∧ ∃ value, answer.body = .json value ∧
        value.get? "message" = some (.string ((x.fault?.map Fault.message).getD
          (ExportError.empty width height).message)))) ∧
    ∀ image, answer.body = .png image → ∃ headers, answer.image = some headers ∧
      (answer.status = 200 ↔ ∃ d, x.result = .ok d) ∧
      (headers.error = none ↔ ∃ d, x.result = .ok d) ∧
      headers.error = x.fault?.map Fault.message ∧
      ∀ text, headers.error = some text → Plain text := by
  intro answer x width height
  have answered : answer = format.respond x.decoded x.fault? := respond_admitted h
  refine ⟨?status, ?report, ?json, ?png, ?headers⟩
  case status =>
    rw [answered, ← format.answer_eq]
    exact format.answer_status q o capture
  case report =>
    intro value body
    obtain ⟨report, reports, error⟩ := format.respond_reports (answered ▸ body)
    rw [← answered] at reports
    rw [← error]
    exact reports.fields body
  case json =>
    rintro rfl
    rw [answered]
    exact ⟨⟨_, rfl⟩, decodeStatus_eq_ok.trans Outcome.fault?_eq_none⟩
  case png =>
    rintro rfl hw hh
    obtain ⟨failing, showing⟩ := export?_admitted h hw hh
    change answer = imageResponse x.decoded x.fault? at answered
    rcases imageResponse_cases x.decoded x.fault? with
      ⟨image, shown, body, _⟩ | ⟨e, unshown, status, body, _⟩
    · rw [← answered] at body
      have present : ¬ (width = 0 ∨ height = 0) := ((showing image).mp shown).1
      exact ⟨iff_of_true ⟨image, body⟩ (not_or.mp present), fun empty => absurd empty present⟩
    · rw [← answered] at status body
      obtain ⟨empty, rfl⟩ := (failing e).mp unshown
      refine ⟨iff_of_false ?_ fun present => not_or.mpr present empty, fun _ => ⟨status, _, body, ?_⟩⟩
      · rintro ⟨image, picture⟩
        rw [body] at picture
        cases picture
      · rfl
  case headers =>
    intro image body
    cases format with
    | json =>
        rw [answered] at body
        cases body
    | png =>
        change answer = imageResponse x.decoded x.fault? at answered
        rw [answered] at body
        obtain ⟨headers, _⟩ := imageResponse_png body
        rw [← answered] at headers
        have status : answer.status = decodeStatus x.fault? := by
          rw [answered]
          exact imageResponse_status_of_png body
        refine ⟨_, headers, ?_, ?_, rfl, ?_⟩
        · rw [status, decodeStatus_eq_ok, Outcome.fault?_eq_none]
        · rw [Option.map_eq_none_iff, Outcome.fault?_eq_none]
        · intro text said
          obtain ⟨fault, _, rfl⟩ := Option.map_eq_some_iff.mp said
          exact fault.message_plain

/-- A strip, and behind it a byte that begins no command. -/
def strayBehindStrip : Octets := oneStrip ++ [0xFE]

theorem strayBehindStrip_agrees :
    standard.Admits Reply.silence (plainPreview strayBehindStrip) .empty .standard .png
      strayBehindStrip ∧
    let answer := standard.respond Reply.silence (plainPreview strayBehindStrip)
    answer.status = 422 ∧ ∃ image headers, answer.body = .png image ∧ answer.image = some headers ∧
      headers.error = some "unrecognized opcode at offset 6 (byte 0xFE)" := by
  have admits : standard.Admits Reply.silence (plainPreview strayBehindStrip) .empty .standard .png
      strayBehindStrip :=
    .upload rfl (plainPreview_path _) (plainPreview_query _) rfl (by decide)
  refine ⟨admits, ?_⟩
  intro answer
  have hf : ((Decoder.opened .standard strayBehindStrip).walk .standard 3).1.isFinished = true := rfl
  have result := decode_result .standard strayBehindStrip hf
  have fault : (decode .standard strayBehindStrip).fault? = some ⟨6, some 0xFE, .unrecognizedOpcode⟩ := by
    rw [decode_fault result]
    rfl
  have size : (decode .standard strayBehindStrip).decoded.width = 1 ∧
      (decode .standard strayBehindStrip).decoded.height = 8 := by
    rw [decode_decoded result]
    exact ⟨rfl, rfl⟩
  have present : min (decode .standard strayBehindStrip).decoded.width standard.defaults.maxWidth ≠ 0 ∧
      min (decode .standard strayBehindStrip).decoded.height standard.defaults.maxHeight ≠ 0 := by
    rw [size.1, size.2]
    decide
  obtain ⟨status, _, _, png, told⟩ := answer_agrees admits
  obtain ⟨shown, _⟩ := png rfl (by decide) (by decide)
  obtain ⟨image, body⟩ := shown.mpr present
  obtain ⟨headers, given, good, _, error, _⟩ := told image body
  refine ⟨status.resolve_left fun success => ?_, image, headers, body, given, ?_⟩
  · have whole := Outcome.fault?_eq_none.mpr (good.mp success)
    rw [Format.decodeOptions, fault] at whole
    cases whole
  · rw [error, Format.decodeOptions, fault]
    rfl

end Server
end Http
end LabelStream
