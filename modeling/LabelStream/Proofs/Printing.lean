import LabelStream.CommandLine.Run
import LabelStream.Proofs.JsonText
import LabelStream.Proofs.Steering
import LabelStream.Proofs.Turns

/-! What the traces that are printed look like. An event has a line as JSON and a line as plain text, and
the two are never taken for each other. Which of them is printed depends on how the decode ended. -/
namespace LabelStream

namespace Event

theorem toJson_proper (e : Event) : e.toJson.Proper := by
  simp [Json.Proper, toJson, Json.tokens, Json.memberTokens, Json.Token.Proper]

/-- Line by line, an event is read back from its JSON: its offset and its message, and nothing else. -/
theorem parse_toJson (e : Event) : Json.parse? e.toJson.text =
    some (.object [("position", .natural e.position), ("message", .string e.note.message)]) :=
  Json.parse_text e.toJson_proper

end Event

/-- There is something to see in the text. -/
def Visible (text : String) : Prop := ∃ c ∈ text.toList, Json.isBlank c = false

theorem Visible.append {text : String} (h : Visible text) (more : String) : Visible (text ++ more) := by
  obtain ⟨c, hc, visible⟩ := h
  refine ⟨c, ?_, visible⟩
  rw [String.toList_append]
  exact List.mem_append_left _ hc

theorem visible_of_head {text : String} {c : Char} (h : text.toList.head? = some c)
    (visible : Json.isBlank c = false) : Visible text :=
  ⟨c, List.mem_of_head? h, visible⟩

theorem Fault.message_visible (f : Fault) : Visible f.message := by
  rcases f with ⟨position, byte, kind⟩
  have what : Visible kind.message := by cases kind <;> exact visible_of_head rfl rfl
  cases byte with
  | none => exact (what.append _).append _
  | some byte => exact ((((what.append _).append _).append _).append _).append _

theorem Setting.describe_visible (s : Setting) : Visible s.describe := by
  cases s with
  | unknown code =>
      change Visible "ESC i unrecognized"
      exact visible_of_head rfl rfl
  | _ => exact visible_of_head (c := 'E') rfl rfl

theorem RasterForm.letter_visible (form : RasterForm) : Visible form.letter := by
  cases form <;> exact visible_of_head rfl rfl

theorem Note.message_visible (note : Note) : Visible note.message := by
  cases note with
  | skipped index byte =>
      exact (((((visible_of_head rfl rfl).append _).append _).append _).append _).append _
  | reset => exact visible_of_head rfl rfl
  | relativeMove dots => exact (visible_of_head rfl rfl).append _
  | setting s => exact s.describe_visible
  | unknownSetting code => exact (visible_of_head rfl rfl).append _
  | operand index value => exact (((visible_of_head rfl rfl).append _).append _).append _
  | graphics => exact visible_of_head rfl rfl
  | bitImage mode columns =>
      exact ((((((visible_of_head rfl rfl).append _).append _).append _).append _).append _).append _
  | rasterLine form xpos length compressed strips =>
      exact ((((((((form.letter_visible.append _).append _).append _).append _).append _).append
        _).append _).append _)
  | compression kind enabled => exact ((((visible_of_head rfl rfl).append _).append _).append _).append _
  | blankLine xpos => exact (visible_of_head rfl rfl).append _
  | printFeed code => exact ((visible_of_head rfl rfl).append _).append _
  | formFeed => exact visible_of_head rfl rfl
  | carriageReturn => exact visible_of_head rfl rfl
  | lineFeed => exact visible_of_head rfl rfl
  | terminator => exact visible_of_head rfl rfl
  | fault f => exact f.message_visible
  | finished halt width height =>
      exact (((((visible_of_head rfl rfl).append _).append _).append _).append _).append _

theorem toList_pushn (text : String) (c : Char) (n : Nat) :
    (text.pushn c n).toList = text.toList ++ List.replicate n c := by
  induction n with
  | zero => exact (List.append_nil _).symm
  | succ n ih =>
      change ((text.pushn c n).push c).toList = _
      rw [String.toList_push, ih, List.append_assoc, ← List.replicate_succ']

/-- A line of plain text begins with its offset in brackets, and that alone would be JSON. -/
theorem lex_traceLine (position : Nat) (message : String) :
    Json.lex [] (traceLine position message).toList =
      Json.lex (Json.array [.natural position]).tokens.reverse (' ' :: message.toList) := by
  have digits : (toString position).toList = (Json.Token.natural position).write := rfl
  have characters : (traceLine position message).toList = '[' :: (List.replicate
      (6 - (toString position).length) ' ' ++ ((Json.Token.natural position).write ++
        ']' :: ' ' :: message.toList)) := by
    simp only [traceLine, String.toList_append, toList_pushn, digits]
    simp
  have ends : Json.Ends (']' :: ' ' :: message.toList) := by
    intro c hc
    cases hc
    rfl
  have number : (Json.Token.natural position).Proper := trivial
  have blanks : ∀ c ∈ List.replicate (6 - (toString position).length) ' ', Json.isBlank c = true := by
    intro c hc
    rw [List.eq_of_mem_replicate hc]
    rfl
  rw [characters, Json.lex_mark rfl, Json.lex_blanks blanks, Json.lex_token number fun _ => ends,
    Json.lex_mark rfl]
  rfl

/-- No line of plain text is JSON. -/
theorem Event.parse_text (e : Event) : Json.parse? e.text = none := by
  obtain ⟨c, hc, visible⟩ := e.note.message_visible
  exact Json.not_json_of_more (lex_traceLine e.position e.note.message)
    ⟨c, List.mem_cons_of_mem _ hc, visible⟩

namespace CommandLine

theorem bind_ok {α β : Type} {value : Except Refusal α} {next : α → Except Refusal β} {result : β}
    (h : value >>= next = .ok result) : ∃ found, value = .ok found ∧ next found = .ok result := by
  cases value with
  | error refusal => cases h
  | ok found => exact ⟨found, rfl, h⟩

/-- A call for a trace decodes with one. -/
theorem traced_of_parse {args : List String} {input : String} {json : Bool} {o : Options}
    (h : parse args = .ok (.trace input json o)) : o.trace = true := by
  unfold parse at h
  split at h
  case h_3 =>
    obtain ⟨given, _, h⟩ := bind_ok h
    obtain ⟨path, _, h⟩ := bind_ok h
    cases h
    rfl
  case h_2 | h_4 =>
    obtain ⟨given, _, h⟩ := bind_ok h
    obtain ⟨path, _, h⟩ := bind_ok h
    cases h
  case h_5 =>
    obtain ⟨given, _, h⟩ := bind_ok h
    cases h
  case h_7 => split at h <;> cases h
  case h_8 => split at h <;> cases h
  all_goals cases h

variable {w : World} {input : String} {json : Bool} {o : Options} {capture : Octets}

theorem trace_unloaded {e : Error} (h : load w input = .error e) :
    (trace w input json o).record.stdout = [] := by
  simp only [trace, withDecoded, h]
  rfl

theorem decode_ended (o : Options) (capture : Octets) :
    (∃ d, (decode o capture).result = .ok d ∧ (decode o capture).fault? = none ∧
      (decode o capture).decoded = d) ∨
    ∃ failure, (decode o capture).result = .error failure ∧
      (decode o capture).fault? = some failure.fault ∧ (decode o capture).decoded = failure.decoded := by
  unfold Outcome.fault? Outcome.decoded
  cases (decode o capture).result with
  | ok d => exact .inl ⟨d, rfl, rfl, rfl⟩
  | error failure => exact .inr ⟨failure, rfl, rfl, rfl⟩

/-- The form of the lines follows the flag only where the decode came through. -/
theorem trace_stdout (h : load w input = .ok capture) :
    (trace w input json o).record.stdout =
      if json = true ∧ (decode o capture).fault? = none then eventObjects (decode o capture).decoded
      else eventLines (decode o capture).decoded := by
  simp only [trace, withDecoded, h, Job.drive_alone]
  rcases decode_ended o capture with ⟨d, hr, hf, hd⟩ | ⟨failure, hr, hf, hd⟩
  · rw [hr, hf, hd]
    cases json <;> rfl
  · rw [hr, hf, hd]
    simp
    rfl

theorem decode_traced (tracing : o.trace = true) (capture : Octets) :
    ∃ told, (decode o capture).decoded.trace = some told := by
  obtain ⟨n, hf⟩ := Decoder.exists_walk_finished o (Decoder.opened o capture)
  have result := decode_result o capture hf
  rw [if_pos tracing] at result
  exact ⟨_, congrArg Decoded.trace (decode_decoded result)⟩

/-- A trace is printed event by event and in order, if there is a capture. As JSON it is printed only
after a decode that came through. After a fault no line of it is JSON, whatever was asked for. -/
theorem trace_prints_events {args : List String} (call : parse args = .ok (.trace input json o)) :
    let printed := (invoke w (.trace input json o)).record.stdout
    (∀ e, load w input = .error e → printed = []) ∧
    ∀ capture, load w input = .ok capture → ∃ told,
      (decode o capture).decoded.trace = some told ∧
      (json = true → (decode o capture).fault? = none →
        printed = told.map (·.toJson.text) ∧
        ∀ e ∈ told, (∀ c ∈ e.toJson.text.toList, 32 ≤ c.toNat) ∧
          Json.parse? e.toJson.text = some (.object [("position", .natural e.position),
            ("message", .string e.note.message)])) ∧
      (json = false ∨ (decode o capture).fault? ≠ none →
        printed = told.map Event.text ∧ ∀ line ∈ printed, Json.parse? line = none) := by
  intro printed
  refine ⟨fun e => trace_unloaded, fun capture loaded => ?_⟩
  have stdout : printed = _ := trace_stdout loaded
  obtain ⟨told, htold⟩ := decode_traced (traced_of_parse call) capture
  refine ⟨told, htold, ?objects, ?lines⟩
  case objects =>
    intro asked ended
    rw [if_pos ⟨asked, ended⟩, eventObjects, htold] at stdout
    exact ⟨stdout, fun e _ => ⟨Json.text_visible e.toJson_proper, e.parse_toJson⟩⟩
  case lines =>
    intro otherwise
    have plain : ¬ (json = true ∧ (decode o capture).fault? = none) := by
      rintro ⟨asked, ended⟩
      rcases otherwise with unasked | faulty
      · rw [asked] at unasked
        cases unasked
      · exact faulty ended
    rw [if_neg plain, eventLines, htold] at stdout
    refine ⟨stdout, fun line hl => ?_⟩
    rw [stdout] at hl
    obtain ⟨e, _, rfl⟩ := List.mem_map.mp hl
    exact e.parse_text

def oneFile (octets : Octets) : World where
  stdin := []
  contents := fun path => if path = "job.prn" then .ok octets else .error "no such file"
  writeFault? := fun _ => none
  reply := Reply.silence
  listenFault := fun _ => "no server"

theorem load_oneFile (octets : Octets) : load (oneFile octets) "job.prn" = .ok octets := by
  have source : Source.parse "job.prn" = .file "job.prn" := by decide +kernel
  simp only [load, source, oneFile, if_true]

theorem blankLine_prints_objects :
    parse ["trace", "job.prn", "--json"] = .ok (.trace "job.prn" true .traced) ∧
    (invoke (oneFile [0x1B, 0x40, 0x5A]) (.trace "job.prn" true .traced)).record.stdout =
      ["\x7b\"position\":1,\"message\":\"ESC @ initialize\"\x7d",
        "\x7b\"position\":2,\"message\":\"Z blank raster line xpos=0\"\x7d",
        "\x7b\"position\":3,\"message\":\"finished: end of stream, image 1x384\"\x7d"] := by
  have call : parse ["trace", "job.prn", "--json"] = .ok (.trace "job.prn" true .traced) := by
    decide +kernel
  have hf : ((Decoder.opened .traced [0x1B, 0x40, 0x5A]).walk .traced 2).1.isFinished = true := rfl
  have result := decode_result .traced [0x1B, 0x40, 0x5A] hf
  obtain ⟨_, printed⟩ := trace_prints_events (w := oneFile [0x1B, 0x40, 0x5A]) call
  obtain ⟨told, traced, objects, _⟩ := printed _ (load_oneFile _)
  have ended : (decode .traced [0x1B, 0x40, 0x5A]).fault? = none := by
    rw [decode_fault result]
    rfl
  have events : (decode .traced [0x1B, 0x40, 0x5A]).decoded.trace =
      some [⟨1, .reset⟩, ⟨2, .blankLine 0⟩, ⟨3, .finished .endOfStream 1 384⟩] := by
    rw [decode_decoded result]
    rfl
  rw [traced] at events
  cases events
  refine ⟨call, (objects rfl ended).1.trans ?_⟩
  decide +kernel

/-- An escape sequence that does not exist. -/
def strayEscape : Octets := [0x1B, 0x51, 0x40]

theorem strayEscape_prints_no_object :
    parse ["trace", "job.prn", "--json"] = .ok (.trace "job.prn" true .traced) ∧
    let printed := (invoke (oneFile strayEscape) (.trace "job.prn" true .traced)).record.stdout
    printed = ["[     1] unrecognized escape sequence at offset 1 (byte 0x51)",
      "[     2] finished: aborted at 1, image 0x0"] ∧
    ∀ line ∈ printed, Json.parse? line = none := by
  have call : parse ["trace", "job.prn", "--json"] = .ok (.trace "job.prn" true .traced) := by
    decide +kernel
  have hf : ((Decoder.opened .traced strayEscape).walk .traced 1).1.isFinished = true := rfl
  have result := decode_result .traced strayEscape hf
  have faulty : ¬ (true = true ∧ (decode .traced strayEscape).fault? = none) := by
    rw [decode_fault result]
    exact fun h => nomatch h.2
  have stdout : (trace (oneFile strayEscape) "job.prn" true .traced).record.stdout = _ :=
    trace_stdout (load_oneFile strayEscape)
  rw [if_neg faulty] at stdout
  refine ⟨call, stdout.trans ?_, fun line hl => ?_⟩
  · rw [decode_decoded result]
    decide +kernel
  · obtain ⟨e, _, rfl⟩ := List.mem_map.mp (stdout ▸ hl)
    exact e.parse_text

end CommandLine
end LabelStream
