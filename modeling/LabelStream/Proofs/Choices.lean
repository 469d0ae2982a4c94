import LabelStream.Http.Query
import LabelStream.Proofs.CommandLines

/-! What a caller chooses, in the words of a command line and in a query. Either way each choice has one
place where it is made, and ends up in the options of the decode. -/
namespace LabelStream

/-- The choices that decide what is drawn. -/
structure Choice where
  model : Model
  filler : Bool
  lenient : Bool
  maxWidth : Nat
  maxHeight : Nat
  deriving Repr, DecidableEq

def Options.choice (o : Options) : Choice :=
  ⟨o.model, o.drawFiller, o.acceptAnyGraphicsMode, o.maxWidth, o.maxHeight⟩

/-! ### By a command line -/

namespace CommandLine

theorem Spelling.passes {s : Switch} {value : String} {spelling : List String}
    (spelt : Spelling s value spelling) {check : String → Bool} (takes : s.check = some check) :
    check value = true := by
  have known (passes : s.Passes value) : check value = true := by
    obtain ⟨other, ht, passes⟩ := passes
    cases takes.symm.trans ht
    exact passes
  cases spelt with
  | flag plain => exact absurd (plain.symm.trans takes) nofun
  | flagLetter _ plain => exact absurd (plain.symm.trans takes) nofun
  | joined passes => exact known passes
  | apart passes _ => exact known passes
  | letter _ passes _ => exact known passes
  | letterMarked _ passes => exact known passes
  | letterTight _ passes _ _ => exact known passes

theorem Line.checked {u : Usage} (hu : u.Sound) {words positional : List String}
    {given : List (String × String)} (line : Line u words given positional) {s : Switch}
    (mem : s ∈ u.switches) {check : String → Bool} (takes : s.check = some check) {value : String}
    (present : (s.name, value) ∈ given) : check value = true := by
  induction line with
  | nil => exact absurd present List.not_mem_nil
  | option inside spelt rest ih =>
      rcases List.mem_cons.mp present with same | present
      · obtain ⟨name, rfl⟩ := Prod.mk.inj same
        cases List.inj_on_of_nodup_map hu.names inside mem name.symm
        exact spelt.passes takes
      · exact ih present
  | plain bare rest ih => exact ih present
  | escaped words => exact absurd present List.not_mem_nil

/-- The number that is given under a name, or the standard one where none is given. -/
def SizeGiven (given : List (String × String)) (name : String) (standard n : Nat) : Prop :=
  (∀ word, (name, word) ∈ given → Numeral word n) ∧ (name ∉ given.map Prod.fst → n = standard)

end CommandLine

open CommandLine (SizeGiven Line)

structure Choice.ByLine (given : List (String × String)) (c : Choice) : Prop where
  model : ∀ name, ("model", name) ∈ given → name ∈ c.model.names
  generic : "model" ∉ given.map Prod.fst → c.model = .generic
  filler : c.filler = true ↔ "no-filler" ∉ given.map Prod.fst
  lenient : c.lenient = true ↔ "accept-any-graphics-mode" ∈ given.map Prod.fst
  maxWidth : SizeGiven given "max-width" 16384 c.maxWidth
  maxHeight : SizeGiven given "max-height" 8192 c.maxHeight

/-- Every option is the one that the command line gives, or else the standard one. -/
structure Options.ByLine (given : List (String × String)) (o : Options) : Prop where
  choice : o.choice.ByLine given
  compressionHint : o.compressionHint = true ↔ "compressed" ∈ given.map Prod.fst
  trace : o.trace = true ↔ "trace" ∈ given.map Prod.fst
  batchSize : ∃ n, SizeGiven given "batch-size" 11 n ∧ o.batchSize = max n 1

theorem CommandLine.SizeGiven.unique {given : List (String × String)} {name : String} {standard n m : Nat}
    (h : SizeGiven given name standard n) (h' : SizeGiven given name standard m) : n = m := by
  by_cases present : name ∈ given.map Prod.fst
  · obtain ⟨⟨_, word⟩, mem, rfl⟩ := List.mem_map.mp present
    have read := CommandLine.size?_eq_some_iff.mpr (h.1 word mem)
    exact Option.some.inj (read.symm.trans (CommandLine.size?_eq_some_iff.mpr (h'.1 word mem)))
  · exact (h.2 present).trans (h'.2 present).symm

theorem Choice.ByLine.unique {given : List (String × String)} {c c' : Choice} (h : c.ByLine given)
    (h' : c'.ByLine given) : c = c' := by
  have model : c.model = c'.model := by
    by_cases present : "model" ∈ given.map Prod.fst
    · obtain ⟨⟨_, name⟩, mem, rfl⟩ := List.mem_map.mp present
      have named := CommandLine.ofName?_eq_some_iff.mpr (h.model name mem)
      exact Option.some.inj (named.symm.trans (CommandLine.ofName?_eq_some_iff.mpr (h'.model name mem)))
    · exact (h.generic present).trans (h'.generic present).symm
  have filler : c.filler = c'.filler := Bool.eq_iff_iff.mpr (h.filler.trans h'.filler.symm)
  have lenient : c.lenient = c'.lenient := Bool.eq_iff_iff.mpr (h.lenient.trans h'.lenient.symm)
  have width := h.maxWidth.unique h'.maxWidth
  have height := h.maxHeight.unique h'.maxHeight
  cases c
  cases c'
  cases model
  cases filler
  cases lenient
  cases width
  cases height
  rfl

theorem Options.ByLine.unique {given : List (String × String)} {o o' : Options} (h : o.ByLine given)
    (h' : o'.ByLine given) : o = o' := by
  have choice := h.choice.unique h'.choice
  have hint := Bool.eq_iff_iff.mpr (h.compressionHint.trans h'.compressionHint.symm)
  have trace := Bool.eq_iff_iff.mpr (h.trace.trans h'.trace.symm)
  obtain ⟨n, hn, batch⟩ := h.batchSize
  obtain ⟨m, hm, batch'⟩ := h'.batchSize
  have size : o.batchSize = o'.batchSize := by rw [batch, batch', hn.unique hm]
  cases o
  cases o'
  cases choice
  cases hint
  cases trace
  cases size
  rfl

namespace CommandLine

section

variable {g : Given} {words positional : List String} {given : List (String × String)}

/-- An option whose value is read in some way has what is read of the word that is given for it. -/
theorem read_given {α : Type} (read : String → Option α) (name : String)
    (line : Line renderUsage words given positional)
    (grows : noneGiven.Grows renderUsage g given positional)
    (mem : valued name (fun v => (read v).isSome) ∈ renderUsage.switches) (standard : α) :
    (∀ word, (name, word) ∈ given → read word = some (((g.value? name).bind read).getD standard)) ∧
    (name ∉ given.map Prod.fst → ((g.value? name).bind read).getD standard = standard) := by
  refine ⟨fun word present => ?_, fun absent => ?_⟩
  · have known := line.checked renderUsage_sound mem rfl present
    obtain ⟨a, ha⟩ := Option.isSome_iff_exists.mp known
    rw [grows.value?_iff.mpr present, Option.bind_some, ha]
    rfl
  · have none : g.value? name = none := Option.eq_none_iff_forall_ne_some.mpr fun value found =>
      absent (List.mem_map.mpr ⟨_, grows.value?_iff.mp found, rfl⟩)
    rw [none]
    rfl

/-- Each option is read from its own words. -/
theorem options_byLine (line : Line renderUsage words given positional)
    (grows : noneGiven.Grows renderUsage g given positional) :
    (g.options (g.has "trace")).ByLine given := by
  have model := read_given Model.ofName? "model" line grows (by simp [renderUsage, decodeSwitches]) .generic
  have size (name : String) (mem : valued name (fun v => (size? v).isSome) ∈ renderUsage.switches)
      (standard : Nat) : SizeGiven given name standard (g.sizeOr name standard) := by
    obtain ⟨present, absent⟩ := read_given size? name line grows mem standard
    exact ⟨fun word mem => size?_eq_some_iff.mp (present word mem), absent⟩
  refine ⟨⟨?model, model.2, ?filler, grows.has_iff, ?maxWidth, ?maxHeight⟩, grows.has_iff,
    grows.has_iff, ?batchSize⟩
  case model => exact fun name present => ofName?_eq_some_iff.mp (model.1 name present)
  case filler =>
    change (!g.has "no-filler") = true ↔ _
    rw [← grows.has_iff, Bool.not_eq_true', Bool.not_eq_true]
  case maxWidth => exact size "max-width" (by simp [renderUsage, decodeSwitches]) _
  case maxHeight => exact size "max-height" (by simp [renderUsage, decodeSwitches]) _
  case batchSize => exact ⟨_, size "batch-size" (by simp [renderUsage, decodeSwitches]) _, rfl⟩

/-- A line that names a capture calls for it to be decoded by the options of the line. -/
theorem parse_render {input : String} (line : Line renderUsage words given [input])
    (once : (given.map Prod.fst).Nodup) :
    ∃ png o, parse ("render" :: words) = .ok (.render input png o) ∧
      (∀ path, png = some path ↔ ("png", path) ∈ given) ∧ o.ByLine given := by
  let g : Given := ⟨given.reverse, some input⟩
  have grows : noneGiven.Grows renderUsage g given [input] :=
    ⟨(List.append_nil _).symm, once, fun _ _ => List.not_mem_nil, .one rfl rfl⟩
  refine ⟨g.value? "png", g.options (g.has "trace"), ?_, fun _ => grows.value?_iff,
    options_byLine line grows⟩
  simp only [parse, collect_line renderUsage_sound line grows]
  rfl

/-- No other call is read as one to decode this capture by these options. -/
theorem parse_render_iff {input : String} {png : Option String} {o : Options} :
    parse ("render" :: words) = .ok (.render input png o) ↔
      ∃ given, Line renderUsage words given [input] ∧ (given.map Prod.fst).Nodup ∧
        (∀ path, png = some path ↔ ("png", path) ∈ given) ∧ o.ByLine given := by
  constructor
  · intro h
    have parsed : parse ("render" :: words) = (collect renderUsage noneGiven words).bind fun g =>
        (required g).bind fun input =>
          .ok (.render input (g.value? "png") (g.options (g.has "trace"))) := rfl
    rw [parsed] at h
    cases hg : collect renderUsage noneGiven words with
    | error e =>
        rw [hg] at h
        exact absurd h nofun
    | ok g =>
        rw [hg] at h
        obtain ⟨given, positional, line, grows⟩ := line_of_collect hg
        cases hs : g.positional with
        | none =>
            simp only [Except.bind, required, hs] at h
            exact absurd h nofun
        | some seat =>
            simp only [Except.bind, required, hs] at h
            cases h
            have seated : Seated renderUsage none positional (some input) := hs ▸ grows.seated
            cases seated
            exact ⟨given, line, grows.once, fun _ => grows.value?_iff, options_byLine line grows⟩
  · rintro ⟨given, line, once, file, byLine⟩
    obtain ⟨png', o', parsed, file', byLine'⟩ := parse_render line once
    rw [parsed, byLine.unique byLine', Option.ext fun path => (file path).trans (file' path).symm]

end
end CommandLine

/-! ### By a query -/

theorem Model.parse_eq_ok_iff {name : String} {m : Model} :
    Model.parse name = .ok m ↔ Model.simplified name ∈ m.names := by
  rw [← CommandLine.ofName?_eq_some_iff, Model.parse]
  cases Model.ofName? (Model.simplified name) with
  | none => exact ⟨nofun, nofun⟩
  | some found => exact ⟨fun h => congrArg some (Except.ok.inj h), fun h => congrArg _ (Option.some.inj h)⟩

namespace Http.Query

theorem fill_some {α : Type} {place value filled : Option α} (h : fill place value = some filled) :
    place = none ∧ filled = value ∧ value.isSome = true := by
  unfold fill at h
  split at h
  next =>
    cases h
    exact ⟨rfl, rfl, rfl⟩
  next => exact absurd h nofun

variable {q q' : Query} {pair : String × String}

/-- What one pair does to the choices of how to draw. -/
theorem take_cases (h : q.take pair = some q') :
    (pair.1 = "model" ∧ q.model = none ∧ q' = { q with model := some pair.2 }) ∨
    (pair.1 = "filler" ∧ q.filler = none ∧ (flag? pair.2).isSome = true ∧
      q' = { q with filler := flag? pair.2 }) ∨
    (pair.1 = "lenient" ∧ q.lenient = none ∧ (flag? pair.2).isSome = true ∧
      q' = { q with lenient := flag? pair.2 }) ∨
    (pair.1 ≠ "model" ∧ pair.1 ≠ "filler" ∧ pair.1 ≠ "lenient" ∧
      q'.model = q.model ∧ q'.filler = q.filler ∧ q'.lenient = q.lenient) := by
  unfold take at h
  split at h
  case h_8 model filler lenient _ _ _ _ =>
    cases h
    exact .inr (.inr (.inr ⟨fun same => model _ (Prod.ext same rfl), fun same => filler _ (Prod.ext same rfl),
      fun same => lenient _ (Prod.ext same rfl), rfl, rfl, rfl⟩))
  all_goals
    obtain ⟨filled, hf, rfl⟩ := Option.map_eq_some_iff.mp h
    obtain ⟨empty, rfl, present⟩ := fill_some hf
  case h_1 v => exact .inl ⟨rfl, empty, rfl⟩
  case h_2 v => exact .inr (.inl ⟨rfl, empty, present, rfl⟩)
  case h_3 v => exact .inr (.inr (.inl ⟨rfl, empty, present, rfl⟩))
  all_goals exact .inr (.inr (.inr ⟨by simp, by simp, by simp, rfl, rfl, rfl⟩))

/-- A pair of this name fills the place, with what is read of its value. Any other leaves it as it is. -/
def Fills {α : Type} (name : String) (place : Query → Option α) (read : String → Option α) : Prop :=
  ∀ {q q' : Query} {pair : String × String}, q.take pair = some q' →
    (pair.1 = name → place q = none ∧ (read pair.2).isSome = true ∧ place q' = read pair.2) ∧
    (pair.1 ≠ name → place q' = place q)

theorem model_fills : Fills "model" Query.model some := by
  intro q q' pair h
  rcases take_cases h with ⟨name, empty, rfl⟩ | ⟨name, _, _, rfl⟩ | ⟨name, _, _, rfl⟩ | ⟨name, _, _, same, _⟩
  · exact ⟨fun _ => ⟨empty, rfl, rfl⟩, absurd name⟩
  · exact ⟨fun same => absurd (name.symm.trans same) (by decide), fun _ => rfl⟩
  · exact ⟨fun same => absurd (name.symm.trans same) (by decide), fun _ => rfl⟩
  · exact ⟨fun model => absurd model name, fun _ => same⟩

theorem filler_fills : Fills "filler" Query.filler flag? := by
  intro q q' pair h
  rcases take_cases h with ⟨name, _, rfl⟩ | ⟨name, empty, present, rfl⟩ | ⟨name, _, _, rfl⟩ |
    ⟨_, name, _, _, same, _⟩
  · exact ⟨fun same => absurd (name.symm.trans same) (by decide), fun _ => rfl⟩
  · exact ⟨fun _ => ⟨empty, present, rfl⟩, absurd name⟩
  · exact ⟨fun same => absurd (name.symm.trans same) (by decide), fun _ => rfl⟩
  · exact ⟨fun filler => absurd filler name, fun _ => same⟩

theorem lenient_fills : Fills "lenient" Query.lenient flag? := by
  intro q q' pair h
  rcases take_cases h with ⟨name, _, rfl⟩ | ⟨name, _, _, rfl⟩ | ⟨name, empty, present, rfl⟩ |
    ⟨_, _, name, _, _, same⟩
  · exact ⟨fun same => absurd (name.symm.trans same) (by decide), fun _ => rfl⟩
  · exact ⟨fun same => absurd (name.symm.trans same) (by decide), fun _ => rfl⟩
  · exact ⟨fun _ => ⟨empty, present, rfl⟩, absurd name⟩
  · exact ⟨fun lenient => absurd lenient name, fun _ => same⟩

section

variable {α : Type} {name : String} {place : Query → Option α} {read : String → Option α}

/-- Of a query that is read, a pair of the name that fills a place is the only one, and the place holds
what is read of it. Without such a pair it stays as it is. -/
theorem foldlM_filled (fills : Fills name place read) {pairs : List (String × String)}
    (h : pairs.foldlM take q = some q') :
    (name ∉ pairs.map Prod.fst → place q' = place q) ∧
    ∀ value, (name, value) ∈ pairs →
      place q = none ∧ (read value).isSome = true ∧ place q' = read value := by
  induction pairs generalizing q with
  | nil =>
      cases h
      exact ⟨fun _ => rfl, nofun⟩
  | cons pair pairs ih =>
      rw [List.foldlM_cons] at h
      obtain ⟨onward, hq, h⟩ := Option.bind_eq_some_iff.mp h
      obtain ⟨absent, given⟩ := ih h
      obtain ⟨named, other⟩ := fills hq
      -- A place that the first pair fills is not filled again.
      have last (same : pair.1 = name) : name ∉ pairs.map Prod.fst := by
        obtain ⟨_, present, filled⟩ := named same
        intro again
        obtain ⟨⟨_, value⟩, hp, rfl⟩ := List.mem_map.mp again
        rw [(given value hp).1] at filled
        rw [← filled] at present
        exact absurd present nofun
      refine ⟨fun missing => ?missing, fun value mem => ?mem⟩
      case missing =>
        rw [List.map_cons, List.mem_cons, not_or] at missing
        rw [absent missing.2, other fun same => missing.1 same.symm]
      case mem =>
        rcases List.mem_cons.mp mem with rfl | mem
        · obtain ⟨empty, present, filled⟩ := named rfl
          exact ⟨empty, present, (absent (last rfl)).trans filled⟩
        · have apart : pair.1 ≠ name := fun same =>
            last same (List.mem_map.mpr ⟨_, mem, rfl⟩)
          rw [← other apart]
          exact given value mem

end
end Http.Query

/-- The query makes the choice, and what it leaves open is as in the defaults. A query cannot choose the
size of the surface. -/
structure Choice.ByQuery (defaults : Options) (pairs : List (String × String)) (c : Choice) : Prop where
  model : ∀ name, ("model", name) ∈ pairs → Model.simplified name ∈ c.model.names
  modelOpen : "model" ∉ pairs.map Prod.fst → c.model = defaults.model
  filler : ∀ word, ("filler", word) ∈ pairs → word = toString c.filler
  fillerOpen : "filler" ∉ pairs.map Prod.fst → c.filler = defaults.drawFiller
  lenient : ∀ word, ("lenient", word) ∈ pairs → word = toString c.lenient
  lenientOpen : "lenient" ∉ pairs.map Prod.fst → c.lenient = defaults.acceptAnyGraphicsMode
  maxWidth : c.maxWidth = defaults.maxWidth
  maxHeight : c.maxHeight = defaults.maxHeight

namespace Http.Query

theorem flag?_toString (b : Bool) : flag? (toString b) = some b := by
  cases b <;> rfl

variable {text : String} {q : Query} {defaults : Options} {c : Choice}

/-- A flag that the query chooses or leaves open has the value that is read of it, or the default. -/
theorem flag_getD {name : String} {place : Query → Option Bool} {b standard : Bool}
    (fills : Fills name place flag?) (reads : parse? text = some q)
    (chosen : ∀ word, (name, word) ∈ formPairs text → word = toString b)
    (unsaid : name ∉ (formPairs text).map Prod.fst → b = standard) (start : place .empty = none) :
    (place q).getD standard = b := by
  obtain ⟨absent, given⟩ := foldlM_filled fills reads
  by_cases present : name ∈ (formPairs text).map Prod.fst
  · obtain ⟨⟨_, word⟩, mem, rfl⟩ := List.mem_map.mp present
    rw [(given word mem).2.2, chosen word mem, flag?_toString]
    rfl
  · rw [absent present, start, unsaid present]
    rfl

theorem options_of_model {m : Model} (named : q.model.elim (.ok defaults.model) Model.parse = .ok m) :
    ∃ o, q.options defaults = .ok o ∧ o.choice =
      ⟨m, q.filler.getD defaults.drawFiller, q.lenient.getD defaults.acceptAnyGraphicsMode,
        defaults.maxWidth, defaults.maxHeight⟩ := by
  unfold options
  cases hm : q.model with
  | none =>
      rw [hm] at named
      cases named
      exact ⟨_, rfl, rfl⟩
  | some name =>
      rw [hm, Option.elim_some] at named
      simp only [named]
      exact ⟨_, rfl, rfl⟩

/-- The choice that a query makes is in the options of its decode. -/
theorem options_byQuery (reads : parse? text = some q) (h : c.ByQuery defaults (formPairs text)) :
    ∃ o, q.options defaults = .ok o ∧ o.choice = c := by
  obtain ⟨absent, given⟩ := foldlM_filled model_fills reads
  have named : q.model.elim (.ok defaults.model) Model.parse = .ok c.model := by
    by_cases present : "model" ∈ (formPairs text).map Prod.fst
    · obtain ⟨⟨_, name⟩, mem, rfl⟩ := List.mem_map.mp present
      rw [(given name mem).2.2]
      exact Model.parse_eq_ok_iff.mpr (h.model name mem)
    · rw [absent present, h.modelOpen present]
      rfl
  obtain ⟨o, options, choice⟩ := options_of_model named
  refine ⟨o, options, ?_⟩
  rw [choice, flag_getD filler_fills reads h.filler h.fillerOpen rfl,
    flag_getD lenient_fills reads h.lenient h.lenientOpen rfl, ← h.maxWidth, ← h.maxHeight]

end Http.Query
end LabelStream
