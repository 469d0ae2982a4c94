import LabelStream.Options.Document
import LabelStream.Proofs.JsonGrammar
import Mathlib.Data.List.Nodup

/-! Options that are written are read back. Any part of the fields, in any order and among any other
members, gives just these fields; a field that is given twice gives nothing. -/
namespace LabelStream.Options

/-- All sizes are below the limit. -/
structure Sized (o : Options) : Prop where
  batchSize : o.batchSize < sizeLimit
  maxWidth : o.maxWidth < sizeLimit
  maxHeight : o.maxHeight < sizeLimit

/-- The options in the named fields, and the standard in all others. -/
def restricted (names : List String) (o : Options) : Options where
  compressionHint := if "compression_hint" ∈ names then o.compressionHint else standard.compressionHint
  trace := if "trace" ∈ names then o.trace else standard.trace
  model := if "model" ∈ names then o.model else standard.model
  drawFiller := if "draw_filler" ∈ names then o.drawFiller else standard.drawFiller
  acceptAnyGraphicsMode :=
    if "accept_any_graphics_mode" ∈ names then o.acceptAnyGraphicsMode else standard.acceptAnyGraphicsMode
  batchSize := if "batch_size" ∈ names then o.batchSize else standard.batchSize
  maxWidth := if "max_width" ∈ names then o.maxWidth else standard.maxWidth
  maxHeight := if "max_height" ∈ names then o.maxHeight else standard.maxHeight

/-- The members give a part of the options, and no field more than once; any of them may have a name that
is no field's and any value. -/
structure Gives (o : Options) (members : List (String × Json)) : Prop where
  values : ∀ member ∈ members, (∃ field ∈ fields, member = (field.name, field.get o)) ∨
    ∀ field ∈ fields, field.name ≠ member.1
  once : ∀ field ∈ fields, (members.map Prod.fst).count field.name ≤ 1

def document (members : List (String × Json)) : Json :=
  .object (members.map fun member => (some member.1, member.2))

/-! ### Fields -/

theorem field?_name {field : Field} (h : field ∈ fields) : field? field.name = some field := by
  simp only [fields, List.mem_cons, List.not_mem_nil, or_false] at h
  rcases h with rfl | rfl | rfl | rfl | rfl | rfl | rfl | rfl <;> rfl

theorem field?_unknown {name : String} (h : ∀ field ∈ fields, field.name ≠ name) :
    field? name = none :=
  List.find?_eq_none.mpr fun field hf => by simpa using h field hf

theorem ofId?_id (model : Model) : Model.ofId? model.id = some model := by
  cases model <;> rfl

theorem size?_natural {n : Nat} (h : n < sizeLimit) : size? (.natural n) = some n := if_pos h

/-- A field takes over its own value and leaves all others as they are. -/
theorem set_get {o : Options} (sized : o.Sized) (names : List String) {field : Field}
    (h : field ∈ fields) :
    field.set (field.get o) (o.restricted names) = some (o.restricted (field.name :: names)) := by
  obtain ⟨batchSize, maxWidth, maxHeight⟩ := sized
  simp only [fields, List.mem_cons, List.not_mem_nil, or_false] at h
  rcases h with rfl | rfl | rfl | rfl | rfl | rfl | rfl | rfl <;>
    simp [restricted, flag?, model?, ofId?_id, size?_natural, batchSize, maxWidth, maxHeight]

/-- Only the names of fields matter. -/
theorem restricted_congr {names others : List String}
    (h : ∀ field ∈ fields, field.name ∈ names ↔ field.name ∈ others) (o : Options) :
    o.restricted names = o.restricted others := by
  simp only [fields, List.forall_mem_cons, List.not_mem_nil, false_implies, implies_true, and_true] at h
  simp only [restricted, h]

theorem restricted_all (o : Options) : o.restricted (fields.map Field.name) = o := by
  simp [restricted, fields]

/-! ### Members -/

theorem takeMembers_gives {o : Options} (sized : o.Sized) {members : List (String × Json)}
    (values : ∀ member ∈ members, (∃ field ∈ fields, member = (field.name, field.get o)) ∨
      ∀ field ∈ fields, field.name ≠ member.1) (given : List String)
    (once : ∀ field ∈ fields, (members.map Prod.fst ++ given).count field.name ≤ 1) :
    takeMembers given (o.restricted given) (members.map fun member => (some member.1, member.2)) =
      some (o.restricted (members.map Prod.fst ++ given)) := by
  induction members generalizing given with
  | nil => rfl
  | cons member members ih =>
      obtain ⟨own, others⟩ := List.forall_mem_cons.mp values
      rcases own with ⟨field, hf, rfl⟩ | unknown
      case inl =>
        have fresh : given.contains field.name = false := by
          have count := once field hf
          simp only [List.map_cons, List.cons_append, List.count_cons_self, List.count_append] at count
          rw [← Bool.not_eq_true, List.contains_iff_mem, ← List.count_pos_iff]
          omega
        have moved : (members.map Prod.fst ++ field.name :: given).Perm
            (field.name :: (members.map Prod.fst ++ given)) := List.perm_middle
        have onward := ih others (field.name :: given) fun other ho => by
          rw [moved.count_eq]
          exact once other ho
        rw [List.map_cons, takeMembers, field?_name hf]
        simp only [fresh, Bool.false_eq_true, if_false, set_get sized given hf, onward]
        exact congrArg some (restricted_congr (fun other _ => moved.mem_iff) o)
      case inr =>
        have onward := ih others given fun field hf => by
          have count := once field hf
          rw [List.map_cons, List.cons_append, List.count_cons_of_ne (unknown field hf).symm] at count
          exact count
        rw [List.map_cons, takeMembers, field?_unknown unknown]
        refine onward.trans (congrArg some (restricted_congr (fun field hf => ?_) o))
        rw [List.map_cons, List.cons_append, List.mem_cons]
        exact ⟨.inr, fun h => h.resolve_left (unknown field hf)⟩

/-- Where members are taken over, each field is given once at most. -/
theorem takeMembers_once {given : List String} {o result : Options} {members : List (JsonText × Json)}
    (h : takeMembers given o members = some result) {field : Field} (hf : field ∈ fields) :
    (members.map Prod.fst).count (some field.name) ≤ if field.name ∈ given then 0 else 1 := by
  fun_induction takeMembers given o members with
  | case1 => exact Nat.zero_le _
  | case2 => cases h
  | case3 given o name value rest unknown ih =>
      have apart : (some name : JsonText) ≠ some field.name := by
        rintro same
        cases same
        rw [field?_name hf] at unknown
        cases unknown
      rw [List.map_cons, List.count_cons_of_ne apart]
      exact ih h
  | case4 => cases h
  | case5 => cases h
  | case6 given o name value rest taken known fresh next set ih =>
      have onward := ih h
      rcases eq_or_ne name field.name with rfl | apart
      case inl =>
        have absent : field.name ∉ given := fun present => fresh (List.contains_iff_mem.mpr present)
        rw [if_pos List.mem_cons_self] at onward
        rw [List.map_cons, List.count_cons_self, if_neg absent]
        exact Nat.succ_le_succ onward
      case inr =>
        have others : (some name : JsonText) ≠ some field.name := fun same => apart (Option.some.inj same)
        simp only [List.mem_cons, apart.symm, false_or] at onward
        rw [List.map_cons, List.count_cons_of_ne others]
        exact onward

/-! ### Documents -/

theorem ofJson?_document {o : Options} (sized : o.Sized) {members : List (String × Json)}
    (gives : o.Gives members) :
    ofJson? (document members) = some (o.restricted (members.map Prod.fst)) := by
  have once : ∀ field ∈ fields, (members.map Prod.fst ++ []).count field.name ≤ 1 := by
    rw [List.append_nil]
    exact gives.once
  have taken := takeMembers_gives sized gives.values [] once
  rw [List.append_nil] at taken
  exact taken

theorem toJson_gives (o : Options) : o.Gives (fields.map fun field => (field.name, field.get o)) where
  values := by
    intro member hm
    obtain ⟨field, hf, rfl⟩ := List.mem_map.mp hm
    exact .inl ⟨field, hf, rfl⟩
  once := by
    have distinct : (fields.map Field.name).Nodup := by decide
    intro field _
    rw [List.map_map]
    exact List.nodup_iff_count_le_one.mp distinct field.name

theorem ofJson?_toJson {o : Options} (sized : o.Sized) : ofJson? o.toJson = some o := by
  have whole : o.toJson = document (fields.map fun field => (field.name, field.get o)) := by
    rw [document, List.map_map]
    rfl
  have names : (fields.map fun field => (field.name, field.get o)).map Prod.fst =
      fields.map Field.name := by
    rw [List.map_map]
    rfl
  rw [whole, ofJson?_document sized o.toJson_gives, names, restricted_all]

theorem toJson_proper (o : Options) : o.toJson.Proper := by
  simp [Json.Proper, toJson, fields, Json.tokens, Json.memberTokens, Json.Token.Proper]

theorem ofJson?_twice {members : List (JsonText × Json)} {field : Field} (hf : field ∈ fields)
    (twice : 2 ≤ (members.map Prod.fst).count (some field.name)) :
    ofJson? (.object members) = none := by
  cases h : takeMembers [] standard members with
  | none => exact h
  | some result =>
      have once := takeMembers_once h hf
      rw [if_neg List.not_mem_nil] at once
      omega

/-- Options with all sizes below the limit are read back from their text. A text that gives a part of them,
however it is written, gives the standard in all other fields. A text that gives a field twice gives no
options. -/
theorem parse_written {o : Options} (sized : o.Sized) :
    parse? o.text = some o ∧
    (∀ members text, o.Gives members → (document members).Spelt text →
      parse? text = some (o.restricted (members.map Prod.fst))) ∧
    (∀ text members, Json.parse? text = some (.object members) →
      (∃ field ∈ fields, 2 ≤ (members.map Prod.fst).count (some field.name)) → parse? text = none) ∧
    ∀ (value : Json) text, value.Spelt text → Json.parse? text = some value := by
  refine ⟨?whole, ?part, ?twice, fun _ _ spelt => Json.parse_spelt spelt⟩
  case whole =>
    rw [parse?, text, Json.parse_text o.toJson_proper]
    exact ofJson?_toJson sized
  case part =>
    intro members text gives spelt
    rw [parse?, Json.parse_spelt spelt]
    exact ofJson?_document sized gives
  case twice =>
    rintro text members read ⟨field, hf, twice⟩
    rw [parse?, read]
    exact ofJson?_twice hf twice

/-- A model, a size as large as they get, and remarks that no field stands for. -/
def remarked : List (String × Json) := [
  ("remark", .array [.decimal "-1.5e3", .object [(some "trace", .null)]]),
  ("max_width", .natural 18446744073709551615), ("remark", .bool false), ("model", .string "ql1060")]

def widest : Options :=
  { standard with trace := true, model := .ql1060, maxWidth := 18446744073709551615 }

theorem widest_sized : widest.Sized := by
  constructor <;> decide

theorem remarked_spelt : (document remarked).Spelt (document remarked).text := by
  have number : Json.Numeral "-1.5e3".toList :=
    @Json.Numeral.parts ['-'] ['1'] ['.', '5'] ['e', '3'] (by decide)
      (.positive (by decide) ((Json.digits_iff _).mpr rfl)) (.digits ((Json.digits_iff _).mpr rfl))
      (@Json.Exponent.digits 'e' [] ['3'] (by decide) (by decide) ((Json.digits_iff _).mpr rfl))
      (by decide)
  refine Json.spelt_text ?_
  simp [document, remarked, Json.tokens, Json.memberTokens, Json.itemTokens, Json.Token.Writable]
  exact number

theorem widest_gives : widest.Gives remarked where
  values := by simp [remarked, fields, widest, standard, Model.id]
  once := by simp [remarked, fields]

theorem remarked_parse :
    widest.Sized ∧ parse? widest.text = some widest ∧
      parse? (document remarked).text = some { widest with trace := false } ∧
      parse? (document [("trace", .bool true), ("trace", .null)]).text = none := by
  obtain ⟨whole, part, twice, spelt⟩ := parse_written widest_sized
  have double : (document [("trace", .bool true), ("trace", .null)]).Spelt
      (document [("trace", .bool true), ("trace", .null)]).text := by
    refine Json.spelt_text ?_
    simp [document, Json.tokens, Json.memberTokens, Json.Token.Writable]
  refine ⟨widest_sized, whole, ?_, twice _ _ (spelt _ _ double) ?_⟩
  · rw [part remarked _ widest_gives remarked_spelt]
    rfl
  · exact ⟨_, List.mem_cons_of_mem _ List.mem_cons_self, by decide⟩

end LabelStream.Options
