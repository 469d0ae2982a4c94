import LabelStream.CommandLine.Arguments
import Mathlib.Data.List.TakeWhile

/-! Words of a command line by the way they are spelt: which begin an option, which can be the value of
one, and which are numbers or names of models. -/
namespace LabelStream.CommandLine

/-! ### Shapes -/

/-- No option is read from the word: it is a hyphen alone or begins with something else. -/
def Bare (word : String) : Prop := word = "-" ∨ word.toList.head? ≠ some '-'

/-- How the words of each shape are spelt. -/
inductive Shaped : String → Shape → Prop
  | escape : Shaped "--" .escape
  | long {name : String} (named : name ≠ "") (unmarked : '=' ∉ name.toList) :
      Shaped ("--" ++ name) (.long name none)
  | longValue {name : String} (unmarked : '=' ∉ name.toList) (value : String) :
      Shaped ("--" ++ name ++ "=" ++ value) (.long name (some value))
  | short {letter : Char} (one : letter ≠ '-') :
      Shaped (String.ofList ['-', letter]) (.short letter none)
  | shortMarked {letter : Char} (one : letter ≠ '-') (value : String) :
      Shaped (String.ofList ('-' :: letter :: '=' :: value.toList)) (.short letter (some value))
  | shortTight {letter : Char} (one : letter ≠ '-') {value : String} (present : value ≠ "")
      (unmarked : value.toList.head? ≠ some '=') :
      Shaped (String.ofList ('-' :: letter :: value.toList)) (.short letter (some value))
  | plain {word : String} (bare : Bare word) : Shaped word .plain

theorem shape_long {word : String} {rest : List Char} (text : word.toList = '-' :: '-' :: rest)
    (present : rest ≠ []) : shape word =
      match rest.dropWhile (· != '=') with
      | [] => .long (String.ofList (rest.takeWhile (· != '='))) none
      | _ :: value => .long (String.ofList (rest.takeWhile (· != '='))) (some (String.ofList value)) := by
  cases rest with
  | nil => exact absurd rfl present
  | cons c rest =>
      unfold shape
      rw [text]
      rfl

/-- The value that is written behind a letter, with or without an equals sign. -/
def attached : List Char → Option String
  | [] => none
  | '=' :: value => some (String.ofList value)
  | value => some (String.ofList value)

theorem shape_short {word : String} {letter : Char} {rest : List Char}
    (text : word.toList = '-' :: letter :: rest) (one : letter ≠ '-') :
    shape word = .short letter (attached rest) := by
  unfold shape
  rw [text]
  split
  next h =>
    cases h
    exact absurd rfl one
  next h =>
    cases h
    exact absurd rfl one
  next h =>
    cases h
    split
    next => rfl
    next => rfl
    next present unmarked => exact congrArg _ (attached.eq_3 _ present unmarked).symm
  next h => exact absurd rfl (h _ _)

theorem shape_plain {word : String} (bare : Bare word) : shape word = .plain := by
  have other : ∀ letter rest, word.toList ≠ '-' :: letter :: rest := by
    intro letter rest text
    rcases bare with rfl | first
    · exact absurd text (by simp)
    · rw [text] at first
      exact first rfl
  unfold shape
  split
  next text => exact absurd text (other _ _)
  next text => exact absurd text (other _ _)
  next text => exact absurd text (other _ _)
  next => rfl

theorem forall_bne_of_unmarked {name : String} (unmarked : '=' ∉ name.toList) :
    ∀ c ∈ name.toList, (c != '=') = true := fun _ hc => bne_iff_ne.mpr fun same => unmarked (same ▸ hc)

theorem shape_of_shaped {word : String} {s : Shape} (h : Shaped word s) : shape word = s := by
  cases h with
  | escape => rfl
  | @long name named unmarked =>
      have text : ("--" ++ name).toList = '-' :: '-' :: name.toList := by
        rw [String.toList_append]
        rfl
      have all := forall_bne_of_unmarked unmarked
      rw [shape_long text fun none => named (String.toList_inj.mp none), List.dropWhile_eq_nil_iff.mpr all,
        List.takeWhile_eq_self_iff.mpr all, String.ofList_toList]
  | @longValue name unmarked value =>
      have text : ("--" ++ name ++ "=" ++ value).toList =
          '-' :: '-' :: (name.toList ++ '=' :: value.toList) := by
        rw [String.toList_append, String.toList_append, String.toList_append, List.append_assoc]
        rfl
      have all := forall_bne_of_unmarked unmarked
      rw [shape_long text (by simp), List.dropWhile_append_of_pos all, List.takeWhile_append_of_pos all,
        List.dropWhile_cons_of_neg (by decide), List.takeWhile_cons_of_neg (by decide), List.append_nil,
        String.ofList_toList]
      simp only [String.ofList_toList]
  | short one => exact shape_short (String.toList_ofList) one
  | @shortMarked letter one value =>
      rw [shape_short String.toList_ofList one, attached, String.ofList_toList]
  | @shortTight letter one value present unmarked =>
      have some : attached value.toList = some value := by
        rw [attached.eq_3 _ (fun none => present (String.toList_inj.mp none))
          (fun rest text => unmarked (by rw [text]; rfl)), String.ofList_toList]
      rw [shape_short String.toList_ofList one, some]
  | plain bare => exact shape_plain bare

theorem shaped_long {word : String} {rest : List Char} (text : word.toList = '-' :: '-' :: rest) :
    Shaped word (shape word) := by
  by_cases none : rest = []
  · subst none
    have written : word = "--" := String.toList_inj.mp text
    rw [written]
    exact .escape
  have parts : rest.takeWhile (· != '=') ++ rest.dropWhile (· != '=') = rest :=
    List.takeWhile_append_dropWhile
  have unmarked : '=' ∉ (String.ofList (rest.takeWhile (· != '='))).toList := by
    rw [String.toList_ofList]
    exact fun inside => Bool.false_ne_true (List.mem_takeWhile_imp inside)
  rw [shape_long text none]
  cases hd : rest.dropWhile (· != '=') with
  | nil =>
      rw [hd, List.append_nil] at parts
      have written : word = "--" ++ String.ofList (rest.takeWhile (· != '=')) := by
        rw [parts]
        exact String.toList_inj.mp (by rw [text, String.toList_append, String.toList_ofList]; simp)
      rw [written]
      refine .long (fun empty => none ?_) unmarked
      rw [← parts, ← String.toList_ofList (l := List.takeWhile _ rest), empty]
      rfl
  | cons mark value =>
      have left : rest.dropWhile (· != '=') ≠ [] := hd ▸ List.cons_ne_nil mark value
      have stopped := List.head_dropWhile_not (· != '=') left
      simp only [hd, List.head_cons, bne_eq_false_iff_eq] at stopped
      subst stopped
      have written : word = "--" ++ String.ofList (rest.takeWhile (· != '=')) ++ "=" ++
          String.ofList value := by
        rw [hd] at parts
        exact String.toList_inj.mp (by simpa [text] using parts.symm)
      rw [written]
      exact .longValue unmarked _

theorem shaped_short {letter : Char} (rest : List Char) (one : letter ≠ '-') :
    Shaped (String.ofList ('-' :: letter :: rest)) (.short letter (attached rest)) := by
  rcases rest with _ | ⟨mark, value⟩
  · exact .short one
  by_cases marked : mark = '='
  · subst marked
    have spelt := Shaped.shortMarked one (String.ofList value)
    rw [String.toList_ofList] at spelt
    exact spelt
  · have present : String.ofList (mark :: value) ≠ "" := fun empty =>
      List.cons_ne_nil mark value (by rw [← String.toList_ofList (l := mark :: value), empty]; rfl)
    have unmarked : (String.ofList (mark :: value)).toList.head? ≠ some '=' := by
      rw [String.toList_ofList]
      exact fun same => marked (Option.some.inj same)
    have spelt := Shaped.shortTight one present unmarked
    rw [String.toList_ofList] at spelt
    rw [attached.eq_3 _ (List.cons_ne_nil _ _) fun value same => marked (List.cons.inj same).1]
    exact spelt

/-- Every word has the one shape that it is spelt in. -/
theorem shape_eq_iff {word : String} {s : Shape} : shape word = s ↔ Shaped word s := by
  refine ⟨?_, shape_of_shaped⟩
  rintro rfl
  have plain (bare : Bare word) : Shaped word (shape word) := shape_plain bare ▸ .plain bare
  rcases text : word.toList with _ | ⟨first, _ | ⟨letter, rest⟩⟩
  · exact plain (.inr (by rw [text]; exact nofun))
  · by_cases hyphen : first = '-'
    · exact plain (.inl (String.toList_inj.mp (text.trans (by rw [hyphen]; rfl))))
    · exact plain (.inr (by rw [text]; exact fun same => hyphen (Option.some.inj same)))
  · by_cases hyphen : first = '-'
    · subst hyphen
      by_cases two : letter = '-'
      · exact shaped_long (two ▸ text)
      · rw [shape_short text two, ← String.ofList_toList (s := word), text]
        exact shaped_short rest two
    · exact plain (.inr (by rw [text]; exact fun same => hyphen (Option.some.inj same)))

theorem isValue_iff {word : String} : isValue word = true ↔ Bare word := by
  constructor
  · intro looks
    have shaped : Shaped word (shape word) := shape_eq_iff.mp rfl
    unfold isValue at looks
    generalize shape word = form at shaped looks
    cases shaped with
    | plain bare => exact bare
    | _ => exact absurd looks Bool.false_ne_true
  · intro bare
    rw [isValue, shape_plain bare]

/-! ### Values -/

/-- The word is a number in digits, perhaps behind a plus sign, that is small enough for a size. -/
def Numeral (word : String) (n : Nat) : Prop :=
  ∃ digits, digits ≠ [] ∧ (∀ c ∈ digits, c.isDigit = true) ∧
    (word.toList = digits ∨ word.toList = '+' :: digits) ∧
    Nat.ofDigitChars 10 digits 0 = n ∧ n < sizeLimit

/-- The digits of a number, its plus sign taken off. -/
def unsigned : List Char → List Char
  | '+' :: digits => digits
  | digits => digits

theorem unsigned_cases (text : List Char) : text = unsigned text ∨ text = '+' :: unsigned text := by
  unfold unsigned
  split
  · exact .inr rfl
  · exact .inl rfl

theorem unsigned_eq {text digits : List Char} (all : ∀ c ∈ digits, c.isDigit = true)
    (written : text = digits ∨ text = '+' :: digits) : unsigned text = digits := by
  rcases written with rfl | rfl
  · unfold unsigned
    split
    · exact absurd (all '+' List.mem_cons_self) (by decide)
    · rfl
  · rfl

theorem size?_eq (word : String) : size? word =
    if (unsigned word.toList).isEmpty || !(unsigned word.toList).all Char.isDigit then none
    else if Nat.ofDigitChars 10 (unsigned word.toList) 0 < sizeLimit then
      some (Nat.ofDigitChars 10 (unsigned word.toList) 0)
    else none := by
  rw [Nat.ofDigitChars_eq_foldl]
  simp only [Nat.mul_comm 10]
  rfl

theorem size?_eq_some_iff {word : String} {n : Nat} : size? word = some n ↔ Numeral word n := by
  rw [size?_eq]
  constructor
  · intro read
    split at read
    next => exact absurd read nofun
    next digital =>
      split at read
      next small =>
        simp only [Bool.or_eq_true, List.isEmpty_iff, Bool.not_eq_true', not_or, Bool.not_eq_false,
          List.all_eq_true] at digital
        cases read
        exact ⟨_, digital.1, digital.2, unsigned_cases _, rfl, small⟩
      next => exact absurd read nofun
  · rintro ⟨digits, present, all, written, rfl, small⟩
    have digital : digits.all Char.isDigit = true := List.all_eq_true.mpr all
    rw [unsigned_eq all written, digital, if_neg (by simpa using present), if_pos small]

theorem ofName?_eq_some_iff {name : String} {m : Model} : Model.ofName? name = some m ↔ name ∈ m.names := by
  constructor
  · intro found
    have named := List.find?_some found
    exact List.contains_iff_mem.mp named
  · cases m <;> simp only [Model.names, List.mem_cons, List.not_mem_nil, or_false]
    · rintro rfl; decide
    · rintro (rfl | rfl) <;> decide
    · rintro rfl; decide
    · rintro (rfl | rfl) <;> decide

end LabelStream.CommandLine
