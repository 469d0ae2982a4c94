import LabelStream.Proofs.JsonText
import Mathlib.Data.List.Forall2

/-! JSON as a language. Between its tokens a value may be written with any blanks, and in its strings with
any escapes; however it is written, it is read. -/
namespace LabelStream.Json

/-! ### The language -/

/-- The letters that stand for a character behind a backslash. -/
def shortEscapes : List (Char × Char) := [
  ('"', '"'), ('\\', '\\'), ('/', '/'), ('\x08', 'b'), ('\x0c', 'f'), ('\n', 'n'), ('\r', 'r'),
  ('\t', 't')]

/-- The ways to write a unit of sixteen bits as an escape. -/
inductive SpeltUnit : Nat → List Char → Prop where
  | escape {unit : Nat} {a b c d : Char} (h : unit? a b c d = some unit) :
      SpeltUnit unit ['\\', 'u', a, b, c, d]

inductive SpeltChar : Char → List Char → Prop where
  | plain {c : Char} (unquoted : c ≠ '"') (backslash : c ≠ '\\') (visible : 32 ≤ c.toNat) :
      SpeltChar c [c]
  | short {c letter : Char} (h : (c, letter) ∈ shortEscapes) : SpeltChar c ['\\', letter]
  | unit {c : Char} {word : List Char} (h : SpeltUnit c.toNat word) : SpeltChar c word
  | pair {c : Char} {high low : Nat} {first second : List Char} (hf : SpeltUnit high first)
      (hs : SpeltUnit low second) (hh : isHigh high = true) (hl : isLow low = true)
      (hc : c.toNat = 0x10000 + (high - 0xD800) * 0x400 + (low - 0xDC00)) :
      SpeltChar c (first ++ second)

/-- One digit or more. -/
def Digits (cs : List Char) : Prop := cs ≠ [] ∧ ∀ c ∈ cs, isDigit c = true

/-- The whole part of a number: no digit follows a leading zero. -/
inductive Whole : List Char → Prop where
  | zero : Whole ['0']
  | positive {c : Char} {rest : List Char} (nonzero : c ≠ '0') (h : Digits (c :: rest)) :
      Whole (c :: rest)

inductive Fraction : List Char → Prop where
  | none : Fraction []
  | digits {cs : List Char} (h : Digits cs) : Fraction ('.' :: cs)

inductive Exponent : List Char → Prop where
  | none : Exponent []
  | digits {mark : Char} {sign cs : List Char} (hm : mark ∈ ['e', 'E']) (hs : sign ∈ [[], ['+'], ['-']])
      (h : Digits cs) : Exponent (mark :: (sign ++ cs))

/-- The numbers that are negative or have a fraction or an exponent. -/
inductive Numeral : List Char → Prop where
  | parts {sign whole fraction exponent : List Char} (hs : sign ∈ [[], ['-']]) (hw : Whole whole)
      (hf : Fraction fraction) (he : Exponent exponent) (more : sign ++ (fraction ++ exponent) ≠ []) :
      Numeral (sign ++ (whole ++ (fraction ++ exponent)))

/-- There is one way only to write the token. -/
def Token.isFixed : Token → Bool
  | .decimal _ | .string _ => false
  | .null | .bool _ | .natural _ | .openArray | .closeArray | .openObject | .closeObject | .comma
  | .colon => true

/-- The ways to write a token. Half a surrogate pair is in no string. -/
inductive Token.Spelt : Token → List Char → Prop where
  | fixed {token : Token} (h : token.isFixed = true) : Spelt token token.write
  | decimal {literal : String} (h : Numeral literal.toList) : Spelt (.decimal literal) literal.toList
  | string {text : String} {words : List (List Char)} (h : List.Forall₂ SpeltChar text.toList words) :
      Spelt (.string (some text)) ('"' :: (words.flatten ++ ['"']))

inductive SpeltTokens : List Token → List Char → Prop where
  | nil {blanks : List Char} (hb : ∀ c ∈ blanks, isBlank c = true) : SpeltTokens [] blanks
  | cons {token : Token} {tokens : List Token} {blanks word rest : List Char}
      (hb : ∀ c ∈ blanks, isBlank c = true) (hw : token.Spelt word) (hr : SpeltTokens tokens rest) :
      SpeltTokens (token :: tokens) (blanks ++ (word ++ rest))

def Spelt (value : Json) (text : String) : Prop := SpeltTokens value.tokens text.toList

/-! ### Strings -/

theorem SpeltUnit.read {unit : Nat} {word : List Char} (h : SpeltUnit unit word) (seen : List Nat)
    (rest : List Char) : readUnits seen (word ++ rest) = readUnits (unit :: seen) rest := by
  cases h with
  | escape h => simp only [List.cons_append, List.nil_append, readUnits, h]

theorem readUnits_short {c letter : Char} (h : (c, letter) ∈ shortEscapes) (seen : List Nat)
    (rest : List Char) : readUnits seen ('\\' :: letter :: rest) = readUnits (c.toNat :: seen) rest := by
  simp only [shortEscapes, List.mem_cons, Prod.mk.injEq, List.not_mem_nil, or_false] at h
  rcases h with ⟨rfl, rfl⟩ | ⟨rfl, rfl⟩ | ⟨rfl, rfl⟩ | ⟨rfl, rfl⟩ | ⟨rfl, rfl⟩ | ⟨rfl, rfl⟩ |
    ⟨rfl, rfl⟩ | ⟨rfl, rfl⟩ <;> simp [readUnits, simpleEscape?]

/-- A character is read as one unit or as the two halves of a pair, and these make the character. -/
theorem SpeltChar.read {c : Char} {word : List Char} (h : SpeltChar c word) : ∃ units,
    (∀ seen rest, readUnits seen (word ++ rest) = readUnits (units.reverse ++ seen) rest) ∧
      ∀ seen more, assemble seen (units ++ more) = assemble (c :: seen) more := by
  have single : ∀ seen more, assemble seen ([c.toNat] ++ more) = assemble (c :: seen) more :=
    fun seen more => assemble_char seen c more
  cases h with
  | plain unquoted backslash visible =>
      exact ⟨[c.toNat], readUnits_plain unquoted backslash (Nat.not_lt.mpr visible), single⟩
  | short h => exact ⟨[c.toNat], readUnits_short h, single⟩
  | unit h => exact ⟨[c.toNat], h.read, single⟩
  | @pair high low first second hf hs hh hl hc =>
      refine ⟨[high, low], fun seen rest => ?_, fun seen more => ?_⟩
      · rw [List.append_assoc, hf.read, hs.read]
        rfl
      · have joined : Char.ofNat (0x10000 + (high - 0xD800) * 0x400 + (low - 0xDC00)) = c := by
          rw [← hc, Char.ofNat_toNat]
        simp only [List.cons_append, List.nil_append, assemble, hh, hl, if_true, joined]

/-- The characters of a string are read back, up to the quote behind them. -/
theorem readUnits_words {cs : List Char} {words : List (List Char)}
    (h : List.Forall₂ SpeltChar cs words) : ∃ units,
    (∀ seen rest, readUnits seen (words.flatten ++ '"' :: rest) = some (seen.reverse ++ units, rest)) ∧
      ∀ seen, assemble seen units = some (String.ofList (seen.reverse ++ cs)) := by
  induction h with
  | nil => exact ⟨[], fun seen rest => by simp [readUnits], fun seen => by simp [assemble]⟩
  | cons char _ ih =>
      obtain ⟨own, read, made⟩ := char.read
      obtain ⟨units, others, assembled⟩ := ih
      refine ⟨own ++ units, fun seen rest => ?_, fun seen => ?_⟩
      · rw [List.flatten_cons, List.append_assoc, read, others, List.reverse_append,
          List.reverse_reverse, List.append_assoc]
      · rw [made, assembled, List.reverse_cons, List.append_assoc]
        rfl

/-! ### Numbers -/

theorem digits_iff (cs : List Char) : Digits cs ↔ isDigits cs = true := by
  simp only [Digits, isDigits, Bool.and_eq_true, Bool.not_eq_true', List.isEmpty_eq_false_iff,
    List.all_eq_true]

theorem Digits.head {cs : List Char} (h : Digits cs) : ∃ c rest, cs = c :: rest ∧ isDigit c = true := by
  obtain ⟨c, rest, rfl⟩ := List.exists_cons_of_ne_nil h.1
  exact ⟨c, rest, rfl, h.2 c List.mem_cons_self⟩

theorem isExponent_digits {sign cs : List Char} (hs : sign ∈ [[], ['+'], ['-']]) (h : Digits cs) :
    isExponent (sign ++ cs) = true := by
  simp only [List.mem_cons, List.not_mem_nil, or_false] at hs
  rcases hs with rfl | rfl | rfl
  · obtain ⟨c, rest, rfl, digit⟩ := h.head
    rw [List.nil_append, isExponent.eq_3]
    · exact (digits_iff _).mp h
    · rintro _ same
      cases same
      cases digit
    · rintro _ same
      cases same
      cases digit
  · exact (digits_iff _).mp h
  · exact (digits_iff _).mp h

/-- An exponent is left out or begins with its letter, and what follows is read as one. -/
theorem Exponent.marked {cs : List Char} (h : Exponent cs) :
    cs = [] ∨ ∃ rest, (cs = 'e' :: rest ∨ cs = 'E' :: rest) ∧ isExponent rest = true := by
  cases h with
  | none => exact .inl rfl
  | @digits mark sign cs hm hs h =>
      simp only [List.mem_cons, List.not_mem_nil, or_false] at hm
      refine .inr ⟨sign ++ cs, ?_, isExponent_digits hs h⟩
      rcases hm with rfl | rfl
      · exact .inl rfl
      · exact .inr rfl

theorem Exponent.stop {cs : List Char} (h : Exponent cs) : ∀ c ∈ cs.head?, isDigit c = false := by
  intro c hc
  rcases h.marked with rfl | ⟨rest, rfl | rfl, _⟩ <;> cases hc <;> rfl

theorem Fraction.stop {fraction exponent : List Char} (hf : Fraction fraction) (he : Exponent exponent) :
    ∀ c ∈ (fraction ++ exponent).head?, isDigit c = false := by
  cases hf with
  | none => exact he.stop
  | digits h =>
      intro c hc
      cases hc
      rfl

theorem Whole.digits {cs : List Char} (h : Whole cs) : Digits cs := by
  cases h with
  | zero => exact ⟨List.cons_ne_nil _ _, fun c hc => by rw [List.mem_singleton.mp hc]; rfl⟩
  | positive _ h => exact h

theorem Whole.isNatural {cs : List Char} (h : Whole cs) : isNatural cs = true := by
  cases h with
  | zero => rfl
  | @positive c rest nonzero h =>
      obtain ⟨first, others⟩ := List.forall_mem_cons.mp h.2
      rw [isNatural.eq_2 _ _ fun same => absurd same nonzero, first, bne_iff_ne.mpr nonzero,
        List.all_eq_true.mpr others]
      rfl

theorem isUnsigned_parts {whole fraction exponent : List Char} (hw : Whole whole)
    (hf : Fraction fraction) (he : Exponent exponent) :
    isUnsigned (whole ++ (fraction ++ exponent)) = true := by
  obtain ⟨taken, left⟩ := cut_off hw.digits.2 (hf.stop he)
  rw [isUnsigned, taken, left, hw.isNatural, Bool.true_and]
  cases hf with
  | none => rcases he.marked with rfl | ⟨power, rfl | rfl, read⟩ <;> first | rfl | exact read
  | digits h =>
      obtain ⟨taken, left⟩ := cut_off h.2 he.stop
      simp only [List.cons_append, taken, left, (digits_iff _).mp h, Bool.true_and]
      rcases he.marked with rfl | ⟨power, rfl | rfl, read⟩ <;> first | rfl | exact read

theorem isDigit_of_isNatural {cs : List Char} (h : isNatural cs = true) : ∀ c ∈ cs, isDigit c = true := by
  unfold isNatural at h
  split at h
  next => exact fun c hc => by rw [List.mem_singleton.mp hc]; rfl
  next c rest _ =>
      simp only [Bool.and_eq_true, List.all_eq_true] at h
      exact List.forall_mem_cons.mpr ⟨h.1.1, h.2⟩
  next => cases h

/-- What makes a number more than a natural one is that some character is no digit. -/
theorem not_isNatural {cs : List Char} {c : Char} (present : c ∈ cs) (mark : isDigit c = false) :
    isNatural cs = false := by
  rw [← Bool.not_eq_true]
  intro natural
  rw [isDigit_of_isNatural natural c present] at mark
  cases mark

theorem Numeral.isNumber {cs : List Char} (h : Numeral cs) : isNumber cs = true := by
  cases h with
  | parts hs hw hf he more =>
      have unsigned := isUnsigned_parts hw hf he
      simp only [List.mem_cons, List.not_mem_nil, or_false] at hs
      rcases hs with rfl | rfl
      · obtain ⟨c, rest, rfl, digit⟩ := hw.digits.head
        rw [List.nil_append, List.cons_append, isNumber.eq_2]
        · exact unsigned
        · rintro _ same
          cases same
          cases digit
      · exact unsigned

theorem Numeral.not_isNatural {cs : List Char} (h : Numeral cs) : isNatural cs = false := by
  cases h with
  | @parts sign whole fraction exponent hs hw hf he more =>
      simp only [List.mem_cons, List.not_mem_nil, or_false] at hs
      rcases hs with rfl | rfl
      · obtain ⟨c, rest, tail⟩ := List.exists_cons_of_ne_nil more
        rw [List.nil_append] at tail
        refine Json.not_isNatural (c := c) ?_ (hf.stop he c ?_)
        · rw [tail]
          exact List.mem_append_right _ (List.mem_append_right _ List.mem_cons_self)
        · rw [tail]
          rfl
      · exact Json.not_isNatural List.mem_cons_self rfl

theorem Digits.words {cs : List Char} (h : Digits cs) : ∀ c ∈ cs, isWordChar c = true :=
  fun c hc => isWordChar_of_isDigit (h.2 c hc)

-- By `all`, for the reason that `visible_of_all` has.
theorem isWordChar_of_all {words : List (List Char)} (h : words.all (·.all isWordChar) = true)
    {word : List Char} (hw : word ∈ words) : ∀ c ∈ word, isWordChar c = true :=
  List.all_eq_true.mp (List.all_eq_true.mp h word hw)

theorem Exponent.words {cs : List Char} (h : Exponent cs) : ∀ c ∈ cs, isWordChar c = true := by
  have marks : ∀ mark ∈ ['e', 'E'], isWordChar mark = true := List.all_eq_true.mp rfl
  cases h with
  | none => exact fun _ hc => absurd hc List.not_mem_nil
  | digits hm hs h =>
      have signed := List.forall_mem_append.mpr ⟨isWordChar_of_all rfl hs, h.words⟩
      exact List.forall_mem_cons.mpr ⟨marks _ hm, signed⟩

theorem Fraction.words {cs : List Char} (h : Fraction cs) : ∀ c ∈ cs, isWordChar c = true := by
  cases h with
  | none => exact fun _ hc => absurd hc List.not_mem_nil
  | digits h => exact List.forall_mem_cons.mpr ⟨rfl, h.words⟩

theorem Numeral.words {cs : List Char} (h : Numeral cs) : ∀ c ∈ cs, isWordChar c = true := by
  cases h with
  | parts hs hw hf he more =>
      simp only [List.forall_mem_append]
      exact ⟨isWordChar_of_all rfl hs, hw.digits.words, hf.words, he.words⟩

theorem Numeral.proper {literal : String} (h : Numeral literal.toList) :
    (Token.decimal literal).Proper :=
  ⟨h.isNumber, h.not_isNatural, h.words⟩

/-! ### Tokens and values -/

/-- However a token is written, it is cut off whole. -/
theorem Token.Spelt.lex {token : Token} {word rest : List Char} (h : token.Spelt word)
    (ends : token.isWord = true → Ends rest) (seen : List Token) :
    lex seen (word ++ rest) = lex (token :: seen) rest := by
  cases h with
  | fixed fixed =>
      refine lex_token ?_ ends seen
      cases token with
      | decimal literal => cases fixed
      | _ => trivial
  | decimal number => exact lex_token number.proper ends seen
  | string chars =>
      obtain ⟨units, read, made⟩ := readUnits_words chars
      rw [List.cons_append, List.append_assoc, List.singleton_append, lex_string (read [] rest) seen,
        List.reverse_nil, List.nil_append, made, List.reverse_nil, List.nil_append, String.ofList_toList]

/-- A mark or a quote begins what is no word. -/
theorem Token.Spelt.ends {token : Token} {word : List Char} (h : token.Spelt word)
    (mark : token.isWord = false) (rest : List Char) : Ends (word ++ rest) := by
  cases h with
  | fixed => exact ends_of_mark mark rest
  | decimal => cases mark
  | string chars =>
      intro c hc
      cases hc
      rfl

theorem isWordChar_of_isBlank {c : Char} (h : isBlank c = true) : isWordChar c = false := by
  rw [← Bool.not_eq_true]
  intro word
  rw [(isWordChar_apart word).1] at h
  cases h

theorem Ends.blanks {blanks rest : List Char} (hb : ∀ c ∈ blanks, isBlank c = true) (h : Ends rest) :
    Ends (blanks ++ rest) := by
  cases blanks with
  | nil => exact h
  | cons c blanks =>
      intro first hc
      cases hc
      exact isWordChar_of_isBlank (hb c List.mem_cons_self)

/-- What follows a word neither is a word nor begins like one. -/
theorem SpeltTokens.ends {tokens : List Token} {cs : List Char} (h : SpeltTokens tokens cs)
    (mark : ∀ token ∈ tokens.head?, token.isWord = false) : Ends cs := by
  cases h with
  | nil hb =>
      have close : Ends (cs ++ []) := Ends.blanks hb fun _ hc => nomatch hc
      rw [List.append_nil] at close
      exact close
  | cons hb hw hr => exact (hw.ends (mark _ rfl) _).blanks hb

theorem SpeltTokens.lex {tokens : List Token} {cs : List Char} (h : SpeltTokens tokens cs)
    (spaced : Spaced tokens) (seen : List Token) : lex seen cs = some (seen.reverse ++ tokens) := by
  induction h generalizing seen with
  | @nil blanks hb =>
      have read := lex_blanks hb seen []
      rw [List.append_nil] at read
      rw [read, Json.lex, List.append_nil]
  | @cons token tokens blanks word rest hb hw hr ih =>
      obtain ⟨next, spaced⟩ := List.isChain_cons.mp spaced
      have ends : token.isWord = true → Ends rest :=
        fun isWord => hr.ends fun mark hm => next mark hm isWord
      rw [lex_blanks hb, hw.lex ends, ih spaced, List.reverse_cons, List.append_assoc]
      rfl

/-- However a value is written, it is the value that is read. -/
theorem parse_spelt {value : Json} {text : String} (h : value.Spelt text) :
    parse? text = some value := by
  rw [parse?, SpeltTokens.lex h (tokens_spaced value)]
  exact ofTokens_tokens value

/-! ### The writer -/

theorem spelt_escapeChar (c : Char) : SpeltChar c (escapeChar c) := by
  unfold escapeChar
  split
  case h_8 unquoted backslash _ _ _ _ _ =>
    split
    next control => exact .unit (.escape (unit?_lower control))
    next visible => exact .plain unquoted backslash (Nat.not_lt.mp visible)
  all_goals exact .short (by decide)

theorem spelt_quote (text : String) : (Token.string (some text)).Spelt (quote (some text)) := by
  have chars : List.Forall₂ SpeltChar text.toList (text.toList.map escapeChar) :=
    List.forall₂_map_right_iff.mpr (List.forall₂_same.mpr fun c _ => spelt_escapeChar c)
  rw [quote, List.flatMap_def]
  exact .string chars

/-- There is a way to write the token: it is a number where it says so, and its text is there. -/
def Token.Writable : Token → Prop
  | .decimal literal => Numeral literal.toList
  | .string text => text.isSome = true
  | _ => True

theorem Token.Writable.spelt {token : Token} (h : token.Writable) : token.Spelt token.write := by
  cases token with
  | decimal literal => exact .decimal h
  | string text =>
      obtain ⟨text, rfl⟩ := Option.isSome_iff_exists.mp h
      exact spelt_quote text
  | _ => exact .fixed rfl

theorem spelt_tokens {tokens : List Token} (h : ∀ token ∈ tokens, token.Writable) :
    SpeltTokens tokens (tokens.flatMap Token.write) := by
  induction tokens with
  | nil => exact .nil fun _ hc => absurd hc List.not_mem_nil
  | cons token tokens ih =>
      obtain ⟨own, others⟩ := List.forall_mem_cons.mp h
      exact .cons (fun _ hc => absurd hc List.not_mem_nil) own.spelt (ih others)

/-- The text without blanks is one way to write the value. -/
theorem spelt_text {value : Json} (h : ∀ token ∈ value.tokens, token.Writable) :
    value.Spelt value.text := by
  rw [Spelt, text, String.toList_ofList]
  exact spelt_tokens h

end LabelStream.Json
