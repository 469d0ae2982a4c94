import LabelStream.Json.Parser
import Mathlib.Data.List.Chain
import Mathlib.Data.List.TakeWhile

/-! JSON that is written is read back. Every token is cut off whole, whatever stands behind it, and the
tokens of a value put just this value where one is expected. -/
namespace LabelStream.Json

/-! ### Strings -/

theorem unit?_lower {n : Nat} (h : n < 32) :
    unit? '0' '0' (Text.Hex.lower (n / 16)) (Text.Hex.lower (n % 16)) = some n := by
  revert n
  decide

theorem readUnits_plain {c : Char} (unquoted : c ≠ '"') (backslash : c ≠ '\\') (visible : ¬ c.toNat < 32)
    (seen : List Nat) (rest : List Char) :
    readUnits seen (c :: rest) = readUnits (c.toNat :: seen) rest := by
  rw [readUnits.eq_5]
  · simp [visible, backslash]
  · exact unquoted
  · exact fun _ _ _ _ _ same => absurd same backslash
  · exact fun _ _ same => absurd same backslash

/-- However a character is written, it is read as itself. -/
theorem readUnits_escapeChar (seen : List Nat) (c : Char) (rest : List Char) :
    readUnits seen (escapeChar c ++ rest) = readUnits (c.toNat :: seen) rest := by
  unfold escapeChar
  split
  case h_8 unquoted backslash _ _ _ _ _ =>
    split
    next control => simp only [List.cons_append, List.nil_append, readUnits, unit?_lower control]
    next visible => exact readUnits_plain unquoted backslash visible seen rest
  all_goals simp [readUnits, simpleEscape?]

theorem readUnits_flatMap (seen : List Nat) (cs rest : List Char) :
    readUnits seen (cs.flatMap escapeChar ++ '"' :: rest) =
      some (seen.reverse ++ cs.map Char.toNat, rest) := by
  induction cs generalizing seen with
  | nil => simp [readUnits]
  | cons c cs ih =>
      rw [List.flatMap_cons, List.append_assoc, readUnits_escapeChar, ih]
      simp

theorem not_surrogate (c : Char) : isHigh c.toNat = false ∧ isLow c.toNat = false := by
  have valid := c.valid
  simp only [UInt32.isValidChar, Nat.isValidChar] at valid
  simp only [isHigh, isLow, Char.toNat, Bool.and_eq_false_iff, decide_eq_false_iff_not]
  omega

/-- A character is never taken for half of a pair. -/
theorem assemble_char (seen : List Char) (c : Char) (units : List Nat) :
    assemble seen (c.toNat :: units) = assemble (c :: seen) units := by
  obtain ⟨high, low⟩ := not_surrogate c
  cases units <;>
    simp only [assemble, high, low, Bool.or_self, Bool.false_eq_true, if_false, Char.ofNat_toNat]

theorem assemble_chars (seen cs : List Char) :
    assemble seen (cs.map Char.toNat) = some (String.ofList (seen.reverse ++ cs)) := by
  induction cs generalizing seen with
  | nil => simp [assemble]
  | cons c cs ih =>
      rw [List.map_cons, assemble_char, ih, List.reverse_cons, List.append_assoc]
      rfl

/-- A string in quotes is read up to the quote that closes it. -/
theorem readUnits_quote (text : JsonText) (rest : List Char) : ∃ inside units,
    quote text ++ rest = '"' :: inside ∧ readUnits [] inside = some (units, rest) ∧
      assemble [] units = text := by
  cases text with
  | none => exact ⟨'\\' :: 'u' :: 'd' :: '8' :: '0' :: '0' :: '"' :: rest, [0xD800], rfl, rfl, rfl⟩
  | some text =>
      refine ⟨text.toList.flatMap escapeChar ++ '"' :: rest, text.toList.map Char.toNat, ?_, ?_, ?_⟩
      · simp [quote]
      · rw [readUnits_flatMap]
        rfl
      · rw [assemble_chars]
        simp

/-! ### Numbers -/

theorem naturalOf_toDigits (n : Nat) : naturalOf (Nat.toDigits 10 n) = n := by
  have h : Nat.ofDigitChars 10 (Nat.toDigits 10 n) 0 = n := Nat.ofDigitChars_ten_toDigits
  rw [Nat.ofDigitChars_eq_foldl] at h
  simp only [Nat.mul_comm 10] at h
  exact h

theorem all_isDigit (n : Nat) : ∀ c ∈ Nat.toDigits 10 n, isDigit c = true :=
  fun _ h => Nat.isDigit_of_mem_toDigits (by decide) (by decide) h

/-- Only zero is written with a leading zero. -/
theorem toDigits_head {n : Nat} (h : 0 < n) :
    ∃ c rest, Nat.toDigits 10 n = c :: rest ∧ c ≠ '0' := by
  induction n using Nat.strongRecOn with
  | ind n ih =>
      rw [Nat.toDigits_eq_if (by decide)]
      split
      · exact ⟨n.digitChar, [], rfl, fun same => Nat.ne_of_gt h (Nat.digitChar_eq_zero.mp same)⟩
      · obtain ⟨c, rest, hc, hne⟩ := ih (n / 10) (by omega) (by omega)
        exact ⟨c, rest ++ [(n % 10).digitChar], by rw [hc, List.cons_append], hne⟩

theorem isNatural_toDigits (n : Nat) : isNatural (Nat.toDigits 10 n) = true := by
  rcases Nat.eq_zero_or_pos n with rfl | h
  · rfl
  · obtain ⟨c, rest, hc, hne⟩ := toDigits_head h
    have digits := all_isDigit n
    rw [hc, List.forall_mem_cons] at digits
    rw [hc, isNatural.eq_2 _ _ fun same => absurd same hne]
    simp only [digits.1, bne_iff_ne.mpr hne, Bool.and_self, Bool.true_and, List.all_eq_true]
    exact digits.2

/-! ### Tokens -/

/-- A literal that stands for no natural number is a number all the same, without blanks. -/
def Token.Proper : Token → Prop
  | .decimal literal => isNumber literal.toList = true ∧ isNatural literal.toList = false ∧
      ∀ c ∈ literal.toList, isWordChar c = true
  | _ => True

/-- The token is a run of letters, digits and signs, which ends only with some other character. -/
def Token.isWord : Token → Bool
  | .null | .bool _ | .natural _ | .decimal _ => true
  | .string _ | .openArray | .closeArray | .openObject | .closeObject | .comma | .colon => false

/-- What follows cannot be taken for more of a word. -/
def Ends (rest : List Char) : Prop := ∀ c ∈ rest.head?, isWordChar c = false

theorem isWordChar_of_isDigit {c : Char} (h : isDigit c = true) : isWordChar c = true := by
  have digit : c.isDigit = true := h
  simp [isWordChar, Char.isAlphanum, digit]

theorem isWordChar_apart {c : Char} (h : isWordChar c = true) :
    isBlank c = false ∧ (c == '"') = false ∧ markToken? c = none := by
  refine ⟨?blank, ?quote, ?mark⟩
  case blank =>
    rw [← Bool.not_eq_true]
    intro blank
    simp only [isBlank, Bool.or_eq_true, beq_iff_eq] at blank
    rcases blank with ((rfl | rfl) | rfl) | rfl <;> exact absurd h (by decide)
  case quote =>
    rw [beq_eq_false_iff_ne]
    rintro rfl
    exact absurd h (by decide)
  case mark =>
    unfold markToken?
    split
    all_goals first | rfl | exact absurd h (by decide)

theorem lex_blanks {blanks : List Char} (h : ∀ c ∈ blanks, isBlank c = true) (seen : List Token)
    (rest : List Char) : lex seen (blanks ++ rest) = lex seen rest := by
  induction blanks with
  | nil => rfl
  | cons c blanks ih =>
      obtain ⟨blank, others⟩ := List.forall_mem_cons.mp h
      rw [List.cons_append, lex, if_pos blank, ih others]

theorem lex_mark {c : Char} {token : Token} (h : markToken? c = some token) (seen : List Token)
    (rest : List Char) : lex seen (c :: rest) = lex (token :: seen) rest := by
  have apart : isBlank c = false ∧ (c == '"') = false := by
    unfold markToken? at h
    split at h
    all_goals first | exact ⟨rfl, rfl⟩ | cases h
  rw [lex]
  simp only [apart.1, apart.2, Bool.false_eq_true, if_false, h]

/-- A word is cut off from what cannot be more of it. -/
theorem cut_off {isPart : Char → Bool} {word rest : List Char} (h : ∀ c ∈ word, isPart c = true)
    (stop : ∀ c ∈ rest.head?, isPart c = false) :
    (word ++ rest).takeWhile isPart = word ∧ (word ++ rest).dropWhile isPart = rest := by
  rw [List.takeWhile_append_of_pos h, List.dropWhile_append_of_pos h]
  cases rest with
  | nil => exact ⟨List.append_nil _, rfl⟩
  | cons c rest =>
      have other : isPart c = false := stop c rfl
      simp [other]

theorem lex_word {word rest : List Char} {token : Token} (h : wordToken? word = some token)
    (present : word ≠ []) (chars : ∀ c ∈ word, isWordChar c = true) (ends : Ends rest)
    (seen : List Token) : lex seen (word ++ rest) = lex (token :: seen) rest := by
  obtain ⟨c, cs, rfl⟩ := List.exists_cons_of_ne_nil present
  obtain ⟨hc, hcs⟩ := List.forall_mem_cons.mp chars
  obtain ⟨blank, quote, mark⟩ := isWordChar_apart hc
  obtain ⟨taken, left⟩ := cut_off hcs ends
  rw [List.cons_append, lex]
  simp only [blank, quote, mark, hc, Bool.false_eq_true, if_false, if_true, taken, left, h]

/-- A string is cut off with the quote that closes it. -/
theorem lex_string {inside rest : List Char} {units : List Nat}
    (read : readUnits [] inside = some (units, rest)) (seen : List Token) :
    lex seen ('"' :: inside) = lex (.string (assemble [] units) :: seen) rest := by
  have blank : isBlank '"' = false := rfl
  rw [lex]
  simp only [blank, Bool.false_eq_true, if_false, beq_self_eq_true, if_true]
  split
  next same =>
    rw [read] at same
    cases same
    rfl
  next unread =>
    rw [read] at unread
    cases unread

theorem lex_quote (text : JsonText) (seen : List Token) (rest : List Char) :
    lex seen (quote text ++ rest) = lex (.string text :: seen) rest := by
  obtain ⟨inside, units, written, read, assembled⟩ := readUnits_quote text rest
  rw [written, lex_string read, assembled]

/-- No literal name passes for a number, by either of the tests for one. -/
theorem wordToken_unnamed {word : List Char} {number : List Char → Bool} (h : number word = true)
    (names : number ['n', 'u', 'l', 'l'] = false ∧ number ['t', 'r', 'u', 'e'] = false ∧
      number ['f', 'a', 'l', 's', 'e'] = false) :
    wordToken? word =
      if isNatural word then some (.natural (naturalOf word))
      else if isNumber word then some (.decimal (String.ofList word))
      else none := by
  have apart : ∀ {name : List Char}, number name = false → (word == name) = false := by
    intro name hn
    rw [beq_eq_false_iff_ne]
    rintro rfl
    rw [h] at hn
    cases hn
  rw [wordToken?, apart names.1, apart names.2.1, apart names.2.2]
  rfl

theorem wordToken_natural {word : List Char} (h : isNatural word = true) :
    wordToken? word = some (.natural (naturalOf word)) := by
  rw [wordToken_unnamed h (by decide), if_pos h]

theorem wordToken_decimal {word : List Char} (number : isNumber word = true)
    (natural : isNatural word = false) :
    wordToken? word = some (.decimal (String.ofList word)) := by
  rw [wordToken_unnamed number (by decide), if_neg (Bool.eq_false_iff.mp natural), if_pos number]

/-- A token that is written is read as itself, if what follows does not run on from it. -/
theorem lex_token {token : Token} (proper : token.Proper) {rest : List Char}
    (ends : token.isWord = true → Ends rest) (seen : List Token) :
    lex seen (token.write ++ rest) = lex (token :: seen) rest := by
  cases token with
  | null => exact lex_word rfl (List.cons_ne_nil _ _) (List.all_eq_true.mp rfl) (ends rfl) seen
  | bool value =>
      cases value with
      | true => exact lex_word rfl (List.cons_ne_nil _ _) (List.all_eq_true.mp rfl) (ends rfl) seen
      | false => exact lex_word rfl (List.cons_ne_nil _ _) (List.all_eq_true.mp rfl) (ends rfl) seen
  | natural value =>
      have written : (Token.natural value).write = Nat.toDigits 10 value := by
        rw [Token.write, Nat.toString_eq_ofList_toDigits, String.toList_ofList]
      have word := wordToken_natural (isNatural_toDigits value)
      rw [naturalOf_toDigits] at word
      rw [written]
      exact lex_word word Nat.toDigits_ne_nil (fun c hc => isWordChar_of_isDigit (all_isDigit value c hc))
        (ends rfl) seen
  | decimal literal =>
      obtain ⟨number, natural, chars⟩ := proper
      have word := wordToken_decimal number natural
      rw [String.ofList_toList] at word
      refine lex_word word ?_ chars (ends rfl) seen
      intro empty
      change literal.toList = [] at empty
      rw [empty] at number
      cases number
  | string text => exact lex_quote text seen rest
  | openArray => exact lex_mark rfl seen rest
  | closeArray => exact lex_mark rfl seen rest
  | openObject => exact lex_mark rfl seen rest
  | closeObject => exact lex_mark rfl seen rest
  | comma => exact lex_mark rfl seen rest
  | colon => exact lex_mark rfl seen rest

/-- A word is not followed by another one. -/
def Spaced (tokens : List Token) : Prop :=
  tokens.IsChain fun token next => token.isWord = true → next.isWord = false

theorem ends_of_mark {token : Token} (h : token.isWord = false) (rest : List Char) :
    Ends (token.write ++ rest) := by
  intro c hc
  cases token with
  | string text => cases text <;> cases hc <;> rfl
  | openArray => cases hc; rfl
  | closeArray => cases hc; rfl
  | openObject => cases hc; rfl
  | closeObject => cases hc; rfl
  | comma => cases hc; rfl
  | colon => cases hc; rfl
  | _ => cases h

theorem lex_tokens {tokens : List Token} (proper : ∀ token ∈ tokens, token.Proper)
    (spaced : Spaced tokens) (seen : List Token) :
    lex seen (tokens.flatMap Token.write) = some (seen.reverse ++ tokens) := by
  induction tokens generalizing seen with
  | nil => simp [lex]
  | cons token tokens ih =>
      obtain ⟨own, others⟩ := List.forall_mem_cons.mp proper
      obtain ⟨next, spaced⟩ := List.isChain_cons.mp spaced
      have ends : token.isWord = true → Ends (tokens.flatMap Token.write) := by
        intro word
        cases tokens with
        | nil =>
            intro c hc
            cases hc
        | cons mark tokens =>
            rw [List.flatMap_cons]
            exact ends_of_mark (next mark rfl word) _
      rw [List.flatMap_cons, lex_token own ends, ih others spaced, List.reverse_cons, List.append_assoc]
      rfl

/-! ### Values -/

theorem Spaced.append {tokens more : List Token} (h : Spaced tokens) (hm : Spaced more)
    (mark : ∀ token ∈ more.head?, token.isWord = false) : Spaced (tokens ++ more) :=
  List.isChain_append.mpr ⟨h, hm, fun _ _ token ht _ => mark token ht⟩

theorem Spaced.cons {token : Token} {tokens : List Token} (h : Spaced tokens)
    (mark : token.isWord = false) : Spaced (token :: tokens) := by
  refine List.isChain_cons.mpr ⟨fun _ _ word => ?_, h⟩
  rw [mark] at word
  cases word

theorem itemTokens_head (items : List Json) :
    ∀ token ∈ (itemTokens false items).head?, token.isWord = false := by
  cases items with
  | nil => exact fun _ h => nomatch h
  | cons item items =>
      intro token h
      cases h
      rfl

theorem memberTokens_head (members : List (JsonText × Json)) :
    ∀ token ∈ (memberTokens false members).head?, token.isWord = false := by
  cases members with
  | nil => exact fun _ h => nomatch h
  | cons member members =>
      intro token h
      cases h
      rfl

mutual

theorem tokens_spaced (value : Json) : Spaced value.tokens := by
  cases value with
  | array items =>
      have close : Spaced [.closeArray] := List.isChain_singleton _
      refine Spaced.cons ((itemTokens_spaced true items).append close ?_) rfl
      exact fun token h => by cases h; rfl
  | object members =>
      have close : Spaced [.closeObject] := List.isChain_singleton _
      refine Spaced.cons ((memberTokens_spaced true members).append close ?_) rfl
      exact fun token h => by cases h; rfl
  | _ => exact List.isChain_singleton _

theorem itemTokens_spaced (first : Bool) (items : List Json) : Spaced (itemTokens first items) := by
  cases items with
  | nil => exact List.IsChain.nil
  | cons item items =>
      have both := (tokens_spaced item).append (itemTokens_spaced false items) (itemTokens_head items)
      cases first with
      | true => exact both
      | false => exact both.cons rfl

theorem memberTokens_spaced (first : Bool) (members : List (JsonText × Json)) :
    Spaced (memberTokens first members) := by
  cases members with
  | nil => exact List.IsChain.nil
  | cons member members =>
      obtain ⟨key, value⟩ := member
      have both := (tokens_spaced value).append (memberTokens_spaced false members)
        (memberTokens_head members)
      have named : Spaced (.string key :: .colon :: (value.tokens ++ memberTokens false members)) :=
        (both.cons rfl).cons rfl
      cases first with
      | true => exact named
      | false => exact named.cons rfl

end

-- Behind the first item or member a comma or the end must come, which is where the inductions on the
-- others start.
mutual

/-- Where a value is expected, its tokens put it in its place. -/
theorem feedAll_value (value : Json) (stack : List Frame) {expect : Expect}
    (h : expect = .value ∨ expect = .firstItem) (rest : List Token) :
    State.feedAll ⟨stack, expect⟩ (value.tokens ++ rest) =
      (place value stack).bind (·.feedAll rest) := by
  cases value with
  | array items =>
      cases items with
      | nil => rcases h with rfl | rfl <;> rfl
      | cons item items =>
          have inside : (tokens (.array (item :: items))) ++ rest =
              .openArray :: (item.tokens ++ (itemTokens false items ++ .closeArray :: rest)) := by
            simp [tokens, itemTokens]
          have opened : State.feedAll ⟨stack, expect⟩ (tokens (.array (item :: items)) ++ rest) =
              State.feedAll ⟨.items [] :: stack, .firstItem⟩
                (item.tokens ++ (itemTokens false items ++ .closeArray :: rest)) := by
            rw [inside]
            rcases h with rfl | rfl <;> rfl
          rw [opened, feedAll_value item _ (.inr rfl)]
          exact feedAll_items items [item] stack rest
  | object members =>
      cases members with
      | nil => rcases h with rfl | rfl <;> rfl
      | cons member members =>
          obtain ⟨key, value⟩ := member
          have inside : (tokens (.object ((key, value) :: members))) ++ rest =
              .openObject :: .string key :: .colon ::
                (value.tokens ++ (memberTokens false members ++ .closeObject :: rest)) := by
            simp [tokens, memberTokens]
          have opened :
              State.feedAll ⟨stack, expect⟩ (tokens (.object ((key, value) :: members)) ++ rest) =
              State.feedAll ⟨.member [] key :: stack, .value⟩
                (value.tokens ++ (memberTokens false members ++ .closeObject :: rest)) := by
            rw [inside]
            rcases h with rfl | rfl <;> rfl
          rw [opened, feedAll_value value _ (.inl rfl)]
          exact feedAll_members members [(key, value)] stack rest
  | _ => rcases h with rfl | rfl <;> rfl

theorem feedAll_items (items done : List Json) (stack : List Frame) (rest : List Token) :
    State.feedAll ⟨.items done :: stack, .next⟩ (itemTokens false items ++ .closeArray :: rest) =
      (place (.array (done.reverse ++ items)) stack).bind (·.feedAll rest) := by
  cases items with
  | nil =>
      rw [List.append_nil]
      rfl
  | cons item items =>
      have next : State.feedAll ⟨.items done :: stack, .next⟩
          (itemTokens false (item :: items) ++ .closeArray :: rest) =
          State.feedAll ⟨.items done :: stack, .value⟩
            (item.tokens ++ (itemTokens false items ++ .closeArray :: rest)) := by
        rw [← List.append_assoc]
        rfl
      have onward := feedAll_items items (item :: done) stack rest
      rw [List.reverse_cons, List.append_assoc] at onward
      rw [next, feedAll_value item _ (.inl rfl)]
      exact onward

theorem feedAll_members (members done : List (JsonText × Json)) (stack : List Frame)
    (rest : List Token) :
    State.feedAll ⟨.members done :: stack, .next⟩ (memberTokens false members ++ .closeObject :: rest) =
      (place (.object (done.reverse ++ members)) stack).bind (·.feedAll rest) := by
  cases members with
  | nil =>
      rw [List.append_nil]
      rfl
  | cons member members =>
      obtain ⟨key, value⟩ := member
      have next : State.feedAll ⟨.members done :: stack, .next⟩
          (memberTokens false ((key, value) :: members) ++ .closeObject :: rest) =
          State.feedAll ⟨.member done key :: stack, .value⟩
            (value.tokens ++ (memberTokens false members ++ .closeObject :: rest)) := by
        rw [← List.append_assoc]
        rfl
      have onward := feedAll_members members ((key, value) :: done) stack rest
      rw [List.reverse_cons, List.append_assoc] at onward
      rw [next, feedAll_value value _ (.inl rfl)]
      exact onward

end

/-- The numbers in the value that are not natural are numbers. -/
def Proper (value : Json) : Prop := ∀ token ∈ value.tokens, token.Proper

theorem ofTokens_tokens (value : Json) : ofTokens? value.tokens = some value := by
  have put := feedAll_value value [] (.inl rfl) []
  rw [List.append_nil] at put
  rw [ofTokens?, put]
  rfl

/-- What is written is read back. -/
theorem parse_text {value : Json} (proper : value.Proper) : parse? value.text = some value := by
  rw [parse?, text, String.toList_ofList, lex_tokens proper (tokens_spaced value)]
  exact ofTokens_tokens value

/-! ### Lines -/

-- By `all`, since characters are a finite type and `decide` on the statement may go through all of them.
theorem visible_of_all {cs : List Char} (h : cs.all (32 ≤ ·.toNat) = true) : ∀ c ∈ cs, 32 ≤ c.toNat :=
  fun c hc => of_decide_eq_true (List.all_eq_true.mp h c hc)

theorem escapeChar_visible (c : Char) : ∀ x ∈ escapeChar c, 32 ≤ x.toNat := by
  have digit : ∀ n < 16, 32 ≤ (Text.Hex.lower n).toNat := by decide
  unfold escapeChar
  split
  case h_8 =>
    split
    next control =>
      simp only [List.forall_mem_cons]
      refine ⟨by decide, by decide, by decide, by decide, digit _ (by omega), digit _ (by omega), ?_⟩
      exact fun _ h => absurd h List.not_mem_nil
    next visible =>
      rw [List.forall_mem_singleton]
      exact Nat.le_of_not_lt visible
  all_goals exact visible_of_all rfl

theorem isWordChar_visible {c : Char} (h : isWordChar c = true) : 32 ≤ c.toNat := by
  have controls : ∀ n < 32, isWordChar (Char.ofNat n) = false := by decide
  by_contra control
  have hc := controls c.toNat (Nat.lt_of_not_le control)
  rw [Char.ofNat_toNat, h] at hc
  cases hc

theorem write_visible {token : Token} (proper : token.Proper) : ∀ c ∈ token.write, 32 ≤ c.toNat := by
  cases token with
  | bool value => cases value <;> exact visible_of_all rfl
  | natural value =>
      intro c hc
      rw [Token.write, Nat.toString_eq_ofList_toDigits, String.toList_ofList] at hc
      exact isWordChar_visible (isWordChar_of_isDigit (all_isDigit value c hc))
  | decimal literal => exact fun c hc => isWordChar_visible (proper.2.2 c hc)
  | string text =>
      cases text with
      | none => exact visible_of_all rfl
      | some text =>
          intro c hc
          simp only [Token.write, quote, List.mem_cons, List.mem_append, List.mem_flatMap,
            List.not_mem_nil, or_false] at hc
          rcases hc with rfl | ⟨own, _, hc⟩ | rfl
          · decide
          · exact escapeChar_visible own c hc
          · decide
  | _ => exact visible_of_all rfl

/-- A value is written without control characters, so on one line. -/
theorem text_visible {value : Json} (proper : value.Proper) : ∀ c ∈ value.text.toList, 32 ≤ c.toNat := by
  intro c hc
  rw [text, String.toList_ofList] at hc
  obtain ⟨token, ht, hc⟩ := List.mem_flatMap.mp hc
  exact write_visible (proper token ht) c hc

/-- What is cut off stays, and only blanks come to nothing. -/
theorem lex_extends {seen tokens : List Token} {cs : List Char} (h : lex seen cs = some tokens) :
    ∃ more, tokens = seen.reverse ++ more ∧ (more = [] → ∀ c ∈ cs, isBlank c = true) := by
  have another : ∀ (token : Token) (seen more : List Token), tokens = (token :: seen).reverse ++ more →
      tokens = seen.reverse ++ token :: more := by
    intro token seen more h
    rw [h, List.reverse_cons, List.append_assoc, List.singleton_append]
  fun_induction lex seen cs with
  | case1 seen =>
      cases h
      exact ⟨[], (List.append_nil _).symm, fun _ _ hc => absurd hc List.not_mem_nil⟩
  | case2 seen c rest blank ih =>
      obtain ⟨more, ht, blanks⟩ := ih h
      exact ⟨more, ht, fun none => List.forall_mem_cons.mpr ⟨blank, blanks none⟩⟩
  | case3 seen c rest blank quoted units after read ih =>
      obtain ⟨more, ht, _⟩ := ih h
      exact ⟨_, another _ _ _ ht, fun none => absurd none (List.cons_ne_nil _ _)⟩
  | case4 => cases h
  | case5 seen c rest blank quoted token mark ih =>
      obtain ⟨more, ht, _⟩ := ih h
      exact ⟨_, another _ _ _ ht, fun none => absurd none (List.cons_ne_nil _ _)⟩
  | case6 seen c rest blank quoted mark word token read ih =>
      obtain ⟨more, ht, _⟩ := ih h
      exact ⟨_, another _ _ _ ht, fun none => absurd none (List.cons_ne_nil _ _)⟩
  | case7 => cases h
  | case8 => cases h

theorem feedAll_nothing (value : Json) (stack : List Frame) (token : Token) (tokens : List Token) :
    State.feedAll ⟨stack, .nothing value⟩ (token :: tokens) = none := rfl

/-- Text that goes on behind a value is not JSON. -/
theorem not_json_of_more {value : Json} {text : String} {cs : List Char}
    (read : lex [] text.toList = lex value.tokens.reverse cs)
    (more : ∃ c ∈ cs, isBlank c = false) : parse? text = none := by
  rw [parse?, read]
  cases h : lex value.tokens.reverse cs with
  | none => rfl
  | some tokens =>
      obtain ⟨extra, rfl, blanks⟩ := lex_extends h
      obtain ⟨token, extra, rfl⟩ : ∃ token rest, extra = token :: rest := by
        refine List.exists_cons_of_ne_nil fun none => ?_
        obtain ⟨c, hc, visible⟩ := more
        rw [blanks none c hc] at visible
        cases visible
      have put := feedAll_value value [] (.inl rfl) (token :: extra)
      rw [List.reverse_reverse]
      simp only [Option.bind_some, ofTokens?, put, place, feedAll_nothing]

end LabelStream.Json
