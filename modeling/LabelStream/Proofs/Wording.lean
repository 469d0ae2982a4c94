import LabelStream.Trace
import Mathlib.Data.List.Basic

/-! What the text of an event gives away. A summary can be told from every other event by its first
letters, and all that it names can be read off it. -/
namespace LabelStream

def Note.isSummary : Note → Bool
  | finished .. => true
  | _ => false

/-! ### Texts of other events -/

/-- The text does not begin as a summary does, for its second letter is another one. -/
def Apart (text : String) : Prop := ∃ c, text.toList[1]? = some c ∧ c ≠ 'i'

namespace Apart

variable {text : String}

theorem append (h : Apart text) (more : String) : Apart (text ++ more) := by
  obtain ⟨c, hc, ne⟩ := h
  have inside := (List.getElem?_eq_some_iff.mp hc).1
  exact ⟨c, by rw [String.toList_append, List.getElem?_append_left inside, hc], ne⟩

theorem ne_summary (h : Apart text) (rest : String) : text ≠ "finished: " ++ rest := by
  rintro rfl
  obtain ⟨c, hc, ne⟩ := h
  rw [String.toList_append] at hc
  exact ne (Option.some.inj hc).symm

end Apart

theorem Setting.describe_apart (s : Setting) : Apart s.describe := by
  cases s with
  | unknown code => exact ⟨'S', (rfl : "ESC i unrecognized".toList[1]? = _), by decide⟩
  | _ => exact ⟨'S', rfl, by decide⟩

theorem RasterForm.letter_apart (form : RasterForm) : Apart (form.letter ++ " raster line xpos=") := by
  cases form <;> exact ⟨' ', rfl, by decide⟩

theorem Fault.message_apart (f : Fault) : Apart f.message := by
  rcases f with ⟨position, byte, kind⟩
  have what : Apart kind.message := by cases kind <;> exact ⟨'n', rfl, by decide⟩
  have place : Apart (kind.message ++ " at offset " ++ toString position) := (what.append _).append _
  cases byte with
  | none => exact place
  | some byte => exact ((place.append _).append _).append _

theorem Note.message_apart {note : Note} (plain : note.isSummary = false) : Apart note.message := by
  cases note with
  | skipped index byte =>
      have opening : Apart "skipping until ESC (" := ⟨'k', rfl, by decide⟩
      exact ((((opening.append _).append _).append _).append _).append _
  | reset => exact ⟨'S', rfl, by decide⟩
  | relativeMove dots => exact Apart.append ⟨'S', rfl, by decide⟩ _
  | setting s => exact s.describe_apart
  | unknownSetting code => exact Apart.append ⟨'n', rfl, by decide⟩ _
  | operand index value => exact ((Apart.append ⟨'p', rfl, by decide⟩ _).append _).append _
  | graphics => exact ⟨'S', rfl, by decide⟩
  | bitImage mode columns =>
      have opening : Apart "ESC * graphics mode=" := ⟨'S', rfl, by decide⟩
      exact (((((opening.append _).append _).append _).append _).append _).append _
  | rasterLine form xpos length compressed strips =>
      exact (((((form.letter_apart.append _).append _).append _).append _).append _).append _ |>.append _
  | compression kind enabled =>
      exact (((Apart.append ⟨' ', rfl, by decide⟩ _).append _).append _).append _
  | blankLine xpos => exact Apart.append ⟨' ', rfl, by decide⟩ _
  | printFeed code => exact (Apart.append ⟨'o', rfl, by decide⟩ _).append _
  | formFeed => exact ⟨'F', rfl, by decide⟩
  | carriageReturn => exact ⟨'R', rfl, by decide⟩
  | lineFeed => exact ⟨'F', rfl, by decide⟩
  | terminator => exact ⟨'U', rfl, by decide⟩
  | fault f => exact f.message_apart
  | finished => exact absurd plain.symm Bool.false_ne_true

/-! ### What a summary names -/

theorem toString_injective : Function.Injective (toString : Nat → String) := by
  intro m n same
  have digits := congrArg String.toList same
  rw [Nat.toString_eq_ofList_toDigits, Nat.toString_eq_ofList_toDigits, String.toList_ofList,
    String.toList_ofList] at digits
  have read := congrArg (Nat.ofDigitChars 10 · 0) digits
  simpa only [Nat.ofDigitChars_ten_toDigits] using read

theorem isDigit_of_mem_toString (n : Nat) {c : Char} (hc : c ∈ (toString n).toList) :
    c.isDigit = true := by
  rw [Nat.toString_eq_ofList_toDigits, String.toList_ofList] at hc
  exact Nat.isDigit_of_mem_toDigits (by decide) (by decide) hc

/-- The first letters of the five texts. -/
def Halt.letter : Halt → Char
  | endOfStream => 'e'
  | nullTerminator _ => 'N'
  | truncated _ => 't'
  | cancelled => 'c'
  | aborted _ => 'a'

theorem Halt.message_head (h : Halt) : h.message.toList.head? = some h.letter := by
  have opened {text : String} {c : Char} (ht : text.toList.head? = some c) (more : String) :
      (text ++ more).toList.head? = some c := by
    rw [String.toList_append, List.head?_append, ht]
    rfl
  cases h with
  | endOfStream => rfl
  | nullTerminator position => exact opened rfl _
  | truncated opcode => exact opened rfl _
  | cancelled => rfl
  | aborted position => exact opened rfl _

theorem Halt.message_injective : Function.Injective Halt.message := by
  intro h k same
  have letters : some h.letter = some k.letter := by rw [← h.message_head, ← k.message_head, same]
  cases h <;> cases k <;> simp only [letter, Option.some.injEq, Char.reduceEq] at letters
  case endOfStream.endOfStream => rfl
  case cancelled.cancelled => rfl
  all_goals exact congrArg _ (toString_injective ((String.append_right_inj _).mp same))

theorem Halt.comma_notMem_message (h : Halt) : ',' ∉ h.message.toList := by
  have place (what : String) (n : Nat) (hw : ',' ∉ what.toList) : ',' ∉ (what ++ toString n).toList := by
    rw [String.toList_append, List.mem_append]
    rintro (inside | inside)
    · exact hw inside
    · exact absurd (isDigit_of_mem_toString n inside) (by decide)
  cases h with
  | endOfStream => decide
  | nullTerminator position => exact place _ _ (by decide)
  | truncated opcode => exact place _ _ (by decide)
  | cancelled => decide
  | aborted position => exact place _ _ (by decide)

theorem Note.finished_toList (halt : Halt) (width height : Nat) :
    (finished halt width height).message.toList = "finished: ".toList ++
      (halt.message.toList ++ ',' ::
        (" image ".toList ++ ((toString width).toList ++ 'x' :: (toString height).toList))) := by
  have comma : ", image ".toList = ',' :: " image ".toList := by decide
  have times : "x".toList = ['x'] := by decide
  change ("finished: " ++ halt.message ++ ", image " ++ toString width ++ "x" ++
    toString height).toList = _
  simp only [String.toList_append, List.append_assoc, comma, times, List.cons_append, List.nil_append]

/-- Whoever reads a summary knows how the decode ended and how large its picture is. -/
theorem Note.finished_inj {halt halt' : Halt} {width width' height height' : Nat}
    (same : (finished halt width height).message = (finished halt' width' height').message) :
    halt = halt' ∧ width = width' ∧ height = height' := by
  have digits (n : Nat) {c : Char} (hc : c.isDigit = false) : c ∉ (toString n).toList := fun inside =>
    Bool.false_ne_true (hc.symm.trans (isDigit_of_mem_toString n inside))
  have comma : ',' ∉ " image ".toList ++ ((toString width).toList ++ 'x' :: (toString height).toList) := by
    simp only [List.mem_append, List.mem_cons]
    rintro (inside | inside | inside | inside)
    · revert inside; decide
    · exact digits width rfl inside
    · revert inside; decide
    · exact digits height rfl inside
  have texts := congrArg String.toList same
  rw [finished_toList, finished_toList, List.append_cancel_left_eq,
    List.append_cons_inj_of_notMem halt.comma_notMem_message comma, List.append_cancel_left_eq,
    List.append_cons_inj_of_notMem (digits width rfl) (digits height rfl)] at texts
  obtain ⟨halts, -, widths, -, heights⟩ := texts
  exact ⟨Halt.message_injective (String.toList_inj.mp halts),
    toString_injective (String.toList_inj.mp widths), toString_injective (String.toList_inj.mp heights)⟩

end LabelStream
