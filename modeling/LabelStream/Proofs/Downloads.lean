import LabelStream.Proofs.Answers
import Mathlib.Data.List.Induction
import Mathlib.Data.Nat.Find
import Mathlib.Order.Bounds.Defs

/-! What a download of limited size gives. A body that fits comes through whole, one that does not is
given up with the chunk that exceeds the limit, and how the body is cut shows in nothing else. -/
namespace LabelStream

/-- What is held of a body and what is still to come, whenever the next chunk is waited for. -/
inductive Gathering (limit : Nat) (chunks : List Octets) : Octets → List Octets → Prop
  | start : Gathering limit chunks [] chunks
  | next {got chunk : Octets} {rest : List Octets} (before : Gathering limit chunks got (chunk :: rest))
      (fits : got.length + chunk.length ≤ limit) : Gathering limit chunks (got ++ chunk) rest

namespace Gathering

variable {limit : Nat} {chunks rest : List Octets} {got : Octets}

/-- From wherever it has come, the loop goes on to the same end. -/
theorem gather_eq (h : Gathering limit chunks got rest) :
    gather limit [] chunks = gather limit got rest := by
  induction h with
  | start => rfl
  | next before fits ih => rw [ih, gather, if_neg (Nat.not_lt_of_le fits)]

theorem length_le (h : Gathering limit chunks got rest) : got.length ≤ limit := by
  cases h with
  | start => exact Nat.zero_le _
  | next before fits =>
      rw [List.length_append]
      exact fits

/-- Every part of the body that fits is held some time. -/
theorem of_fits (before rest : List Octets) (fits : before.flatten.length ≤ limit) :
    Gathering limit (before ++ rest) before.flatten rest := by
  induction before using List.reverseRecOn generalizing rest with
  | nil => exact .start
  | append_singleton before chunk ih =>
      rw [List.flatten_append, List.flatten_singleton, List.length_append] at fits
      have held := ih (chunk :: rest) (by omega)
      rw [List.flatten_append, List.flatten_singleton, List.append_assoc, List.singleton_append]
      exact held.next fits

end Gathering

/-- The number of chunks that have to arrive before it shows that a body is too large. -/
theorem exists_least_exceeding {limit : Nat} {chunks : List Octets} (h : limit < chunks.flatten.length) :
    ∃ k, IsLeast {k | limit < (chunks.take k).flatten.length} k := by
  have exceeding : ∃ k, limit < (chunks.take k).flatten.length :=
    ⟨chunks.length, by rwa [List.take_length]⟩
  exact ⟨Nat.find exceeding, Nat.find_spec exceeding, fun _ hk => Nat.find_min' exceeding hk⟩

/-- The chunk that exceeds the limit is the last one that is looked at. -/
theorem gather_exceeding {limit k : Nat} {chunks : List Octets}
    (h : IsLeast {k | limit < (chunks.take k).flatten.length} k) (later : List Octets) :
    gather limit [] (chunks.take k ++ later) =
      .error (.tooLarge (chunks.take k).flatten.length limit) := by
  obtain ⟨exceeds, least⟩ := h
  change limit < (chunks.take k).flatten.length at exceeds
  cases k with
  | zero => exact absurd exceeds (Nat.not_lt_zero limit)
  | succ j =>
      have fits : (chunks.take j).flatten.length ≤ limit :=
        Nat.le_of_not_lt fun early => Nat.not_succ_le_self j (least early)
      have inside : j < chunks.length := by
        by_contra outside
        rw [List.take_of_length_le (by omega)] at exceeds fits
        omega
      rw [List.take_succ_eq_append_getElem inside] at exceeds ⊢
      rw [List.append_assoc, (Gathering.of_fits (chunks.take j) _ fits).gather_eq]
      rw [List.flatten_append, List.flatten_singleton, List.length_append] at exceeds ⊢
      rw [List.singleton_append, gather, if_pos exceeds]

theorem gather_of_exceeds {limit : Nat} {chunks : List Octets} (h : limit < chunks.flatten.length) :
    ∃ size, limit < size ∧ gather limit [] chunks = .error (.tooLarge size limit) := by
  obtain ⟨k, least⟩ := exists_least_exceeding h
  have refused := gather_exceeding least (chunks.drop k)
  rw [List.take_append_drop] at refused
  exact ⟨_, least.1, refused⟩

variable (url : String) {limit status : Nat} {declared : Option Nat} {chunks : List Octets}

theorem isSuccess_iff (status : Nat) : isSuccess status = true ↔ 200 ≤ status ∧ status < 300 := by
  rw [isSuccess, Bool.and_eq_true, decide_eq_true_iff, decide_eq_true_iff]

theorem download_refused (h : ¬ isSuccess status = true) :
    ∃ detail, download url limit (.response status declared chunks) = .error (.fetch detail) := by
  rw [Bool.not_eq_true] at h
  simp only [download, bodyOf, h, Bool.not_false, if_true]
  exact ⟨_, rfl⟩

theorem download_declared {size : Nat} (h : isSuccess status = true) (exceeds : limit < size) :
    download url limit (.response status (some size) chunks) = .error (.tooLarge size limit) := by
  simp only [download, bodyOf, h, Bool.not_true, Bool.false_eq_true, if_false, if_pos exceeds]

/-- A declared length that fits is not heard of again. -/
theorem download_gather (h : isSuccess status = true) (fits : ∀ size, declared = some size → size ≤ limit) :
    download url limit (.response status declared chunks) = gather limit [] chunks := by
  simp only [download, bodyOf, h, Bool.not_true, Bool.false_eq_true, if_false]
  cases declared with
  | none => rfl
  | some size => exact if_neg (Nat.not_lt_of_le (fits size rfl))

theorem gather_eq_ok {data : Octets} : gather limit [] chunks = .ok data ↔
    chunks.flatten.length ≤ limit ∧ data = chunks.flatten := by
  by_cases fits : chunks.flatten.length ≤ limit
  · rw [gather_whole (by rwa [List.length_nil, Nat.zero_add]), List.nil_append, Except.ok.injEq,
      and_iff_right fits]
    exact eq_comm
  · obtain ⟨size, _, refused⟩ := gather_of_exceeds (Nat.lt_of_not_le fits)
    rw [refused]
    exact iff_of_false nofun fun h => fits h.1

theorem download_eq_ok {data : Octets} :
    download url limit (.response status declared chunks) = .ok data ↔
      isSuccess status = true ∧ (∀ size, declared = some size → size ≤ limit) ∧
        chunks.flatten.length ≤ limit ∧ data = chunks.flatten := by
  by_cases success : isSuccess status = true
  case neg =>
    obtain ⟨detail, refused⟩ : ∃ detail,
        download url limit (.response status declared chunks) = .error (.fetch detail) :=
      download_refused url success
    rw [refused]
    exact iff_of_false nofun fun h => success h.1
  by_cases fits : ∀ size, declared = some size → size ≤ limit
  case neg =>
    simp only [not_forall, Nat.not_le] at fits
    obtain ⟨size, rfl, exceeds⟩ := fits
    rw [download_declared url success exceeds]
    exact iff_of_false nofun fun h => Nat.not_lt_of_le (h.2.1 size rfl) exceeds
  case pos =>
    rw [download_gather url success fits, gather_eq_ok, and_iff_right success, and_iff_right fits]

/-- What a server sends with a good status comes through, or its size is given, which exceeds the limit. -/
theorem download_of_success (h : isSuccess status = true) :
    (∃ data, download url limit (.response status declared chunks) = .ok data) ∨
    ∃ size, limit < size ∧
      download url limit (.response status declared chunks) = .error (.tooLarge size limit) := by
  by_cases declares : ∀ size, declared = some size → size ≤ limit
  case neg =>
    simp only [not_forall, Nat.not_le] at declares
    obtain ⟨size, rfl, exceeds⟩ := declares
    exact .inr ⟨size, exceeds, download_declared url h exceeds⟩
  case pos =>
    by_cases fits : chunks.flatten.length ≤ limit
    · exact .inl ⟨_, (download_eq_ok url).mpr ⟨h, declares, fits, rfl⟩⟩
    · obtain ⟨size, exceeds, refused⟩ := gather_of_exceeds (Nat.lt_of_not_le fits)
      exact .inr ⟨size, exceeds, (download_gather url h declares).trans refused⟩

theorem bodyOf_bind (body : Except Error Octets) (next : Octets → Except Error Octets) :
    bodyOf url limit status declared (body.bind next) = (bodyOf url limit status declared body).bind next := by
  unfold bodyOf
  split
  · rfl
  · cases declared with
    | none => rfl
    | some size =>
        dsimp only
        split <;> rfl

/-- What is refused anyway is refused for the same reason where the connection fails. -/
theorem download_brokenOff (detail : String) :
    download url limit (.brokenOff status declared chunks detail) =
      (download url limit (.response status declared chunks)).bind fun _ =>
        .error (.fetch (url ++ ": " ++ detail)) := bodyOf_bind url _ _

/-- A download is refused for its status, for the length that it declares, or for the first chunk that
exceeds the limit, and else it is the whole body, unless the connection fails before its end. Never is more held than the limit, and neither
success nor what it brings depends on how the body is cut. -/
theorem download_respects_limit (limit status : Nat) (declared : Option Nat) (chunks : List Octets) :
    let success := 200 ≤ status ∧ status < 300
    let fits := ∀ size, declared = some size → size ≤ limit
    let answer := download url limit (.response status declared chunks)
    ((∃ detail, answer = .error (.fetch detail)) ↔ ¬ success) ∧
    (success → ∀ size, declared = some size →
      (answer = .error (.tooLarge size limit) ↔ limit < size)) ∧
    (success → fits → (answer = .ok chunks.flatten ↔ chunks.flatten.length ≤ limit)) ∧
    (success → fits → limit < chunks.flatten.length →
      ∃ k, IsLeast {k | limit < (chunks.take k).flatten.length} k ∧
        answer = .error (.tooLarge (chunks.take k).flatten.length limit) ∧
        ∀ later, download url limit (.response status declared (chunks.take k ++ later)) = answer) ∧
    (∀ got rest, Gathering limit chunks got rest →
      got.length ≤ limit ∧ gather limit got rest = gather limit [] chunks) ∧
    (∀ others, others.flatten = chunks.flatten → ∀ data,
      (download url limit (.response status declared others) = .ok data ↔ answer = .ok data)) ∧
    ∀ detail, download url limit (.brokenOff status declared chunks detail) =
      answer.bind fun _ => .error (.fetch (url ++ ": " ++ detail)) := by
  intro success fits answer
  have succeeds : isSuccess status = true ↔ success := isSuccess_iff status
  -- Behind a good status and a length that fits, the answer is that of the loop.
  have exceeding : success → fits → limit < chunks.flatten.length →
      ∃ k, IsLeast {k | limit < (chunks.take k).flatten.length} k ∧
        answer = .error (.tooLarge (chunks.take k).flatten.length limit) ∧
        ∀ later, download url limit (.response status declared (chunks.take k ++ later)) = answer := by
    intro good declares exceeds
    obtain ⟨k, least⟩ := exists_least_exceeding exceeds
    have refused : ∀ later, download url limit (.response status declared (chunks.take k ++ later)) =
        .error (.tooLarge (chunks.take k).flatten.length limit) := by
      intro later
      rw [download_gather url (succeeds.mpr good) declares, gather_exceeding least]
    have whole := refused (chunks.drop k)
    rw [List.take_append_drop] at whole
    exact ⟨k, least, whole, fun later => (refused later).trans whole.symm⟩
  refine ⟨⟨?unsuccessful, ?refused⟩, ?declared, ?complete, exceeding, ?held, ?cut,
    download_brokenOff url⟩
  case unsuccessful =>
    rintro ⟨detail, shown⟩ good
    rcases download_of_success url (succeeds.mpr good) with ⟨data, given⟩ | ⟨size, _, given⟩
    · cases shown.symm.trans given
    · cases shown.symm.trans given
  case refused =>
    intro bad
    exact download_refused url fun good => bad (succeeds.mp good)
  case declared =>
    rintro good size rfl
    refine ⟨fun shown => ?_, download_declared url (succeeds.mpr good)⟩
    rcases download_of_success url (succeeds.mpr good) with ⟨data, given⟩ | ⟨size, exceeds, given⟩
    · cases shown.symm.trans given
    · cases shown.symm.trans given
      exact exceeds
  case complete =>
    intro good declares
    rw [download_eq_ok, and_iff_right (succeeds.mpr good), and_iff_right declares, and_iff_left rfl]
  case held =>
    intro got rest held
    exact ⟨held.length_le, held.gather_eq.symm⟩
  case cut =>
    intro others same data
    rw [download_eq_ok, download_eq_ok, same]

end LabelStream
