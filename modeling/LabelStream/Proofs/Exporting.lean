import LabelStream.Proofs.FrontEnds
import LabelStream.Proofs.Clipping

/-! Pictures dot by dot. A picture is stored row by row and a surface column by column, in columns of
different lengths; both show the same dots, so the black ones can be counted in either. -/
namespace LabelStream

section

variable {row : Nat → Octets} {width : Nat}

end

namespace GrayImage

def greys (image : GrayImage) : Octets :=
  (List.range image.height).flatMap fun y => (List.range image.width).map (image.luma · y)

variable (image : GrayImage)

end GrayImage

namespace Surface

theorem export?_eq_error (s : Surface) (width height : Nat) (e : ExportError) :
    s.export? width height = .error e ↔
      ((s.image width height).width = 0 ∨ (s.image width height).height = 0) ∧
        e = .empty (s.image width height).width (s.image width height).height := by
  simp only [export?]
  split
  next none =>
    rw [and_iff_right none, Except.error.injEq]
    exact eq_comm
  next some => exact iff_of_false nofun fun h => some h.1

theorem export?_eq_ok (s : Surface) (width height : Nat) (picture : GrayImage) :
    s.export? width height = .ok picture ↔
      ¬ ((s.image width height).width = 0 ∨ (s.image width height).height = 0) ∧
        picture = s.image width height := by
  simp only [export?]
  split
  next none => exact iff_of_false nofun fun h => h.1 none
  next some =>
    rw [and_iff_right some, Except.ok.injEq]
    exact eq_comm

end Surface

namespace Http.Server

end Http.Server

end LabelStream
