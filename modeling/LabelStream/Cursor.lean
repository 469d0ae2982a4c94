import LabelStream.Octets

/-! A forward reader over a capture. It keeps the octets not read yet and the offset of the first of
them, so that every operation knows where in the capture it stands. -/
namespace LabelStream

/-- The unread end of a capture and its offset. -/
structure Cursor where
  position : Nat
  rest : Octets
  deriving Repr, DecidableEq

namespace Cursor

def start (capture : Octets) : Cursor := ⟨0, capture⟩

def next : Cursor → Option UInt8 × Cursor
  | ⟨p, []⟩ => (none, ⟨p, []⟩)
  | ⟨p, b :: rest⟩ => (some b, ⟨p + 1, rest⟩)

/-- Reads a sixteen-bit number. A lone low octet at the end of the data is consumed without a value. -/
def nextPair : Cursor → Option Nat × Cursor
  | ⟨p, []⟩ => (none, ⟨p, []⟩)
  | ⟨p, [_]⟩ => (none, ⟨p + 1, []⟩)
  | ⟨p, low :: high :: rest⟩ => (some (pairValue low high), ⟨p + 2, rest⟩)

/-- Reads up to `n` octets; fewer arrive only when the data ends. -/
def take (n : Nat) (c : Cursor) : Octets × Cursor :=
  let taken := c.rest.take n
  (taken, ⟨c.position + taken.length, c.rest.drop n⟩)

def atEnd (c : Cursor) : Bool := c.rest.isEmpty

theorem next_rest_le (c : Cursor) : c.next.2.rest.length ≤ c.rest.length := by
  rcases c with ⟨p, _ | ⟨b, rest⟩⟩ <;> simp [next]

theorem next_rest_lt {c after : Cursor} {b : UInt8} (h : c.next = (some b, after)) :
    after.rest.length < c.rest.length := by
  rcases c with ⟨p, _ | ⟨b, rest⟩⟩ <;> simp [next] at h
  rcases h with ⟨rfl, rfl⟩
  simp

theorem nextPair_rest_le (c : Cursor) : c.nextPair.2.rest.length ≤ c.rest.length := by
  rcases c with ⟨p, _ | ⟨a, _ | ⟨b, rest⟩⟩⟩ <;> simp [nextPair]
  omega

theorem take_rest_le (n : Nat) (c : Cursor) : (c.take n).2.rest.length ≤ c.rest.length := by
  simp [take]

end Cursor
end LabelStream
