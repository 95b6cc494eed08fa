/-!
# Spans

A span is a range of byte offsets into a template. Its end is never before its start: bounds in
the wrong order give the empty span at the first of them.
-/

set_option autoImplicit false

namespace HtmlTemplate

structure Span where
  start : Nat
  stop : Nat
  start_le_stop : start ≤ stop := by omega
deriving DecidableEq, Repr

namespace Span

/-- The span from `start` to `stop`, or the empty one at `start` if `stop` is before it. -/
def ofBounds (start stop : Nat) : Span :=
  ⟨start, max stop start, Nat.le_max_right _ _⟩

/-- The span of `size` bytes from `start`. -/
def ofSize (start size : Nat) : Span :=
  ⟨start, start + size, Nat.le_add_right _ _⟩

/-- The empty span at an offset. -/
def emptyAt (offset : Nat) : Span :=
  ⟨offset, offset, Nat.le_refl _⟩

instance : Inhabited Span := ⟨emptyAt 0⟩

def length (s : Span) : Nat :=
  s.stop - s.start

def isEmpty (s : Span) : Bool :=
  s.start == s.stop

/-- The least span that covers both. -/
def union (s t : Span) : Span :=
  ⟨min s.start t.start, max s.stop t.stop, by
    have := s.start_le_stop
    omega⟩

def text (s : Span) : String :=
  toString s.start ++ ".." ++ toString s.stop

end Span

end HtmlTemplate
