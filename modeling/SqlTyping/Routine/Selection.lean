/-!
# Selection in place

Candidates are narrowed down without room for a second list. A `Sieve` is a row of entries with two
marks: what stands before the first mark is kept, what stands from the second one on is dropped, and
what is between them is still to be looked at. A turn looks at the entry at the first mark. One that
satisfies the condition is passed over, and any other is exchanged with the last entry that is still
live. The entry that comes in from there is looked at next, so the entries that are kept need not
stand in the order that they had.
-/

namespace SqlTyping

/-- Entries that are being sifted in place. -/
structure Sieve (α : Type) where
  /-- All entries, also those that were dropped. -/
  row : Array α
  /-- The entry that is looked at next. -/
  next : Nat
  /-- The number of entries that have not been dropped. -/
  live : Nat
  next_le : next ≤ live
  live_le : live ≤ row.size

namespace Sieve

variable {α : Type}

/-- A row of which nothing has been dropped. -/
def start (row : Array α) : Sieve α := ⟨row, 0, row.size, Nat.zero_le _, Nat.le_refl _⟩

/-- The same row and the same live entries, none of which has been looked at. -/
def restart (s : Sieve α) : Sieve α := { s with next := 0, next_le := Nat.zero_le _ }

/-- Looks at one entry. -/
def turn (p : α → Bool) (s : Sieve α) : Sieve α :=
  if h : s.next < s.live then
    have hlast : s.live - 1 < s.row.size := by have := s.live_le; omega
    have hnext : s.next < s.row.size := by omega
    if p s.row[s.next] then { s with next := s.next + 1, next_le := h }
    else
      { row := s.row.swap s.next (s.live - 1)
        next := s.next
        live := s.live - 1
        next_le := by omega
        live_le := by rw [Array.size_swap]; omega }
  else s

/-- A turn brings the marks nearer to each other by one. -/
theorem remaining_turn (p : α → Bool) (s : Sieve α) :
    (s.turn p).live - (s.turn p).next = s.live - s.next - 1 := by
  unfold turn
  split
  · dsimp only
    split <;> (dsimp only; omega)
  · omega

/-- Takes turns until every live entry has been looked at. -/
def run (p : α → Bool) (s : Sieve α) : Sieve α :=
  if s.next < s.live then run p (s.turn p) else s
termination_by s.live - s.next
decreasing_by
  rw [remaining_turn]
  omega

/-- Looks at all live entries, from the first one on. -/
def pass (p : α → Bool) (s : Sieve α) : Sieve α :=
  s.restart.run p

/-- The entries that have not been dropped. -/
def kept (s : Sieve α) : List α := s.row.toList.take s.live

end Sieve

/-- The entries that satisfy `p`, in the order in which a pass leaves them. -/
def select {α : Type} (p : α → Bool) (xs : List α) : List α :=
  ((Sieve.start xs.toArray).pass p).kept

end SqlTyping
