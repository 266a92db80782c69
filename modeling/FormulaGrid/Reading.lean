/-! What a step of a reader returns: the value it read, what is left of its input, and a bound on
the length of that, by which readers end. -/
namespace FormulaGrid

/-- A value read from a list, and what is left of the list, which is shorter than `bound`. -/
structure Reading (α σ : Type) (bound : Nat) where
  value : α
  rest : List σ
  shorter : rest.length < bound

namespace Reading

variable {α β σ : Type} {m n : Nat}

def map (f : α → β) (reading : Reading α σ n) : Reading β σ n :=
  ⟨f reading.value, reading.rest, reading.shorter⟩

def within (h : m ≤ n) (reading : Reading α σ m) : Reading α σ n :=
  ⟨reading.value, reading.rest, Nat.lt_of_lt_of_le reading.shorter h⟩

end Reading
end FormulaGrid
