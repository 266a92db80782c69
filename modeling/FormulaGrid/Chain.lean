import FormulaGrid.Fault

/-! The chain of references whose formulas are being evaluated, outermost first. A chain never holds
a reference twice, which is how cycles show, and never grows beyond its greatest length, which is
why following references ends. -/
namespace FormulaGrid

/-- The references that are open: the cell an evaluation starts from, if it has one, and those
entered since. -/
@[ext]
structure Chain where
  maxDepth : Nat
  origin : Option String
  entered : List String
  nodup : (origin.toList ++ entered).Nodup
  length_le : (origin.toList ++ entered).length ≤ maxDepth

namespace Chain

def defaultDepth : Nat := 64

def depthMessage (maxDepth : Int) : String :=
  s!"max_depth must be at least 1, got {maxDepth}"

def references (chain : Chain) : List String :=
  chain.origin.toList ++ chain.entered

def room (chain : Chain) : Nat :=
  chain.maxDepth - chain.references.length

/-- The chain of an evaluation that starts from `origin`; the empty reference is no cell. -/
def start (origin : Option String) (maxDepth : Nat) (positive : 0 < maxDepth) : Chain :=
  let origin := origin.filter (· != "")
  ⟨maxDepth, origin, [], by cases origin <;> simp, by
    cases origin with
    | none => exact Nat.zero_le maxDepth
    | some _ => exact positive⟩

theorem toNat_pos {maxDepth : Int} (positive : 0 < maxDepth) : 0 < maxDepth.toNat :=
  Int.pos_iff_toNat_pos.1 positive

def start? (origin : Option String) (maxDepth : Int) : Option Chain :=
  if positive : 0 < maxDepth then some (start origin maxDepth.toNat (toNat_pos positive)) else none

def check (chain : Chain) (reference : String) : Except Cause Unit :=
  if reference ∈ chain.references then .error (.cycle (chain.references ++ [reference])) else .ok ()

def enter (chain : Chain) (reference : String) : Except Cause Chain :=
  if present : reference ∈ chain.references then
    .error (.cycle (chain.references ++ [reference]))
  else if full : chain.maxDepth ≤ chain.references.length then
    .error (.depthExceeded reference chain.maxDepth)
  else
    .ok {
      chain with
      entered := chain.entered ++ [reference]
      nodup := by
        rw [← List.append_assoc, List.nodup_append]
        refine ⟨chain.nodup, by simp, ?_⟩
        intro a ha b hb
        rw [List.mem_singleton.1 hb]
        exact fun same => present (same ▸ ha)
      length_le := by
        rw [← List.append_assoc, List.length_append, List.length_singleton]
        exact Nat.lt_of_not_le full }

/-- The chain once a reference is left that was entered, be it the innermost or not. -/
def close (chain : Chain) (reference : String) : Chain :=
  { chain with
    entered := chain.entered.erase reference
    nodup := chain.nodup.sublist (List.Sublist.append_left List.erase_sublist _)
    length_le := Nat.le_trans
      (List.Sublist.append_left List.erase_sublist _).length_le chain.length_le }

section Entering

variable {chain next : Chain} {reference : String}

theorem enter_ok (entered : chain.enter reference = .ok next) :
    reference ∉ chain.references ∧ next.maxDepth = chain.maxDepth ∧ next.origin = chain.origin ∧
      next.entered = chain.entered ++ [reference] := by
  unfold enter at entered
  split at entered
  · cases entered
  next absent =>
    split at entered <;> cases entered
    exact ⟨absent, rfl, rfl, rfl⟩

theorem references_enter (entered : chain.enter reference = .ok next) :
    next.references = chain.references ++ [reference] := by
  obtain ⟨_, _, origin, longer⟩ := enter_ok entered
  rw [references, references, origin, longer, List.append_assoc]

theorem maxDepth_enter (entered : chain.enter reference = .ok next) :
    next.maxDepth = chain.maxDepth :=
  (enter_ok entered).2.1

theorem room_enter (entered : chain.enter reference = .ok next) : next.room < chain.room := by
  have length := next.length_le
  change next.references.length ≤ _ at length
  have extended := references_enter entered
  have depth := maxDepth_enter entered
  simp only [room, extended, depth, List.length_append, List.length_singleton] at length ⊢
  omega

theorem close_enter (entered : chain.enter reference = .ok next) :
    next.close reference = chain := by
  obtain ⟨absent, depth, origin, longer⟩ := enter_ok entered
  have last : reference ∉ chain.entered := fun present =>
    absent (List.mem_append_right _ present)
  refine Chain.ext depth origin ?_
  change next.entered.erase reference = chain.entered
  rw [longer, List.erase_append_right _ last, List.erase_cons_head, List.append_nil]

end Entering

theorem room_close (chain : Chain) (reference : String) :
    (chain.close reference).room ≤ chain.room + 1 := by
  have erased : chain.entered.length ≤ (chain.entered.erase reference).length + 1 := by
    rw [List.length_erase]
    split <;> omega
  simp only [room, references, close, List.length_append]
  omega

end Chain
end FormulaGrid
