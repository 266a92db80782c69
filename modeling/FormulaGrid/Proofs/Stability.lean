import FormulaGrid.Proofs.Context

/-! What an outcome does not depend on. A looser context, with a deeper chain or without an origin,
lets through what a tighter one stops and changes nothing else; and cells that are not reached from
a text, or whose formulas show values from before, do not show in its outcome. -/
namespace FormulaGrid.Evaluation

open FormulaGrid.Grammar

/-- Whether an outcome is none of the failures with certain codes. -/
def Avoids (codes : List String) (outcome : Outcome) : Prop :=
  ∀ fault, outcome = .error fault → fault.code ∉ codes

/-- Whether two chains hold the same references and the second one may grow at least as long. -/
structure Deeper (chain other : Chain) : Prop where
  references : other.references = chain.references
  maxDepth : chain.maxDepth ≤ other.maxDepth

section Contexts

variable {accessor : Option Accessor} {chain other inner next : Chain} {allowance : Allowance}
  {text name : String} {codes : List String}

theorem Deeper.looser (deeper : Deeper chain other) : Looser chain other where
  references := by rw [deeper.references]; exact List.Subset.refl _
  room := by
    rw [Chain.room, Chain.room, deeper.references]
    exact Nat.sub_le_sub_right deeper.maxDepth _

theorem Deeper.enter (deeper : Deeper chain other) (entered : chain.enter name = .ok inner)
    (opened : other.enter name = .ok next) : Deeper inner next where
  references := by
    rw [Chain.references_enter entered, Chain.references_enter opened, deeper.references]
  maxDepth := by
    rw [Chain.maxDepth_enter entered, Chain.maxDepth_enter opened]
    exact deeper.maxDepth

theorem elsewhere_code_mem (fault : Fault) (gone : fault.code ∈ codes) :
    fault.elsewhere.code ∈ codes := by
  rwa [elsewhere_code]

theorem abreast_deeper : Abreast (fun fault => fault.code ∈ ["depth_exceeded"]) Deeper Eq :=
  Looser.abreast (fun _ _ deeper => deeper.looser)
    (fun _ _ _ _ _ deeper entered opened => deeper.enter entered opened) elsewhere_code_mem
    (.inr fun _ _ deeper => deeper.references)
    (.inl fun _ code => List.mem_singleton.2 code)
    spend_same

theorem abreast_open :
    Abreast (fun fault => fault.code ∈ ["cyclic_reference", "depth_exceeded"]) Looser Eq :=
  Looser.abreast (fun _ _ looser => looser)
    (fun _ _ _ _ _ looser entered opened => looser.entered entered opened) elsewhere_code_mem
    (.inl fun _ code => by simp [code])
    (.inl fun _ code => by simp [code])
    spend_same

theorem evaluateWithin_kept {chains : Chain → Chain → Prop}
    (abreast : Abreast (fun fault => fault.code ∈ codes) chains Eq) (related : chains chain other)
    (avoids : Avoids codes (evaluateWithin accessor chain allowance text)) :
    evaluateWithin accessor other allowance text =
      evaluateWithin accessor chain allowance text := by
  have alike : Alike _ Eq Eq (evaluateWithin accessor chain allowance text)
      (evaluateWithin accessor other allowance text) :=
    evaluateWithin_abreast abreast (matching_refl accessor) related rfl fun _ _ => trivial
  rcases alike.eq_or_lost with same | ⟨fault, failed, gone⟩
  · exact same.symm
  · exact absurd gone (avoids fault failed)

end Contexts

section Origins

variable {origin : Option String} {d d' : Nat}

theorem deeper_start (positive : 0 < d) (further : d ≤ d') :
    Deeper (Chain.start origin d positive)
      (Chain.start origin d' (Nat.lt_of_lt_of_le positive further)) where
  references := rfl
  maxDepth := further

theorem looser_start (positive : 0 < d) :
    Looser (Chain.start origin d positive) (Chain.start none d positive) where
  references := List.nil_subset _
  room := Nat.sub_le_sub_left (Nat.zero_le _) d

end Origins

/-- What is not stopped by the depth of the chain stays as it is in a deeper one, and what is not
stopped by open references either stays as it is without an origin. -/
theorem evaluateWithin_stable (accessor : Option Accessor) (origin : Option String) {d : Nat}
    (positive : 0 < d) (allowance : Allowance) (text : String) :
    (∀ d' (further : d ≤ d'),
      Avoids ["depth_exceeded"]
        (evaluateWithin accessor (Chain.start origin d positive) allowance text) →
      evaluateWithin accessor (Chain.start origin d' (Nat.lt_of_lt_of_le positive further))
          allowance text =
        evaluateWithin accessor (Chain.start origin d positive) allowance text) ∧
    (Avoids ["cyclic_reference", "depth_exceeded"]
        (evaluateWithin accessor (Chain.start origin d positive) allowance text) →
      evaluateWithin accessor (Chain.start none d positive) allowance text =
        evaluateWithin accessor (Chain.start origin d positive) allowance text) :=
  ⟨fun _ further => evaluateWithin_kept abreast_deeper (deeper_start positive further),
    evaluateWithin_kept abreast_open (looser_start positive)⟩

theorem evaluateWithin_stable_missing :
    let cells : Accessor := fun name => if name = "A1" then some ⟨"A1", "=B1", .empty⟩ else none
    let outcome := evaluateWithin (some cells) (Chain.start (some "C1") 2 (by decide))
      Allowance.standard "A1"
    Avoids ["depth_exceeded"] outcome ∧ Avoids ["cyclic_reference", "depth_exceeded"] outcome ∧
      evaluateWithin (some cells) (Chain.start (some "C1") 3 (by decide)) Allowance.standard
        "A1" = outcome ∧
      evaluateWithin (some cells) (Chain.start none 2 (by decide)) Allowance.standard
        "A1" = outcome := by
  intro cells outcome
  have failed : evaluateWithin (some cells) (Chain.start (some "C1") 2 (by decide))
      Allowance.standard "A1" = .error (.formula ⟨.cellNotFound "B1", none⟩) := by cbv
  have avoids : ∀ codes, "ref_error" ∉ codes → Avoids codes outcome := by
    intro codes absent fault same
    obtain rfl := Except.error.inj (failed.symm.trans same)
    exact absent
  have shallow := avoids ["depth_exceeded"] (by decide)
  have acyclic := avoids ["cyclic_reference", "depth_exceeded"] (by decide)
  have stable := evaluateWithin_stable (some cells) (some "C1") Nat.two_pos
    Allowance.standard "A1"
  exact ⟨shallow, acyclic, stable.1 3 (by decide) shallow, stable.2 acyclic⟩

/-- The references that count for a text: all that it mentions, and all that the formulas under
references that count mention. -/
inductive Reached (resolve : Accessor) (text : String) : String → Prop
  | mentioned (name : String) (mentioned : name ∈ mentions text) : Reached resolve text name
  | further (name next : String) (cell : Snapshot) (reached : Reached resolve text name)
      (found : resolve name = some cell) (formula : cell.isFormula)
      (mentioned : next ∈ mentions cell.rawExpression) : Reached resolve text next

theorem matching_reached {first second : Accessor} {text : String}
    (cells : ∀ name, Reached first text name →
      Option.Rel Snapshot.Matches (first name) (second name)) :
    Matching (Reached first text) (some first) (some second) where
  given := rfl
  cells := cells
  closed name cell reached found formula next mentioned :=
    .further name next cell reached found formula mentioned

/-- Only the cells that are reached matter: if two accessors match on them, by the texts of formulas
and by the values of all other cells, then evaluation comes to the same. -/
theorem evaluateWithin_reached {first second : Accessor} {text : String}
    (cells : ∀ name, Reached first text name →
      Option.Rel Snapshot.Matches (first name) (second name))
    (chain : Chain) (allowance : Allowance) :
    evaluateWithin (some first) chain allowance text =
      evaluateWithin (some second) chain allowance text :=
  evaluateWithin_matching (matching_reached cells) (fun name => .mentioned name) chain allowance

theorem evaluateWithin_reached_stale :
    let fresh : Accessor := fun name =>
      if name = "A1" then some ⟨"A1", " =B1+1", .number (.ofNat 8)⟩
      else if name = "B1" then some ⟨"B1", "7", .number (.ofNat 7)⟩
      else none
    let stale : Accessor := fun name =>
      if name = "A1" then some ⟨"A1", " =B1+1", .text "old"⟩
      else if name = "B1" then some ⟨"B1", "7.0", .number (.ofNat 7)⟩
      else if name = "C1" then some ⟨"C1", "=A1", .empty⟩
      else none
    (∀ name, Reached fresh "A1*2" name →
        Option.Rel Snapshot.Matches (fresh name) (stale name)) ∧
      evaluateWithin (some fresh) (Chain.start none 4 (by decide)) Allowance.standard "A1*2" =
        evaluateWithin (some stale) (Chain.start none 4 (by decide)) Allowance.standard "A1*2" := by
  intro fresh stale
  have text : mentions "A1*2" = ["A1"] := by cbv
  have formula : mentions " =B1+1" = ["B1"] := by cbv
  have reached : ∀ name, Reached fresh "A1*2" name → name = "A1" ∨ name = "B1" := by
    intro name reached
    induction reached with
    | mentioned name mentioned =>
      rw [text] at mentioned
      exact .inl (List.mem_singleton.1 mentioned)
    | further name next cell _ found isFormula mentioned either =>
      rcases either with rfl | rfl
      · obtain rfl := Option.some.inj (show some _ = some cell from found)
        rw [formula] at mentioned
        exact .inr (List.mem_singleton.1 mentioned)
      · obtain rfl := Option.some.inj (show some _ = some cell from found)
        exact absurd isFormula (by decide)
  have cells : ∀ name, Reached fresh "A1*2" name →
      Option.Rel Snapshot.Matches (fresh name) (stale name) := by
    intro name counts
    rcases reached name counts with rfl | rfl
    · exact .some (.inl ⟨by decide, by decide, rfl⟩)
    · exact .some (.inr ⟨by decide, by decide, rfl⟩)
  exact ⟨cells, evaluateWithin_reached cells _ _⟩

end FormulaGrid.Evaluation
