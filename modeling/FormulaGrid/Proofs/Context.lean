import FormulaGrid.Proofs.Parallel

/-! One text evaluated twice, within different chains of open references and with different
allowances. A chain that holds fewer references and has more room can only let more through, so it
keeps all values, and what fails for lack of it alone is a cycle, a chain that is too long, or
nesting that is too deep. -/
namespace FormulaGrid.Evaluation

open FormulaGrid.Failure FormulaGrid.Grammar

theorem evaluateWithin_follows {accessor other : Option Accessor} {chain inner : Chain}
    {a b : Allowance} {text : String} {lost : Fault → Prop} (deep : lost .nestedTooDeeply)
    (allowed : Allowance.AtMost a b)
    (follows : ∀ c d token, token.lexeme ∈ mentions text → Allowance.AtMost c a →
      Allowance.AtMost c d →
      Alike lost Eq Eq (referenceValue accessor chain c token)
        (referenceValue other inner d token)) :
    Alike lost Eq Eq (evaluateWithin accessor chain a text)
      (evaluateWithin other inner b text) := by
  -- What is left on the way is also never more than at the start.
  refine evaluateWithin_sharing
    (fun c d share (within : Allowance.AtMost c a ∧ Allowance.AtMost c d) => ?_)
    ⟨atMost_refl a, allowed⟩
    fun c d token mentioned within => follows c d token mentioned within.1 within.2
  exact (atMost_spend_alike deep within.2 (Nat.le_refl share)).imp
    fun _ _ left => ⟨atMost_trans left.1 within.1, left.2⟩

/-- A value is kept by every evaluation in which the references that have values keep these. -/
theorem value_of_follows {accessor other : Option Accessor} {chain inner : Chain}
    {a b : Allowance} {text : String} {v : Value} (allowed : Allowance.AtMost a b)
    (follows : ∀ c d token w, token.lexeme ∈ mentions text → Allowance.AtMost c a →
      Allowance.AtMost c d → referenceValue accessor chain c token = .ok w →
      referenceValue other inner d token = .ok w)
    (valued : evaluateWithin accessor chain a text = .ok v) :
    evaluateWithin other inner b text = .ok v := by
  have alike : Alike (fun _ => True) Eq Eq (evaluateWithin accessor chain a text)
      (evaluateWithin other inner b text) := by
    refine evaluateWithin_follows trivial allowed fun c d token mentioned limited allowed => ?_
    cases result : referenceValue accessor chain c token with
    | error fault => exact .lost fault trivial _
    | ok w =>
      rw [follows c d token w mentioned limited allowed result]
      exact .done w w rfl
  exact alike.result valued

theorem referenceValue_ok_iff {accessor : Option Accessor} {chain : Chain} {allowance : Allowance}
    {token : Token} {v : Value} :
    referenceValue accessor chain allowance token = .ok v ↔
      token.lexeme ∉ chain.references ∧ ∃ cell, accessor.bind (· token.lexeme) = some cell ∧
        if cell.isFormula then
          ∃ inner left, chain.enter token.lexeme = .ok inner ∧
            allowance.spend Allowance.reference = .ok left ∧
            evaluateWithin accessor inner left cell.rawExpression = .ok v
        else v = cell.cachedValue := by
  rw [referenceValue]
  constructor
  · intro valued
    obtain ⟨cell, found, valued⟩ := bind_eq_ok.1 valued
    obtain ⟨absent, resolved⟩ := findCell_ok_iff.1 (mapError_eq_ok.1 found)
    refine ⟨absent, cell, resolved, ?_⟩
    split at valued
    next formula =>
      obtain ⟨inner, entered, valued⟩ := bind_eq_ok.1 valued
      obtain ⟨left, spent, valued⟩ := bind_eq_ok.1 valued
      rw [if_pos formula]
      exact ⟨inner, left, mapError_eq_ok.1 entered, spent, mapError_eq_ok.1 valued⟩
    next plain =>
      rw [if_neg plain]
      exact (Except.ok.inj valued).symm
  · rintro ⟨absent, cell, resolved, valued⟩
    rw [findCell_ok_iff.2 ⟨absent, resolved⟩, mapError_ok, ok_bind]
    split at valued
    next formula =>
      obtain ⟨inner, left, entered, spent, evaluated⟩ := valued
      rw [if_pos formula, entered, mapError_ok, ok_bind, spent, ok_bind, evaluated, mapError_ok]
    next plain =>
      rw [if_neg plain, valued]
      rfl

section Looser

/-- Whether a chain holds none but references of another one, and has as much room. -/
structure Looser (chain other : Chain) : Prop where
  references : other.references ⊆ chain.references
  room : chain.room ≤ other.room

/-- The faults that depend on what is open and on how deeply an evaluation may nest. -/
def Confined (fault : Fault) : Prop :=
  fault.code = "cyclic_reference" ∨ fault.code = "depth_exceeded" ∨ fault = .nestedTooDeeply

variable {accessor : Option Accessor} {chain other inner : Chain} {a b : Allowance}
  {name text : String} {v : Value}

theorem enter_present (present : name ∈ chain.references) :
    chain.enter name = .error (.cycle (chain.references ++ [name])) :=
  dif_pos present

theorem enter_full (absent : name ∉ chain.references) (full : chain.room = 0) :
    chain.enter name = .error (.depthExceeded name chain.maxDepth) := by
  rw [Chain.enter, dif_neg absent, dif_pos (Nat.sub_eq_zero_iff_le.1 full)]

theorem exists_enter_iff :
    (∃ inner, chain.enter name = .ok inner) ↔ name ∉ chain.references ∧ 0 < chain.room := by
  unfold Chain.enter Chain.room
  split
  next present => simp [present]
  next absent =>
    split
    next full => simp [Nat.sub_eq_zero_of_le full]
    next open_room => simp [absent, Nat.sub_pos_of_lt (Nat.lt_of_not_le open_room)]

theorem room_of_enter (entered : chain.enter name = .ok inner) :
    inner.room = chain.room - 1 := by
  rw [Chain.room, Chain.room, Chain.references_enter entered, Chain.maxDepth_enter entered,
    List.length_append, List.length_singleton, Nat.sub_sub]

theorem Looser.refl (chain : Chain) : Looser chain chain :=
  ⟨List.Subset.refl _, Nat.le_refl _⟩

theorem Looser.of_enter (entered : chain.enter name = .ok inner) : Looser inner chain := by
  constructor
  · rw [Chain.references_enter entered]
    exact List.subset_append_left _ _
  · rw [room_of_enter entered]
    exact Nat.sub_le _ _

theorem Looser.enter (looser : Looser chain other) (entered : chain.enter name = .ok inner) :
    ∃ next, other.enter name = .ok next ∧ Looser inner next := by
  obtain ⟨absent, room⟩ := exists_enter_iff.1 ⟨inner, entered⟩
  have missing : name ∉ other.references := fun present => absent (looser.references present)
  obtain ⟨next, opened⟩ := exists_enter_iff.2 ⟨missing, Nat.lt_of_lt_of_le room looser.room⟩
  refine ⟨next, opened, ?_, ?_⟩
  · rw [Chain.references_enter entered, Chain.references_enter opened]
    exact List.append_subset.2 ⟨List.Subset.trans looser.references (List.subset_append_left _ _),
      List.subset_append_right _ _⟩
  · rw [room_of_enter entered, room_of_enter opened]
    exact Nat.sub_le_sub_right looser.room 1

theorem Looser.entered {next : Chain} (looser : Looser chain other)
    (entered : chain.enter name = .ok inner) (opened : other.enter name = .ok next) :
    Looser inner next := by
  obtain ⟨again, same, inside⟩ := looser.enter entered
  rw [opened] at same
  cases same
  exact inside

theorem Confined.code_ne {fault : Fault} (confined : Confined fault) :
    fault.code ≠ "parse_error" := by
  rcases confined with code | code | rfl
  · rw [code]
    decide
  · rw [code]
    decide
  · decide

theorem elsewhere_code (fault : Fault) : fault.elsewhere.code = fault.code := by
  cases fault <;> rfl

theorem confined_elsewhere {fault : Fault} (confined : Confined fault) :
    Confined fault.elsewhere := by
  rcases confined with code | code | rfl
  · exact .inl ((elsewhere_code fault).trans code)
  · exact .inr (.inl ((elsewhere_code fault).trans code))
  · exact .inr (.inr rfl)

theorem enter_error {cause : Cause} (refused : chain.enter name = .error cause) :
    cause = if name ∈ chain.references then .cycle (chain.references ++ [name])
      else .depthExceeded name chain.maxDepth := by
  unfold Chain.enter at refused
  split at refused
  next present =>
    cases refused
    rw [if_pos present]
  next absent =>
    split at refused <;> cases refused
    rw [if_neg absent]

theorem confined_enter {position : Nat} {cause : Cause}
    (failed : chain.enter name = .error cause) : Confined (.formula (cause.at position)) := by
  rw [enter_error failed]
  split
  · exact .inl rfl
  · exact .inr (.inl rfl)

theorem referenceValue_formula {cell : Snapshot} {token : Token}
    (found : accessor.bind (· token.lexeme) = some cell) (formula : cell.isFormula) :
    (∃ fault, Confined fault ∧ ∀ a, referenceValue accessor chain a token = .error fault) ∨
      ∃ inner, chain.enter token.lexeme = .ok inner ∧ ∀ a, referenceValue accessor chain a token =
        a.spend Allowance.reference >>= fun left =>
          (evaluateWithin accessor inner left cell.rawExpression).mapError Fault.elsewhere := by
  by_cases present : token.lexeme ∈ chain.references
  · let cycle := Cause.cycle (chain.references ++ [token.lexeme])
    refine .inl ⟨.formula (cycle.at token.position), .inl rfl, fun a => ?_⟩
    rw [referenceValue, findCell_open accessor present]
    rfl
  · have resolved := findCell_ok_iff.2 ⟨present, found⟩
    cases entered : chain.enter token.lexeme with
    | error cause =>
      refine .inl ⟨.formula (cause.at token.position), confined_enter entered, fun a => ?_⟩
      rw [referenceValue, resolved, mapError_ok, ok_bind, if_pos formula, entered]
      rfl
    | ok inner =>
      refine .inr ⟨inner, rfl, fun a => ?_⟩
      rw [referenceValue, resolved, mapError_ok, ok_bind, if_pos formula, entered]
      rfl

section Abreast

variable {lost : Fault → Prop} {chains : Chain → Chain → Prop}
  {allowances : Allowance → Allowance → Prop}

theorem Looser.abreast (looser : ∀ chain other, chains chain other → Looser chain other)
    (keeps : ∀ chain other name next next', chains chain other → chain.enter name = .ok next →
      other.enter name = .ok next' → chains next next')
    (elsewhere : ∀ fault, lost fault → lost fault.elsewhere)
    (cycles : (∀ fault, fault.code = "cyclic_reference" → lost fault) ∨
      ∀ chain other, chains chain other → other.references = chain.references)
    (depths : (∀ fault, fault.code = "depth_exceeded" → lost fault) ∨
      ∀ chain other, chains chain other →
        other.references = chain.references ∧ other.maxDepth = chain.maxDepth)
    (spend : ∀ a b share, allowances a b →
      Alike lost Eq allowances (a.spend share) (b.spend share)) :
    Abreast lost chains allowances where
  elsewhere := elsewhere
  check chain other token related := by
    unfold Chain.check
    by_cases present : token.lexeme ∈ chain.references
    · rw [if_pos present]
      rcases cycles with gone | same
      · exact .lost _ (gone _ rfl) _
      · rw [same chain other related, if_pos present]
        exact .failed _ _ rfl
    · have missing : token.lexeme ∉ other.references := fun open_other =>
        present ((looser chain other related).references open_other)
      rw [if_neg present, if_neg missing]
      exact .done _ _ rfl
  enter chain other token related := by
    by_cases present : token.lexeme ∈ chain.references
    · rw [enter_present present]
      rcases cycles with gone | same
      · exact .lost _ (gone _ rfl) _
      · have references := same chain other related
        rw [enter_present (by rwa [references]), references]
        exact .failed _ _ rfl
    · rcases Nat.eq_zero_or_pos chain.room with full | open_room
      · rw [enter_full present full]
        rcases depths with gone | same
        · exact .lost _ (gone _ rfl) _
        · obtain ⟨references, depth⟩ := same chain other related
          have also_full : other.room = 0 := by rwa [Chain.room, references, depth]
          rw [enter_full (by rwa [references]) also_full, depth]
          exact .failed _ _ rfl
      · obtain ⟨next, entered⟩ := exists_enter_iff.2 ⟨present, open_room⟩
        obtain ⟨next', opened, _⟩ := (looser chain other related).enter entered
        rw [entered, opened]
        exact .done _ _ (keeps chain other _ next next' related entered opened)
  spend := spend

end Abreast

theorem abreast_looser : Abreast Confined Looser Allowance.AtMost :=
  Looser.abreast (fun _ _ looser => looser)
    (fun _ _ _ _ _ looser entered opened => looser.entered entered opened)
    (fun _ => confined_elsewhere) (.inl fun _ => .inl) (.inl fun _ code => .inr (.inl code))
    fun _ _ share allowed => (atMost_spend_alike (.inr (.inr rfl)) allowed (Nat.le_refl share)).imp
      fun _ _ within => within.2

/-- Within a looser chain an evaluation comes to the same, unless it lacks that looser chain. -/
theorem evaluateWithin_looser (looser : Looser chain other) (allowed : Allowance.AtMost a b) :
    Alike Confined Eq Eq (evaluateWithin accessor chain a text)
      (evaluateWithin accessor other b text) :=
  evaluateWithin_abreast abreast_looser (matching_refl accessor) looser allowed
    fun _ _ => trivial

theorem referenceValue_looser (looser : Looser chain other) (allowed : Allowance.AtMost a b)
    (token : Token) :
    Alike Confined Eq Eq (referenceValue accessor chain a token)
      (referenceValue accessor other b token) :=
  referenceValue_abreast abreast_looser (matching_refl accessor) looser allowed token trivial

theorem value_of_looser (looser : Looser chain other) (allowed : Allowance.AtMost a b)
    (valued : evaluateWithin accessor chain a text = .ok v) :
    evaluateWithin accessor other b text = .ok v :=
  (evaluateWithin_looser looser allowed).result valued

end Looser

end FormulaGrid.Evaluation
