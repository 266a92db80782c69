import FormulaGrid.Proofs.Agreement
import FormulaGrid.Proofs.Context

/-! The graph of references. Its edges lead from a text to the references that it mentions, and from
a reference on as its cell's formula does. Evaluation walks along all routes of this graph, and
what goes wrong with references on the way is a defect of the graph itself. -/
namespace FormulaGrid.Evaluation

open FormulaGrid.Failure FormulaGrid.Formula FormulaGrid.Grammar

/-- The references along a path that starts from a text. -/
inductive Route (accessor : Option Accessor) : String → List String → Prop
  | nil (text : String) : Route accessor text []
  | last (text name : String) (mentioned : name ∈ mentions text) : Route accessor text [name]
  | step (text name : String) (cell : Snapshot) (route : List String)
      (mentioned : name ∈ mentions text) (found : accessor.bind (· name) = some cell)
      (formula : cell.isFormula) (more : Route accessor cell.rawExpression route) :
      Route accessor text (name :: route)

def holdsFormula (accessor : Option Accessor) (name : String) : Bool :=
  match accessor.bind (· name) with
  | none => false
  | some cell => cell.isFormula

/-- A route within a chain of open references on which nothing is wrong: every cell is there, every
formula is valid, no reference comes twice, and the chain has room for all formulas. -/
structure Clear (accessor : Option Accessor) (chain : Chain) (route : List String) : Prop where
  resolved : ∀ name ∈ route, ∃ cell, accessor.bind (· name) = some cell
  valid : ∀ name ∈ route, ∀ cell, accessor.bind (· name) = some cell → cell.isFormula →
    ∃ w, validate cell.rawExpression = .ok w
  nodup : (chain.references ++ route).Nodup
  room : chain.references.length + route.countP (holdsFormula accessor) ≤ chain.maxDepth

/-- A valid text from which all routes are clear. -/
structure Sound (accessor : Option Accessor) (chain : Chain) (text : String) : Prop where
  valid : ∃ w, validate text = .ok w
  clear : ∀ route, Route accessor text route → Clear accessor chain route

def Followed (accessor : Option Accessor) (chain : Chain) (name : String) : Prop :=
  name ∉ chain.references ∧ ∃ cell, accessor.bind (· name) = some cell ∧
    (cell.isFormula → ∃ inner, chain.enter name = .ok inner ∧
      Sound accessor inner cell.rawExpression)

section Routes

variable {accessor : Option Accessor} {chain inner : Chain} {text name : String}
  {route : List String} {cell : Snapshot}

theorem holdsFormula_eq (found : accessor.bind (· name) = some cell) :
    holdsFormula accessor name = cell.isFormula := by
  rw [holdsFormula, found]

theorem clear_nil (accessor : Option Accessor) (chain : Chain) : Clear accessor chain [] where
  resolved name member := absurd member List.not_mem_nil
  valid name member := absurd member List.not_mem_nil
  nodup := by
    rw [List.append_nil]
    exact chain.nodup
  room := chain.length_le

/-- A route that starts with a formula is clear if what follows is clear with this reference open
as well. -/
theorem clear_cons_iff (found : accessor.bind (· name) = some cell) (formula : cell.isFormula)
    (entered : chain.enter name = .ok inner) :
    Clear accessor chain (name :: route) ↔
      (∃ w, validate cell.rawExpression = .ok w) ∧ Clear accessor inner route := by
  have extended := Chain.references_enter entered
  have depth := Chain.maxDepth_enter entered
  have counted : holdsFormula accessor name = true := (holdsFormula_eq found).trans formula
  constructor
  · intro clear
    refine ⟨clear.valid name List.mem_cons_self cell found formula, ?_, ?_, ?_, ?_⟩
    · exact fun other member => clear.resolved other (List.mem_cons_of_mem name member)
    · exact fun other member => clear.valid other (List.mem_cons_of_mem name member)
    · rw [extended, List.append_assoc]
      exact clear.nodup
    · have room := clear.room
      rw [List.countP_cons_of_pos counted] at room
      rw [extended, depth, List.length_append, List.length_singleton]
      omega
  · rintro ⟨valid, clear⟩
    refine ⟨?_, ?_, ?_, ?_⟩
    · exact List.forall_mem_cons.2 ⟨⟨cell, found⟩, clear.resolved⟩
    · refine List.forall_mem_cons.2 ⟨fun other same _ => ?_, clear.valid⟩
      rw [found] at same
      cases same
      exact valid
    · have nodup := clear.nodup
      rw [extended, List.append_assoc] at nodup
      exact nodup
    · have room := clear.room
      rw [extended, depth, List.length_append, List.length_singleton] at room
      rw [List.countP_cons_of_pos counted]
      omega

theorem clear_plain (absent : name ∉ chain.references)
    (found : accessor.bind (· name) = some cell) (plain : cell.isFormula = false) :
    Clear accessor chain [name] where
  resolved := List.forall_mem_singleton.2 ⟨cell, found⟩
  valid := by
    refine List.forall_mem_singleton.2 fun other same formula => ?_
    rw [found] at same
    cases same
    rw [plain] at formula
    cases formula
  nodup := by
    rw [List.nodup_append]
    refine ⟨chain.nodup, by simp, fun other present last member => ?_⟩
    obtain rfl := List.mem_singleton.1 member
    rintro rfl
    exact absent present
  room := by
    have uncounted : ¬ holdsFormula accessor name = true := by
      rw [holdsFormula_eq found, plain]
      decide
    rw [List.countP_cons_of_neg uncounted, List.countP_nil]
    exact chain.length_le

theorem Sound.followed (sound : Sound accessor chain text) (mentioned : name ∈ mentions text) :
    Followed accessor chain name := by
  have alone := sound.clear [name] (.last text name mentioned)
  have absent : name ∉ chain.references := by
    intro present
    obtain ⟨_, _, apart⟩ := List.nodup_append.1 alone.nodup
    exact apart name present name List.mem_cons_self rfl
  obtain ⟨cell, found⟩ := alone.resolved name List.mem_cons_self
  refine ⟨absent, cell, found, fun formula => ?_⟩
  have shorter : chain.references.length < chain.maxDepth := by
    have room := alone.room
    rw [List.countP_cons_of_pos ((holdsFormula_eq found).trans formula)] at room
    omega
  obtain ⟨inner, entered⟩ := exists_enter_iff.2 ⟨absent, Nat.sub_pos_of_lt shorter⟩
  refine ⟨inner, entered, ((clear_cons_iff found formula entered).1 alone).1, ?_⟩
  intro route more
  have whole :=
    sound.clear (name :: route) (.step text name cell route mentioned found formula more)
  exact ((clear_cons_iff found formula entered).1 whole).2

theorem sound_of_followed (valid : ∃ w, validate text = .ok w)
    (followed : ∀ name ∈ mentions text, Followed accessor chain name) :
    Sound accessor chain text := by
  refine ⟨valid, fun route routed => ?_⟩
  cases routed with
  | nil => exact clear_nil accessor chain
  | last _ name mentioned =>
    obtain ⟨absent, cell, found, opens⟩ := followed name mentioned
    cases formula : cell.isFormula with
    | false => exact clear_plain absent found formula
    | true =>
      obtain ⟨inner, entered, sound⟩ := opens formula
      exact (clear_cons_iff found formula entered).2 ⟨sound.valid, clear_nil accessor inner⟩
  | step _ name cell route mentioned found formula more =>
    obtain ⟨absent, other, same, opens⟩ := followed name mentioned
    rw [found] at same
    cases same
    obtain ⟨inner, entered, sound⟩ := opens formula
    exact (clear_cons_iff found formula entered).2 ⟨sound.valid, sound.clear route more⟩

end Routes

section Values

variable {accessor : Option Accessor} {chain : Chain} {text : String}

theorem referenceValue_error {token : Token} {fault : Fault}
    (followed : Followed accessor chain token.lexeme)
    (failed : referenceValue accessor chain none token = .error fault) :
    ∃ (inner : Chain) (cell : Snapshot) (reason : Fault),
      chain.enter token.lexeme = .ok inner ∧
      Sound accessor inner cell.rawExpression ∧
      evaluateWithin accessor inner none cell.rawExpression = .error reason ∧
      fault.code = reason.code := by
  obtain ⟨absent, cell, resolved, opens⟩ := followed
  rw [referenceValue, findCell_ok_iff.2 ⟨absent, resolved⟩] at failed
  simp only [mapError_ok, ok_bind] at failed
  split at failed
  next formula =>
    obtain ⟨inner, entered, sound⟩ := opens formula
    rw [entered] at failed
    simp only [mapError_ok, ok_bind, spend_none] at failed
    obtain ⟨reason, evaluated, rfl⟩ := mapError_eq_error.1 failed
    exact ⟨inner, cell, reason, entered, sound, evaluated, elsewhere_code reason⟩
  next => cases failed

/-- Every reference in a text with a value has a value. -/
theorem value_of_mentioned {v : Value} (valued : evaluateWithin accessor chain none text = .ok v)
    {name : String} (mentioned : name ∈ mentions text) :
    ∃ position w, referenceValue accessor chain none ⟨.cellReference, name, position⟩ = .ok w := by
  rcases evaluateWithin_ok_cases accessor chain valued with blank | ⟨formula, parses, result⟩
  · rw [mentions_blank blank] at mentioned
    cases mentioned
  · rw [mentions_parsed parses] at mentioned
    exact (value_ok result).2 name mentioned

/-- A text with a value is sound: all its routes have been walked to their ends. -/
theorem sound_of_value {v : Value} (valued : evaluateWithin accessor chain none text = .ok v) :
    Sound accessor chain text := by
  induction room : chain.room using Nat.strongRecOn generalizing chain text v with
  | ind room ih =>
    refine sound_of_followed (validate_of_value valued) fun name mentioned => ?_
    obtain ⟨position, w, followed⟩ := value_of_mentioned valued mentioned
    obtain ⟨absent, cell, found, opens⟩ := referenceValue_ok_iff.1 followed
    refine ⟨absent, cell, found, fun formula => ?_⟩
    rw [if_pos formula] at opens
    obtain ⟨inner, left, entered, spent, inside⟩ := opens
    cases spent
    have less := Chain.room_enter entered
    exact ⟨inner, entered, ih inner.room (by omega) inside rfl⟩

/-- A sound text fails only where a number cannot be computed. -/
theorem error_code_of_sound {fault : Fault} (sound : Sound accessor chain text)
    (failed : evaluateWithin accessor chain none text = .error fault) :
    fault.code = "division_by_zero" ∨ fault.code = "numeric_overflow" := by
  induction room : chain.room using Nat.strongRecOn generalizing chain text fault with
  | ind room ih =>
    obtain ⟨w, valid⟩ := sound.valid
    rcases validate_ok_cases valid with blank | ⟨formula, parses, fits⟩
    · rw [evaluateWithin_blank accessor chain none blank] at failed
      cases failed
    · rw [evaluateWithin_parsed accessor chain parses] at failed
      rcases value_error failed with ⟨name, mentioned, position, followed⟩ | ⟨_, unfit⟩ | code
      · rw [← mentions_parsed parses] at mentioned
        obtain ⟨inner, cell, reason, entered, inside, evaluated, code⟩ :=
          referenceValue_error (sound.followed mentioned) followed
        have less := Chain.room_enter entered
        rw [code]
        exact ih inner.room (by omega) inside evaluated rfl
      · exact absurd fits unfit
      · exact code

end Values

/-- A graph of references without a defect: from the text on all formulas are valid and all cells
are there, and no route repeats a reference, meets the origin or has more formulas than can be open
at a time. -/
structure Sane (accessor : Option Accessor) (origin : Option String) (maxDepth : Nat)
    (text : String) : Prop where
  valid : ∃ w, validate text = .ok w
  cells_valid : ∀ route, Route accessor text route → ∀ name ∈ route, ∀ cell,
    accessor.bind (· name) = some cell → cell.isFormula → ∃ w, validate cell.rawExpression = .ok w
  resolved : ∀ route, Route accessor text route → ∀ name ∈ route,
    ∃ cell, accessor.bind (· name) = some cell
  simple : ∀ route, Route accessor text route → route.Nodup
  avoids : ∀ route, Route accessor text route → ∀ name ∈ route, origin ≠ some name
  short : ∀ route, Route accessor text route →
    route.countP (holdsFormula accessor) + origin.toList.length ≤ maxDepth

theorem sane_iff_sound {accessor : Option Accessor} {origin : Option String} {maxDepth : Nat}
    (positive : 0 < maxDepth) {text : String} :
    Sane accessor (origin.filter (· != "")) maxDepth text ↔
      Sound accessor (Chain.start origin maxDepth positive) text := by
  have opened : (Chain.start origin maxDepth positive).references =
      (origin.filter (· != "")).toList := List.append_nil _
  constructor
  · intro sane
    refine ⟨sane.valid, fun route routed => ⟨sane.resolved route routed,
      sane.cells_valid route routed, ?_, ?_⟩⟩
    · rw [opened, List.nodup_append]
      refine ⟨by cases origin.filter (· != "") <;> simp, sane.simple route routed, ?_⟩
      intro name same other member equal
      exact sane.avoids route routed other member (Option.mem_toList.1 (equal ▸ same))
    · rw [opened, Nat.add_comm]
      exact sane.short route routed
  · intro sound
    refine ⟨sound.valid, fun route routed => (sound.clear route routed).valid,
      fun route routed => (sound.clear route routed).resolved, fun route routed => ?_,
      fun route routed name member same => ?_, fun route routed => ?_⟩
    · exact (List.nodup_append.1 (sound.clear route routed).nodup).2.1
    · obtain ⟨_, _, apart⟩ := List.nodup_append.1 (sound.clear route routed).nodup
      refine apart name ?_ name member rfl
      rw [opened]
      exact Option.mem_toList.2 same
    · have room := (sound.clear route routed).room
      rw [opened, Nat.add_comm] at room
      exact room

/-- Evaluation succeeds only where the graph of references has no defect, and where it has none
evaluation fails only for numbers that cannot be computed. -/
theorem evaluate_sane (accessor : Option Accessor) (origin : Option String) (maxDepth : Nat)
    (positive : 0 < maxDepth) (allowance : Allowance) (text : String) :
    (∀ v, evaluateWithin accessor (Chain.start origin maxDepth positive) allowance text = .ok v →
      Sane accessor (origin.filter (· != "")) maxDepth text) ∧
    (Sane accessor (origin.filter (· != "")) maxDepth text →
      evaluateWithin accessor (Chain.start origin maxDepth positive) allowance text ≠
        .error .nestedTooDeeply →
      (∃ v, evaluateWithin accessor (Chain.start origin maxDepth positive) allowance text = .ok v) ∨
        ∃ fault, evaluateWithin accessor (Chain.start origin maxDepth positive) allowance text =
            .error fault ∧
          (fault.code = "division_by_zero" ∨ fault.code = "numeric_overflow")) := by
  constructor
  · intro v valued
    have free : evaluateWithin accessor (Chain.start origin maxDepth positive) none text =
        .ok v := by
      rw [← evaluateWithin_unlimited (by rw [valued]; simp), valued]
    exact (sane_iff_sound positive).2 (sound_of_value free)
  · intro sane shallow
    rw [evaluateWithin_unlimited shallow]
    cases result : evaluateWithin accessor (Chain.start origin maxDepth positive) none text with
    | ok v => exact .inl ⟨v, rfl⟩
    | error fault =>
      exact .inr ⟨fault, rfl, error_code_of_sound ((sane_iff_sound positive).1 sane) result⟩

theorem evaluate_sane_chained :
    let cells : Accessor := fun name =>
      if name = "A1" then some ⟨"A1", "=B1", .empty⟩
      else if name = "B1" then some ⟨"B1", "", .text "x"⟩
      else none
    Sane (some cells) none 1 "A1" := by
  intro cells
  have evaluated : evaluateWithin (some cells) (Chain.start none 1 Nat.one_pos)
      Allowance.standard "A1" = .ok (.text "x") := by cbv
  exact (evaluate_sane (some cells) none 1 Nat.one_pos Allowance.standard "A1").1 _ evaluated

end FormulaGrid.Evaluation
