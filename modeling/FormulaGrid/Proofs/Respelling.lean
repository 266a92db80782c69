import FormulaGrid.Proofs.Cycle

/-! One formula evaluated from its cell under two names. A chain of open references knows a cell by
its name only, so that a cycle through the cell is noticed sooner under one name than under another.
Where none is noticed the name makes no difference, and where one is noticed under some name there
is no value under any. -/
namespace FormulaGrid.Evaluation

open FormulaGrid.Failure FormulaGrid.Grammar

/-- Two chains of which only the first references differ. -/
structure Respelled (name other : String) (chain inner : Chain) : Prop where
  maxDepth : chain.maxDepth = inner.maxDepth
  references : ∃ opened, chain.references = name :: opened ∧ inner.references = other :: opened

/-- A chain that starts from a cell without a name. No formula mentions such a cell. -/
def unnamed (maxDepth : Nat) (positive : 0 < maxDepth) : Chain :=
  ⟨maxDepth, some "", [], by simp, positive⟩

/-- A name that a message keeps apart from what follows. -/
structure Word (name : String) : Prop where
  nonempty : name ≠ ""
  unbroken : ' ' ∉ name.toList

def Cyclic (outcome : Outcome) : Prop :=
  ∃ fault, outcome = .error fault ∧ fault.code = "cyclic_reference"

theorem not_cyclic_ok (v : Value) : ¬ Cyclic (.ok v) := by
  rintro ⟨_, ⟨⟩, _⟩

/-- What a formula comes to under two names of its cell: the same, unless there is a cycle, and then
a failure under both names that tells them. -/
inductive Retold (name other : String) : Outcome → Outcome → Prop where
  | same (outcome : Outcome) (acyclic : ¬ Cyclic outcome) : Retold name other outcome outcome
  | cycle (fault fault' : Fault)
      (cyclic : fault.code = "cyclic_reference" ∨ fault'.code = "cyclic_reference")
      (told : fault.message = fault'.message ↔ name = other) :
      Retold name other (.error fault) (.error fault')

theorem Retold.symm {name other : String} {outcome outcome' : Outcome}
    (retold : Retold name other outcome outcome') : Retold other name outcome' outcome := by
  cases retold with
  | same outcome acyclic => exact .same outcome acyclic
  | cycle fault fault' cyclic told =>
    exact .cycle fault' fault cyclic.symm (eq_comm.trans (told.trans eq_comm))

section Chains

variable {name other : String} {chain inner : Chain} {lost : Fault → Prop} {token : Token}

theorem Respelled.symm (related : Respelled name other chain inner) :
    Respelled other name inner chain := by
  obtain ⟨opened, first, second⟩ := related.references
  exact ⟨related.maxDepth.symm, opened, second, first⟩

theorem Respelled.absent (related : Respelled name other chain inner) {reference : String}
    (different : reference ≠ other) (missing : reference ∉ chain.references) :
    reference ∉ inner.references := by
  obtain ⟨opened, first, second⟩ := related.references
  rw [first] at missing
  rw [second]
  exact List.not_mem_cons_of_ne_of_not_mem different (List.not_mem_of_not_mem_cons missing)

theorem Respelled.room (related : Respelled name other chain inner) : inner.room = chain.room := by
  obtain ⟨opened, first, second⟩ := related.references
  rw [Chain.room, Chain.room, first, second, related.maxDepth, List.length_cons, List.length_cons]

theorem Respelled.check (cycles : ∀ fault, fault.code = "cyclic_reference" → lost fault)
    (related : Respelled name other chain inner) (different : token.lexeme ≠ other) :
    Alike lost Eq Eq (placed token (chain.check token.lexeme))
      (placed token (inner.check token.lexeme)) := by
  unfold Chain.check
  by_cases present : token.lexeme ∈ chain.references
  · rw [if_pos present]
    exact .lost _ (cycles _ rfl) _
  · rw [if_neg present, if_neg (related.absent different present)]
    exact .done _ _ rfl

theorem Respelled.enter (cycles : ∀ fault, fault.code = "cyclic_reference" → lost fault)
    (related : Respelled name other chain inner) (different : token.lexeme ≠ other) :
    Alike lost Eq (Respelled name other) (placed token (chain.enter token.lexeme))
      (placed token (inner.enter token.lexeme)) := by
  by_cases present : token.lexeme ∈ chain.references
  · rw [enter_present present]
    exact .lost _ (cycles _ rfl) _
  · have missing := related.absent different present
    rcases Nat.eq_zero_or_pos chain.room with full | open_room
    · rw [enter_full present full, enter_full missing (related.room.trans full), related.maxDepth]
      exact .failed _ _ rfl
    · obtain ⟨next, entered⟩ := exists_enter_iff.2 ⟨present, open_room⟩
      obtain ⟨next', entered'⟩ := exists_enter_iff.2 ⟨missing, related.room ▸ open_room⟩
      obtain ⟨opened, first, second⟩ := related.references
      rw [entered, entered']
      refine .done next next' ⟨?_, opened ++ [token.lexeme], ?_, ?_⟩
      · rw [Chain.maxDepth_enter entered, Chain.maxDepth_enter entered', related.maxDepth]
      · rw [Chain.references_enter entered, first, List.cons_append]
      · rw [Chain.references_enter entered', second, List.cons_append]

theorem references_named {maxDepth : Nat} {positive : 0 < maxDepth} (named : name ≠ "") :
    (Chain.start (some name) maxDepth positive).references = [name] := by
  simp [Chain.start, Chain.references, Option.filter, named]

theorem respelled_unnamed {maxDepth : Nat} {positive : 0 < maxDepth} (named : name ≠ "") :
    Respelled name "" (Chain.start (some name) maxDepth positive) (unnamed maxDepth positive) :=
  ⟨rfl, [], references_named named, rfl⟩

theorem looser_restart {maxDepth : Nat} {positive : 0 < maxDepth} (named : name ≠ "")
    (depth : chain.maxDepth = maxDepth) (entered : chain.enter name = .ok inner) :
    Looser inner (Chain.start (some name) maxDepth positive) := by
  constructor
  · rw [references_named named, Chain.references_enter entered]
    exact List.subset_append_right _ _
  · rw [room_of_enter entered, Chain.room, Chain.room, references_named named, depth]
    change maxDepth - _ - 1 ≤ maxDepth - 1
    omega

end Chains

section Evaluations

variable {accessor : Option Accessor} {lost : Fault → Prop} {name other text : String}
  {chain inner : Chain} {maxDepth : Nat} {a most : Allowance}

theorem spend_within (a b : Allowance) (share : Nat) (same : a = b ∧ Allowance.AtMost a most) :
    Alike lost Eq (fun a b => a = b ∧ Allowance.AtMost a most) (a.spend share) (b.spend share) := by
  obtain ⟨rfl, within⟩ := same
  cases spent : a.spend share with
  | error fault => exact .failed fault fault rfl
  | ok left => exact .done left left ⟨rfl, atMost_trans (atMost_of_spend spent) within⟩

/-- Evaluations within chains of which the first references differ come to the same, unless the
first evaluation is lost: in a cycle, or wherever the other reference is mentioned. -/
theorem evaluateWithin_respelled (elsewhere : ∀ fault, lost fault → lost fault.elsewhere)
    (cycles : ∀ fault, fault.code = "cyclic_reference" → lost fault)
    (stray : ∀ chain a (token : Token) text, chain.maxDepth = maxDepth → Allowance.AtMost a most →
      token.lexeme = other → other ∈ mentions text →
      ∃ fault, referenceValue accessor chain a token = .error fault ∧ lost fault)
    (related : Respelled name other chain inner) (depth : chain.maxDepth = maxDepth)
    (within : Allowance.AtMost a most) :
    Alike lost Eq Eq (evaluateWithin accessor chain a text)
      (evaluateWithin accessor inner a text) := by
  -- Every reference that is followed leaves less room in the first chain.
  induction room : chain.room using Nat.strongRecOn generalizing chain inner a text with
  | ind room ih =>
    refine evaluateWithin_sharing spend_within ⟨rfl, within⟩ fun c d token mentioned same => ?_
    obtain ⟨rfl, within⟩ := same
    by_cases different : token.lexeme = other
    · obtain ⟨fault, failed, gone⟩ :=
        stray chain c token text depth within different (different ▸ mentioned)
      rw [failed]
      exact .lost fault gone _
    · have found : Alike lost Eq Eq (placed token (findCell accessor chain token.lexeme))
          (placed token (findCell accessor inner token.lexeme)) := by
        unfold findCell placed
        rw [mapError_bind, mapError_bind]
        exact (related.check cycles different).bind fun _ _ _ _ => Alike.refl fun _ => rfl
      refine found.bind fun cell cell' _ same => ?_
      subst same
      split
      · refine (related.enter cycles different).bind fun next next' entered related => ?_
        have entered := mapError_eq_ok.1 entered
        refine (spend_within c c _ ⟨rfl, within⟩).bind fun left left' _ same => ?_
        obtain ⟨rfl, within⟩ := same
        have less := Chain.room_enter entered
        have deep := (Chain.maxDepth_enter entered).trans depth
        exact (ih next.room (by omega) related deep within rfl).mapError elsewhere
          fun _ _ same => congrArg Fault.elsewhere same
      · exact .done _ _ rfl

theorem ne_empty_of_mem_mentions (mentioned : name ∈ mentions text) : name ≠ "" := by
  cases lexed : Token.tokenize text (Token.bodyStart text) with
  | error error => simp [mentions, lexed] at mentioned
  | ok tokens =>
    obtain ⟨token, member, refers, rfl⟩ := (mem_mentions_iff lexed).1 mentioned
    have shaped := (Token.scan_ok_iff.1 lexed).shaped member (by rw [refers]; decide)
    intro empty
    rw [empty] at shaped
    exact shaped.ne_nil rfl

theorem forgets_name {positive : 0 < maxDepth} (named : name ≠ "") :
    Alike (fun fault => fault.code = "cyclic_reference") Eq Eq
      (evaluateWithin accessor (Chain.start (some name) maxDepth positive) a text)
      (evaluateWithin accessor (unnamed maxDepth positive) a text) := by
  refine evaluateWithin_respelled (fun fault code => ?_) (fun _ code => code) ?_
    (respelled_unnamed named) rfl (atMost_refl a)
  · rw [elsewhere_code, code]
  · intro _ _ _ _ _ _ _ mentioned
    exact absurd rfl (ne_empty_of_mem_mentions mentioned)

theorem confined_of_alike {first second : Outcome} {fault : Fault}
    (alike : Alike Confined Eq Eq first second) (failed : second = .error fault)
    (confined : Confined fault) : ∃ other, first = .error other ∧ Confined other := by
  rcases alike.eq_or_lost with same | lost
  · exact ⟨fault, same.trans failed, confined⟩
  · exact lost

/-- Coming back to a formula fails in a longer chain if the formula fails for its chain. -/
theorem referenceValue_confined {positive : 0 < maxDepth} {cell : Snapshot} {fault : Fault}
    {token : Token} {b : Allowance} (named : token.lexeme ≠ "")
    (found : accessor.bind (· token.lexeme) = some cell) (formula : cell.isFormula)
    (failed : evaluateWithin accessor (Chain.start (some token.lexeme) maxDepth positive) a
      cell.rawExpression = .error fault) (confined : Confined fault)
    (depth : chain.maxDepth = maxDepth) (within : Allowance.AtMost b a) :
    ∃ other, referenceValue accessor chain b token = .error other ∧ Confined other := by
  rcases referenceValue_formula found formula with ⟨other, stopped, every⟩ | ⟨next, entered, every⟩
  · exact ⟨other, every b, stopped⟩
  · rw [every b]
    cases spent : b.spend Allowance.reference with
    | error short =>
      obtain rfl := spend_eq_error spent
      exact ⟨_, rfl, .inr (.inr rfl)⟩
    | ok left =>
      have looser : Looser next (Chain.start (some token.lexeme) maxDepth positive) :=
        looser_restart named depth entered
      have less := atMost_trans (atMost_of_spend spent) within
      obtain ⟨other, failed', confined'⟩ :=
        confined_of_alike (evaluateWithin_looser looser less) failed confined
      refine ⟨other.elsewhere, ?_, confined_elsewhere confined'⟩
      rw [ok_bind, failed', mapError_error]

/-- A formula that is stopped under a name is stopped without one: where it does not come back to
its cell nothing changes, and where it does it would have to come back once more. -/
theorem confined_unnamed {positive : 0 < maxDepth} {cell : Snapshot} {fault : Fault}
    (named : name ≠ "") (found : accessor.bind (· name) = some cell) (formula : cell.isFormula)
    (failed : evaluateWithin accessor (Chain.start (some name) maxDepth positive) a
      cell.rawExpression = .error fault) (confined : Confined fault) :
    ∃ other, evaluateWithin accessor (unnamed maxDepth positive) a cell.rawExpression =
      .error other ∧ Confined other := by
  refine confined_of_alike (evaluateWithin_respelled (fun _ => confined_elsewhere)
    (fun _ => .inl) ?_ (respelled_unnamed named).symm rfl (atMost_refl a)) failed confined
  rintro chain b token text depth within rfl _
  exact referenceValue_confined named found formula failed confined depth within

theorem evaluateWithin_renamed {positive : 0 < maxDepth} (named : name ≠ "") (named' : other ≠ "")
    (acyclic :
      ¬ Cyclic (evaluateWithin accessor (Chain.start (some name) maxDepth positive) a text))
    (acyclic' :
      ¬ Cyclic (evaluateWithin accessor (Chain.start (some other) maxDepth positive) a text)) :
    evaluateWithin accessor (Chain.start (some name) maxDepth positive) a text =
      evaluateWithin accessor (Chain.start (some other) maxDepth positive) a text := by
  rcases (forgets_name named).eq_or_lost with same | cyclic
  · rcases (forgets_name named').eq_or_lost with same' | cyclic
    · exact same.trans same'.symm
    · exact absurd cyclic acyclic'
  · exact absurd cyclic acyclic

theorem confined_renamed {positive : 0 < maxDepth} {cell : Snapshot} {fault : Fault}
    (named : name ≠ "") (named' : other ≠ "") (found : accessor.bind (· name) = some cell)
    (formula : cell.isFormula)
    (failed : evaluateWithin accessor (Chain.start (some name) maxDepth positive) a
      cell.rawExpression = .error fault) (cyclic : fault.code = "cyclic_reference") :
    ∃ fault', evaluateWithin accessor (Chain.start (some other) maxDepth positive) a
      cell.rawExpression = .error fault' ∧ Confined fault' := by
  obtain ⟨bare, failed', confined⟩ := confined_unnamed named found formula failed (.inl cyclic)
  rcases (forgets_name named').eq_or_lost with same | ⟨fault', failed'', code⟩
  · exact ⟨bare, same.trans failed', confined⟩
  · exact ⟨fault', failed'', .inl code⟩

end Evaluations

section Messages

variable {accessor : Option Accessor} {name other text : String} {maxDepth : Nat}
  {positive : 0 < maxDepth} {a : Allowance} {fault fault' : Fault}

theorem cycle_message (name : String) {more : List String} (followed : more ≠ []) :
    ∃ rest, (Cause.cycle (name :: more)).message.toList =
      "Cyclic reference: ".toList ++ (name.toList ++ ' ' :: rest) := by
  have arrow : " -> ".toList = ' ' :: ['-', '>', ' '] := by decide
  refine ⟨['-', '>', ' '] ++ (String.intercalate " -> " more).toList, ?_⟩
  change ("Cyclic reference: " ++ String.intercalate " -> " (name :: more)).toList = _
  rw [String.intercalate_cons_of_ne_nil followed, String.toList_append, String.toList_append,
    String.toList_append, arrow, List.append_assoc, List.cons_append]

theorem depth_message (name : String) (maxDepth : Nat) :
    ∃ rest, (Cause.depthExceeded name maxDepth).message.toList = 'R' :: rest := by
  have first : "Reference chain exceeds maximum depth of ".toList =
      'R' :: "eference chain exceeds maximum depth of ".toList := by decide
  refine ⟨"eference chain exceeds maximum depth of ".toList ++
    ((toString maxDepth).toList ++ (" at ".toList ++ name.toList)), ?_⟩
  change ("Reference chain exceeds maximum depth of " ++ toString maxDepth ++ " at " ++ name).toList
    = _
  rw [String.toList_append, String.toList_append, String.toList_append, first]
  simp only [List.cons_append, List.append_assoc]

theorem cyclic_message (named : name ≠ "")
    (failed : evaluateWithin accessor (Chain.start (some name) maxDepth positive) a text =
      .error fault) (cyclic : fault.code = "cyclic_reference") :
    ∃ rest, fault.message.toList =
      "Cyclic reference: ".toList ++ (name.toList ++ ' ' :: rest) := by
  cases fault with
  | formula error =>
    obtain ⟨cause, position⟩ := error
    cases cause with
    | cycle opened =>
      obtain ⟨path, last, rfl, _⟩ := cycle_traced failed
      rw [references_named named, List.append_assoc]
      exact cycle_message name (by simp)
    | _ => simp [Fault.code, Cause.code] at cyclic
  | _ => simp [Fault.code] at cyclic

theorem confined_message (confined : Confined fault) (other : fault.code ≠ "cyclic_reference") :
    ∃ c rest, fault.message.toList = c :: rest ∧ c ≠ 'C' := by
  rcases confined with cyclic | deep | rfl
  · exact absurd cyclic other
  · cases fault with
    | formula error =>
      obtain ⟨cause, position⟩ := error
      cases cause with
      | depthExceeded reference maxDepth =>
        obtain ⟨rest, begins⟩ := depth_message reference maxDepth
        exact ⟨'R', rest, begins, by decide⟩
      | _ => simp [Fault.code, Cause.code] at deep
    | _ => simp [Fault.code] at deep
  · exact ⟨'E', "xpression nested too deeply".toList, by decide, by decide⟩

theorem word_unique {first second rest rest' : List Char} (word : ' ' ∉ first)
    (word' : ' ' ∉ second) (same : first ++ ' ' :: rest = second ++ ' ' :: rest') :
    first = second := by
  have cut {run tail : List Char} (word : ' ' ∉ run) :
      (run ++ ' ' :: tail).takeWhile (· != ' ') = run := by
    refine Text.takeWhile_run (fun c member => bne_iff_ne.2 ?_) (by simp)
    rintro rfl
    exact word member
  rw [← cut word, same, cut word']

theorem message_ne (word : Word name) (word' : Word other) (different : name ≠ other)
    (failed : evaluateWithin accessor (Chain.start (some name) maxDepth positive) a text =
      .error fault) (cyclic : fault.code = "cyclic_reference")
    (failed' : evaluateWithin accessor (Chain.start (some other) maxDepth positive) a text =
      .error fault') (confined : Confined fault') : fault.message ≠ fault'.message := by
  intro same
  obtain ⟨rest, begins⟩ := cyclic_message word.nonempty failed cyclic
  by_cases cyclic' : fault'.code = "cyclic_reference"
  · obtain ⟨rest', begins'⟩ := cyclic_message word'.nonempty failed' cyclic'
    rw [same, begins', List.append_cancel_left_eq] at begins
    exact different (String.toList_inj.1 (word_unique word.unbroken word'.unbroken begins.symm))
  -- Other failures begin with another letter.
  · obtain ⟨c, rest', begins', unlike⟩ := confined_message confined cyclic'
    have first : "Cyclic reference: ".toList = 'C' :: "yclic reference: ".toList := by decide
    rw [same, begins', first, List.cons_append] at begins
    exact unlike (List.cons.inj begins).1

theorem retold_of_cyclic {cell : Snapshot} (word : Word name) (word' : Word other)
    (found : accessor.bind (· name) = some cell) (formula : cell.isFormula)
    (cyclic : Cyclic (evaluateWithin accessor (Chain.start (some name) maxDepth positive) a
      cell.rawExpression)) :
    Retold name other
      (evaluateWithin accessor (Chain.start (some name) maxDepth positive) a cell.rawExpression)
      (evaluateWithin accessor (Chain.start (some other) maxDepth positive) a
        cell.rawExpression) := by
  obtain ⟨fault, failed, code⟩ := cyclic
  obtain ⟨fault', failed', confined⟩ :=
    confined_renamed word.nonempty word'.nonempty found formula failed code
  have told : fault.message = fault'.message ↔ name = other := by
    constructor
    · intro same
      by_contra different
      exact message_ne word word' different failed code failed' confined same
    · rintro rfl
      cases failed.symm.trans failed'
      rfl
  rw [failed, failed']
  exact .cycle fault fault' (.inl code) told

/-- One formula under two names of its cell. -/
theorem retold {cell : Snapshot} (word : Word name) (word' : Word other)
    (found : accessor.bind (· name) = some cell) (found' : accessor.bind (· other) = some cell)
    (formula : cell.isFormula) :
    Retold name other
      (evaluateWithin accessor (Chain.start (some name) maxDepth positive) a cell.rawExpression)
      (evaluateWithin accessor (Chain.start (some other) maxDepth positive) a
        cell.rawExpression) := by
  by_cases cyclic : Cyclic (evaluateWithin accessor (Chain.start (some name) maxDepth positive) a
    cell.rawExpression)
  · exact retold_of_cyclic word word' found formula cyclic
  · by_cases cyclic' : Cyclic (evaluateWithin accessor (Chain.start (some other) maxDepth positive)
      a cell.rawExpression)
    · exact (retold_of_cyclic word' word found' formula cyclic').symm
    · rw [← evaluateWithin_renamed word.nonempty word'.nonempty cyclic cyclic']
      exact .same _ cyclic

end Messages

end FormulaGrid.Evaluation
