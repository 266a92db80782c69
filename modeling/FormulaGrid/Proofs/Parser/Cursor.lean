import FormulaGrid.Parser.Basic
import FormulaGrid.Proofs.Syntax

/-! Where a parser stands in its tokens. Every rule looks only at tokens up to the mark of the end,
and takes none but those before it, wherever it is begun and however it ends. -/
namespace FormulaGrid.Parser

open FormulaGrid.Evaluation FormulaGrid.Grammar

/-- The rules of the descent. Those that go on from a first operand are given its value. -/
inductive Rule where
  | comparison
  | sum
  | addends (summed : Value)
  | product
  | multipliers (multiplied : Value)
  | factor
  | argumentList
  | moreArguments

namespace Rule

variable {m : Type → Type} [Monad m] [MonadExceptOf Fault m] [Cursor m]

def one {bound : Nat} (descent : m (Reading Value Token bound)) :
    m (List Value × List Token) := do
  let reading ← descent
  return ([reading.value], reading.rest)

def several {bound : Nat} (descent : m (Reading (List Value) Token bound)) :
    m (List Value × List Token) := do
  let reading ← descent
  return (reading.value, reading.rest)

def read (follow : Allowance → Token → m Value) (allowance : Allowance) (tokens : List Token) :
    Rule → m (List Value × List Token)
  | .comparison => one (Evaluation.comparison follow allowance tokens)
  | .sum => one (Evaluation.sum follow allowance tokens)
  | .addends summed => one (Evaluation.addends follow allowance summed tokens)
  | .product => one (Evaluation.product follow allowance tokens)
  | .multipliers multiplied => one (Evaluation.multipliers follow allowance multiplied tokens)
  | .factor => one (Evaluation.factor follow allowance tokens)
  | .argumentList => several (Evaluation.argumentList follow allowance tokens)
  | .moreArguments => several (Evaluation.moreArguments follow allowance tokens)

end Rule

/-- A workspace, and the tokens that were ahead in it each time one had been taken. -/
structure Trail (room : Nat) where
  workspace : Workspace room
  held : List (List Token)

abbrev Tracked (room : Nat) := EStateM Fault (Trail room)

section Tracking

variable {room : Nat} {α : Type}

instance : Cursor (Tracked room) where
  hold tokens := modify fun trail =>
    ⟨{ trail.workspace with ahead := tokens }, trail.held ++ [tokens]⟩

/-- Work that takes none of the tokens ahead leaves no trail. -/
def untracked (work : Work room α) : Tracked room α := fun trail =>
  match work trail.workspace with
  | .ok a after => .ok a { trail with workspace := after }
  | .error fault after => .error fault { trail with workspace := after }

abbrev aside (work : Allowance → Token → Work room Value) (allowance : Allowance) (token : Token) :
    Tracked room Value :=
  untracked (work allowance token)

def Workspace.followedBy (workspace : Workspace room) (beyond : List Token) : Workspace room :=
  { workspace with ahead := workspace.ahead ++ beyond }

/-- Where a parser may stand: before one of its tokens, of which the last marks the end. -/
structure Standing (tokens ahead : List Token) : Prop where
  suffix : ahead <:+ tokens
  marked : Marked ahead

/-- A workspace within its tokens, and a tracked one that has been nowhere else but has more tokens
behind. -/
structure Watched (tokens beyond : List Token) (start : Workspace room) (trail : Trail room) :
    Prop where
  workspace : trail.workspace = start.followedBy beyond
  standing : Standing tokens start.ahead
  held : ∃ held : List (List Token), trail.held = held.map (· ++ beyond) ∧
    ∀ ahead ∈ held, Standing tokens ahead

end Tracking

section Places

variable {tokens ahead : List Token}

theorem marked_suffix (marked : Marked tokens) (suffix : ahead <:+ tokens) (some : ahead ≠ []) :
    Marked ahead := by
  obtain ⟨body, mark, rfl, ended, inside⟩ := marked
  obtain ⟨before, split⟩ := suffix
  obtain ⟨within, last, rfl⟩ := (List.eq_nil_or_concat ahead).resolve_left some
  rw [List.concat_eq_append, ← List.append_assoc] at split
  obtain ⟨rfl, rest⟩ := List.append_inj' split rfl
  refine ⟨within, mark, ?_, ended, fun token member => inside token (by simp [member])⟩
  rw [List.concat_eq_append, rest]

theorem standing_nil : ¬ Standing tokens [] := by
  rintro ⟨_, body, mark, split, _, _⟩
  exact List.append_ne_nil_of_right_ne_nil body (List.cons_ne_nil mark []) split.symm

theorem Standing.behind {token : Token} {rest : List Token}
    (standing : Standing tokens (token :: rest)) (other : token.kind ≠ .endOfInput) :
    Standing tokens rest := by
  obtain ⟨suffix, body, mark, split, ended, inside⟩ := standing
  cases body with
  | nil =>
    obtain ⟨rfl, _⟩ := List.cons.inj split
    exact absurd ended other
  | cons first body =>
    obtain ⟨rfl, rfl⟩ := List.cons.inj split
    refine ⟨(List.suffix_cons _ _).trans suffix, body, mark, rfl, ended, ?_⟩
    exact fun token member => inside token (List.mem_cons_of_mem _ member)

end Places

section Steps

variable {room : Nat} {α β γ δ : Type} {tokens beyond ahead : List Token}

/-- What work comes to, and the tracked work. What they return agrees, as far as it tells, with the
tokens that are left. -/
inductive Runs (tokens beyond : List Token) (agree : α → β → List Token → Prop) :
    EStateM.Result Fault (Workspace room) α → EStateM.Result Fault (Trail room) β → Prop
  | done (a : α) (b : β) (after : Workspace room) (trail : Trail room)
      (watched : Watched tokens beyond after trail) (agreed : agree a b after.ahead) :
      Runs tokens beyond agree (.ok a after) (.ok b trail)
  | failed (fault : Fault) (after : Workspace room) (trail : Trail room)
      (watched : Watched tokens beyond after trail) :
      Runs tokens beyond agree (.error fault after) (.error fault trail)

/-- Whether work and tracked work stay within the tokens, begun where the same ones are ahead. -/
def Tracks (tokens beyond ahead : List Token) (agree : α → β → List Token → Prop)
    (work : Work room α) (tracked : Tracked room β) : Prop :=
  ∀ start trail, Watched tokens beyond start trail → start.ahead = ahead →
    Runs tokens beyond agree (work start) (tracked trail)

variable {agree : α → β → List Token → Prop} {agree' : γ → δ → List Token → Prop}

theorem tracks_pure {a : α} {b : β} (agreed : agree a b ahead) :
    Tracks tokens beyond ahead agree (pure a : Work room α) (pure b) :=
  fun start trail watched same => .done a b start trail watched (same ▸ agreed)

theorem tracks_throw (fault : Fault) :
    Tracks tokens beyond ahead agree (throw fault : Work room α) (throw fault) :=
  fun start trail watched _ => .failed fault start trail watched

theorem Tracks.bind {work : Work room α} {tracked : Tracked room β} {next : α → Work room γ}
    {next' : β → Tracked room δ} (first : Tracks tokens beyond ahead agree work tracked)
    (second : ∀ a b rest, Standing tokens rest → agree a b rest →
      Tracks tokens beyond rest agree' (next a) (next' b)) :
    Tracks tokens beyond ahead agree' (work >>= next) (tracked >>= next') := by
  intro start trail watched same
  have ran := first start trail watched same
  change Runs tokens beyond agree' (EStateM.bind work next start)
    (EStateM.bind tracked next' trail)
  unfold EStateM.bind
  generalize work start = result, tracked trail = result' at ran ⊢
  cases ran with
  | done a b after trail watched agreed =>
    exact second a b after.ahead watched.standing agreed after trail watched rfl
  | failed fault after trail watched => exact .failed fault after trail watched

theorem tracks_ofExcept (outcome : Except Fault α) {next : α → Work room γ}
    {next' : α → Tracked room δ}
    (tracks : ∀ a, Tracks tokens beyond ahead agree' (next a) (next' a)) :
    Tracks tokens beyond ahead agree' (ofExcept outcome >>= next) (ofExcept outcome >>= next') := by
  cases outcome with
  | error fault => exact tracks_throw fault
  | ok a => exact tracks a

theorem tracks_hold {rest : List Token} (standing : Standing tokens rest) {work : Work room γ}
    {tracked : Tracked room δ} (tracks : Tracks tokens beyond rest agree' work tracked) :
    Tracks tokens beyond ahead agree' (hold rest >>= fun _ => work)
      (hold (rest ++ beyond) >>= fun _ => tracked) := by
  intro start trail watched same
  obtain ⟨held, all, stood⟩ := watched.held
  refine tracks { start with ahead := rest } ⟨_, _⟩ ⟨?_, standing, held ++ [rest], ?_, ?_⟩ rfl
  · rw [watched.workspace]
    rfl
  · rw [all, List.map_append]
    rfl
  · exact List.forall_mem_append.2 ⟨stood, List.forall_mem_singleton.2 standing⟩

def leftAhead : EStateM.Result Fault (Workspace room) α → List Token
  | .ok _ after => after.ahead
  | .error _ after => after.ahead

theorem Tracks.standing {work : Work room α} {tracked : Tracked room β} {start : Workspace room}
    (tracks : Tracks tokens beyond start.ahead agree work tracked)
    (standing : Standing tokens start.ahead) : Standing tokens (leftAhead (work start)) := by
  have ran := tracks start ⟨start.followedBy beyond, []⟩ ⟨rfl, standing, [], rfl, by simp⟩ rfl
  generalize work start = result, tracked _ = result' at ran ⊢
  cases ran with
  | done a b after trail watched => exact watched.standing
  | failed fault after trail watched => exact watched.standing

def withAhead (ahead : List Token) :
    EStateM.Result Fault (Workspace room) α → EStateM.Result Fault (Workspace room) α
  | .ok a after => .ok a { after with ahead := ahead }
  | .error fault after => .error fault { after with ahead := ahead }

/-- Whether work takes no token and looks at none of those ahead. -/
def Apart (work : Work room α) : Prop :=
  ∀ (start : Workspace room) (ahead : List Token),
    work { start with ahead := ahead } = withAhead ahead (work start)

theorem apart_pure (a : α) : Apart (pure a : Work room α) :=
  fun _ _ => rfl

theorem apart_ofExcept (outcome : Except Fault α) {next : α → Work room γ}
    (apart : ∀ a, Apart (next a)) : Apart (ofExcept outcome >>= next) := by
  cases outcome with
  | error fault => exact fun _ _ => rfl
  | ok a => exact apart a

theorem apart_get {next : Workspace room → Work room α}
    (blind : ∀ (workspace : Workspace room) (ahead : List Token),
      next { workspace with ahead := ahead } = next workspace)
    (apart : ∀ workspace, Apart (next workspace)) : Apart (get >>= next) := by
  intro start ahead
  change next { start with ahead := ahead } _ = withAhead ahead (next start start)
  rw [blind]
  exact apart start start ahead

theorem tracks_untracked {work : Work room α} (apart : Apart work) {next : α → Work room γ}
    {next' : α → Tracked room δ}
    (tracks : ∀ a, Tracks tokens beyond ahead agree' (next a) (next' a)) :
    Tracks tokens beyond ahead agree' (work >>= next) (untracked work >>= next') := by
  have first : Tracks tokens beyond ahead (fun a b rest => a = b ∧ rest = ahead) work
      (untracked work) := by
    rintro start trail watched rfl
    have same : work start = withAhead start.ahead (work start) := apart start start.ahead
    have longer := apart start (start.ahead ++ beyond)
    rw [untracked, watched.workspace]
    change Runs _ _ _ _ (match work { start with ahead := start.ahead ++ beyond } with
      | .ok a after => _
      | .error fault after => _)
    rw [longer, same]
    cases work start with
    | ok a after => exact .done _ _ _ _ ⟨rfl, watched.standing, watched.held⟩ ⟨rfl, rfl⟩
    | error fault after => exact .failed _ _ _ ⟨rfl, watched.standing, watched.held⟩
  refine first.bind fun a b rest _ agreed => ?_
  obtain ⟨rfl, rfl⟩ := agreed
  exact tracks a

end Steps

section Following

variable {room : Nat} {token : Token} (start : Workspace room)
  {evaluation : (less : Nat) → less < room → Work less Value}

theorem holding_refused {cause : Cause} (refused : start.chain.enter token.lexeme = .error cause) :
    holding token evaluation start = .error (.formula (cause.at token.position)) start := by
  unfold holding
  split
  next other refused' =>
    obtain rfl := Except.error.inj (refused.symm.trans refused')
    rfl
  next inner entered =>
    rw [refused] at entered
    cases entered

theorem holding_entered {inner : Chain} (entered : start.chain.enter token.lexeme = .ok inner) :
    have smaller := Nat.lt_of_lt_of_le (Chain.room_enter entered) start.within
    holding token evaluation start =
      match evaluation inner.room smaller (start.nested inner) with
      | .ok value after => .ok value (start.resume smaller token.lexeme after)
      | .error fault after => .error fault.elsewhere (start.resume smaller token.lexeme after) := by
  unfold holding
  split
  next cause refused =>
    rw [entered] at refused
    cases refused
  next other entered' =>
    obtain rfl := Except.ok.inj (entered.symm.trans entered')
    rfl

theorem holding_apart : Apart (holding token evaluation) := by
  intro start ahead
  cases opened : start.chain.enter token.lexeme with
  | error cause =>
    rw [holding_refused start opened]
    exact holding_refused { start with ahead := ahead } opened
  | ok inner =>
    rw [holding_entered start opened]
    refine (holding_entered { start with ahead := ahead } opened).trans ?_
    have smaller := Nat.lt_of_lt_of_le (Chain.room_enter opened) start.within
    change (match evaluation inner.room smaller (start.nested inner) with
      | .ok value after => _
      | .error fault after => _) = _
    cases evaluation inner.room smaller (start.nested inner) <;> rfl

theorem follow_apart (accessor : Option Accessor)
    (evaluation : (less : Nat) → less < room → Allowance → String → Work less Value)
    (allowance : Allowance) (token : Token) :
    Apart (follow accessor evaluation allowance token) := by
  unfold follow
  refine apart_get (fun _ _ => rfl) fun workspace => apart_ofExcept _ fun cell => ?_
  split
  · exact holding_apart
  · exact apart_pure _

end Following

section Rules

variable {room : Nat} {α : Type} {tokens beyond ahead : List Token} {bound bound' : Nat}

/-- Two readings of the same value, of which the first leaves the tokens and the second those and
more. -/
structure Beside (beyond : List Token) (reading : Reading α Token bound)
    (longer : Reading α Token bound') (left : List Token) : Prop where
  value : longer.value = reading.value
  beyond : longer.rest = reading.rest ++ beyond
  left : reading.rest = left

theorem expect_tracks {kind : TokenKind} (other : kind ≠ .endOfInput)
    (standing : Standing tokens ahead) :
    Tracks tokens beyond ahead (Beside beyond) (expect kind ahead : Work room _)
      (expect kind (ahead ++ beyond)) := by
  cases ahead with
  | nil => exact absurd standing standing_nil
  | cons token rest =>
    rw [List.cons_append, expect, expect]
    split
    next same => exact tracks_hold (standing.behind (same ▸ other)) (tracks_pure ⟨rfl, rfl, rfl⟩)
    next => exact tracks_throw _

variable {work : Allowance → Token → Work room Value}

mutual
theorem comparison_tracks (apart : ∀ allowance token, Apart (work allowance token))
    (allowance : Allowance) (ahead : List Token) (standing : Standing tokens ahead) :
    Tracks tokens beyond ahead (Beside beyond) (comparison work allowance ahead)
      (comparison (aside work) allowance (ahead ++ beyond)) := by
  rw [comparison.eq_def, comparison.eq_def]
  refine (sum_tracks apart allowance ahead standing).bind ?_
  rintro ⟨value, rest, shorter⟩ ⟨_, _, _⟩ _ stood agreed
  obtain ⟨same, behind, left⟩ := agreed
  dsimp only at same behind left
  subst same behind left
  cases rest with
  | nil => exact absurd stood standing_nil
  | cons sign rest =>
    dsimp only [List.cons_append]
    cases compares : sign.kind.comparison? with
    | none => exact tracks_pure ⟨rfl, rfl, rfl⟩
    | some operator =>
      have inside : rest.length < ahead.length := Nat.lt_of_succ_lt shorter
      have stood := stood.behind fun ended => by rw [ended] at compares; cases compares
      refine tracks_hold stood ((sum_tracks apart allowance rest stood).bind ?_)
      rintro right ⟨_, _, _⟩ _ stood ⟨rfl, rfl, rfl⟩
      exact tracks_ofExcept _ fun value => tracks_pure ⟨rfl, rfl, rfl⟩
termination_by (ahead.length, 3)

theorem sum_tracks (apart : ∀ allowance token, Apart (work allowance token))
    (allowance : Allowance) (ahead : List Token) (standing : Standing tokens ahead) :
    Tracks tokens beyond ahead (Beside beyond) (sum work allowance ahead)
      (sum (aside work) allowance (ahead ++ beyond)) := by
  rw [sum.eq_def, sum.eq_def]
  refine (product_tracks apart allowance ahead standing).bind ?_
  rintro first ⟨_, _, _⟩ _ stood ⟨rfl, rfl, rfl⟩
  have := first.shorter
  refine (addends_tracks apart allowance first.value first.rest stood).bind ?_
  rintro all ⟨_, _, _⟩ _ stood ⟨rfl, rfl, rfl⟩
  exact tracks_pure ⟨rfl, rfl, rfl⟩
termination_by (ahead.length, 2)

theorem addends_tracks (apart : ∀ allowance token, Apart (work allowance token))
    (allowance : Allowance) (summed : Value) (ahead : List Token)
    (standing : Standing tokens ahead) :
    Tracks tokens beyond ahead (Beside beyond) (addends work allowance summed ahead)
      (addends (aside work) allowance summed
        (ahead ++ beyond)) := by
  match ahead, standing with
  | [], standing => exact absurd standing standing_nil
  | sign :: rest, standing =>
    rw [List.cons_append, addends.eq_def, addends.eq_def]
    dsimp only
    cases adds : sign.kind.sum? with
    | none => exact tracks_pure ⟨rfl, rfl, rfl⟩
    | some operator =>
      have stood := standing.behind fun ended => by rw [ended] at adds; cases adds
      refine tracks_hold stood ((product_tracks apart allowance rest stood).bind ?_)
      rintro right ⟨_, _, _⟩ _ stood ⟨rfl, rfl, rfl⟩
      have := right.shorter
      refine tracks_ofExcept _ fun value => ?_
      refine (addends_tracks apart allowance value right.rest stood).bind ?_
      rintro all ⟨_, _, _⟩ _ stood ⟨rfl, rfl, rfl⟩
      exact tracks_pure ⟨rfl, rfl, rfl⟩
termination_by (ahead.length, 0)

theorem product_tracks (apart : ∀ allowance token, Apart (work allowance token))
    (allowance : Allowance) (ahead : List Token) (standing : Standing tokens ahead) :
    Tracks tokens beyond ahead (Beside beyond) (product work allowance ahead)
      (product (aside work) allowance (ahead ++ beyond)) := by
  rw [product.eq_def, product.eq_def]
  refine (factor_tracks apart allowance ahead standing).bind ?_
  rintro first ⟨_, _, _⟩ _ stood ⟨rfl, rfl, rfl⟩
  have := first.shorter
  refine (multipliers_tracks apart allowance first.value first.rest stood).bind ?_
  rintro all ⟨_, _, _⟩ _ stood ⟨rfl, rfl, rfl⟩
  exact tracks_pure ⟨rfl, rfl, rfl⟩
termination_by (ahead.length, 1)

theorem multipliers_tracks (apart : ∀ allowance token, Apart (work allowance token))
    (allowance : Allowance) (multiplied : Value) (ahead : List Token)
    (standing : Standing tokens ahead) :
    Tracks tokens beyond ahead (Beside beyond) (multipliers work allowance multiplied ahead)
      (multipliers (aside work) allowance multiplied (ahead ++ beyond)) := by
  match ahead, standing with
  | [], standing => exact absurd standing standing_nil
  | sign :: rest, standing =>
    rw [List.cons_append, multipliers.eq_def, multipliers.eq_def]
    dsimp only
    cases multiplies : sign.kind.product? with
    | none => exact tracks_pure ⟨rfl, rfl, rfl⟩
    | some operator =>
      have stood := standing.behind fun ended => by rw [ended] at multiplies; cases multiplies
      refine tracks_hold stood ((factor_tracks apart allowance rest stood).bind ?_)
      rintro right ⟨_, _, _⟩ _ stood ⟨rfl, rfl, rfl⟩
      have := right.shorter
      refine tracks_ofExcept _ fun value => ?_
      refine (multipliers_tracks apart allowance value right.rest stood).bind ?_
      rintro all ⟨_, _, _⟩ _ stood ⟨rfl, rfl, rfl⟩
      exact tracks_pure ⟨rfl, rfl, rfl⟩
termination_by (ahead.length, 0)

theorem factor_tracks (apart : ∀ allowance token, Apart (work allowance token))
    (allowance : Allowance) (ahead : List Token) (standing : Standing tokens ahead) :
    Tracks tokens beyond ahead (Beside beyond) (factor work allowance ahead)
      (factor (aside work) allowance (ahead ++ beyond)) := by
  match ahead, standing with
  | [], standing => exact absurd standing standing_nil
  | token :: rest, standing =>
    rw [List.cons_append, factor.eq_def, factor.eq_def]
    dsimp only
    cases kind : token.kind with
    | number =>
      have stood := standing.behind (by rw [kind]; decide)
      exact tracks_hold stood (tracks_pure ⟨rfl, rfl, rfl⟩)
    | cellReference =>
      have stood := standing.behind (by rw [kind]; decide)
      exact tracks_hold stood (tracks_untracked (apart allowance token) fun value =>
        tracks_pure ⟨rfl, rfl, rfl⟩)
    | function =>
      have stood := standing.behind (by rw [kind]; decide)
      refine tracks_hold stood ((expect_tracks (by decide) stood).bind ?_)
      rintro opened ⟨_, _, _⟩ _ stood ⟨rfl, rfl, rfl⟩
      have := opened.shorter
      refine tracks_ofExcept _ fun inner => ?_
      refine (argumentList_tracks apart inner opened.rest stood).bind ?_
      rintro arguments ⟨_, _, _⟩ _ stood ⟨rfl, rfl, rfl⟩
      exact tracks_ofExcept _ fun value => tracks_pure ⟨rfl, rfl, rfl⟩
    | not =>
      have stood := standing.behind (by rw [kind]; decide)
      refine tracks_hold stood (tracks_ofExcept _ fun inner => ?_)
      refine (factor_tracks apart inner rest stood).bind ?_
      rintro operand ⟨_, _, _⟩ _ stood ⟨rfl, rfl, rfl⟩
      exact tracks_ofExcept _ fun value => tracks_pure ⟨rfl, rfl, rfl⟩
    | leftParen =>
      have stood := standing.behind (by rw [kind]; decide)
      refine tracks_hold stood (tracks_ofExcept _ fun inner => ?_)
      refine (comparison_tracks apart inner rest stood).bind ?_
      rintro read ⟨_, _, _⟩ _ stood ⟨rfl, rfl, rfl⟩
      refine (expect_tracks (by decide) stood).bind ?_
      rintro closed ⟨_, _, _⟩ _ stood ⟨rfl, rfl, rfl⟩
      exact tracks_pure ⟨rfl, rfl, rfl⟩
    | _ => exact tracks_throw _
termination_by (ahead.length, 0)

theorem argumentList_tracks (apart : ∀ allowance token, Apart (work allowance token))
    (allowance : Allowance) (ahead : List Token) (standing : Standing tokens ahead) :
    Tracks tokens beyond ahead (Beside beyond) (argumentList work allowance ahead)
      (argumentList (aside work) allowance (ahead ++ beyond)) := by
  match ahead, standing with
  | [], standing => exact absurd standing standing_nil
  | token :: rest, standing =>
    rw [List.cons_append, argumentList.eq_def, argumentList.eq_def]
    dsimp only
    split
    next closes =>
      have stood := standing.behind (by rw [closes]; decide)
      exact tracks_hold stood (tracks_pure ⟨rfl, rfl, rfl⟩)
    next =>
      refine (comparison_tracks apart allowance (token :: rest) standing).bind ?_
      rintro first ⟨_, _, _⟩ _ stood ⟨rfl, rfl, rfl⟩
      have := first.shorter
      refine (moreArguments_tracks apart allowance first.rest stood).bind ?_
      rintro others ⟨_, _, _⟩ _ stood ⟨rfl, rfl, rfl⟩
      exact tracks_pure ⟨rfl, rfl, rfl⟩
termination_by (ahead.length, 4)

theorem moreArguments_tracks (apart : ∀ allowance token, Apart (work allowance token))
    (allowance : Allowance) (ahead : List Token) (standing : Standing tokens ahead) :
    Tracks tokens beyond ahead (Beside beyond) (moreArguments work allowance ahead)
      (moreArguments (aside work) allowance (ahead ++ beyond)) := by
  match ahead, standing with
  | [], standing => exact absurd standing standing_nil
  | token :: rest, standing =>
    rw [List.cons_append, moreArguments.eq_def, moreArguments.eq_def]
    dsimp only
    split
    next separates =>
      have stood := standing.behind (by rw [separates]; decide)
      refine tracks_hold stood ((comparison_tracks apart allowance rest stood).bind ?_)
      rintro next ⟨_, _, _⟩ _ stood ⟨rfl, rfl, rfl⟩
      have := next.shorter
      refine (moreArguments_tracks apart allowance next.rest stood).bind ?_
      rintro others ⟨_, _, _⟩ _ stood ⟨rfl, rfl, rfl⟩
      exact tracks_pure ⟨rfl, rfl, rfl⟩
    next =>
      refine (expect_tracks (by decide) standing).bind ?_
      rintro closed ⟨_, _, _⟩ _ stood ⟨rfl, rfl, rfl⟩
      exact tracks_pure ⟨rfl, rfl, rfl⟩
termination_by (ahead.length, 4)
end

def SameRead (beyond : List Token) (read longer : List Value × List Token) (left : List Token) :
    Prop :=
  read.2 = left ∧ longer = (read.1, left ++ beyond)

theorem one_tracks {descent : Work room (Reading Value Token bound)}
    {longer : Tracked room (Reading Value Token bound')}
    (tracks : Tracks tokens beyond ahead (Beside beyond) descent longer) :
    Tracks tokens beyond ahead (SameRead beyond) (Rule.one descent) (Rule.one longer) := by
  refine tracks.bind ?_
  rintro reading ⟨_, _, _⟩ _ _ ⟨rfl, rfl, rfl⟩
  exact tracks_pure ⟨rfl, rfl⟩

theorem several_tracks {descent : Work room (Reading (List Value) Token bound)}
    {longer : Tracked room (Reading (List Value) Token bound')}
    (tracks : Tracks tokens beyond ahead (Beside beyond) descent longer) :
    Tracks tokens beyond ahead (SameRead beyond) (Rule.several descent) (Rule.several longer) := by
  refine tracks.bind ?_
  rintro reading ⟨_, _, _⟩ _ _ ⟨rfl, rfl, rfl⟩
  exact tracks_pure ⟨rfl, rfl⟩

theorem rule_tracks (apart : ∀ allowance token, Apart (work allowance token))
    (allowance : Allowance) (standing : Standing tokens ahead) (rule : Rule) :
    Tracks tokens beyond ahead (SameRead beyond) (rule.read work allowance ahead)
      (rule.read (aside work) allowance (ahead ++ beyond)) := by
  cases rule with
  | comparison => exact one_tracks (comparison_tracks apart allowance ahead standing)
  | sum => exact one_tracks (sum_tracks apart allowance ahead standing)
  | addends summed => exact one_tracks (addends_tracks apart allowance summed ahead standing)
  | product => exact one_tracks (product_tracks apart allowance ahead standing)
  | multipliers multiplied =>
    exact one_tracks (multipliers_tracks apart allowance multiplied ahead standing)
  | factor => exact one_tracks (factor_tracks apart allowance ahead standing)
  | argumentList => exact several_tracks (argumentList_tracks apart allowance ahead standing)
  | moreArguments => exact several_tracks (moreArguments_tracks apart allowance ahead standing)

end Rules

section Whole

variable {room : Nat} {α : Type} {tokens : List Token}

theorem bind_of_ok {β : Type} {work : Work room α} {next : α → Work room β} {a : α}
    {start after : Workspace room} (ran : work start = .ok a after) :
    (work >>= next) start = next a after := by
  change EStateM.bind work next start = _
  unfold EStateM.bind
  rw [ran]

theorem bind_of_error {β : Type} {work : Work room α} {next : α → Work room β} {fault : Fault}
    {start after : Workspace room} (ran : work start = .error fault after) :
    (work >>= next) start = .error fault after := by
  change EStateM.bind work next start = _
  unfold EStateM.bind
  rw [ran]

theorem evaluateAhead_standing {work : Allowance → Token → Work room Value}
    (apart : ∀ allowance token, Apart (work allowance token)) (allowance : Allowance)
    (start : Workspace room) (standing : Standing tokens start.ahead) :
    Standing tokens (leftAhead (evaluateAhead work allowance start)) := by
  have tracks : Tracks tokens [] start.ahead (Beside []) _ _ :=
    comparison_tracks apart allowance start.ahead standing
  have stays := tracks.standing standing
  change Standing tokens (leftAhead
    ((comparison work allowance start.ahead >>= _ : Work room Value) start))
  cases ran : comparison work allowance start.ahead start with
  | error fault after =>
    rw [ran] at stays
    rw [bind_of_error ran]
    exact stays
  | ok reading after =>
    rw [ran] at stays
    rw [bind_of_ok ran]
    change Standing tokens (leftAhead ((if (current after.ahead).kind = .endOfInput then _
      else _ : Work room Value) after))
    split <;> exact stays

theorem evaluate_standing (parser : Parser) (chain : Chain) (allowance : Allowance) {text : String}
    (visible : isBlankFormula text = false)
    (lexed : Token.tokenize text (Token.bodyStart text) = .ok tokens) :
    Standing tokens (parser.evaluate chain allowance text).parser.ahead := by
  have standing : Standing tokens tokens := ⟨List.suffix_refl _, tokenize_marked lexed⟩
  have left : (parser.evaluate chain allowance text).parser.ahead =
      leftAhead (evaluateText parser.accessor chain.room allowance text
        (parser.workspace chain)) := by
    rw [evaluate]
    split
    next ran => rw [ran, leftAhead]
    next ran => rw [ran, leftAhead]
  rw [left, evaluateText, if_neg (by simp [visible]), lexed]
  exact evaluateAhead_standing (follow_apart parser.accessor _) allowance
    { parser.workspace chain with ahead := tokens } standing

/-- A rule that is begun at one of the tokens of a text stays at its tokens: it never takes the mark
of the end, and what lies behind the mark makes no difference. So does a whole evaluation. -/
theorem rule_within {text : String} {offset : Nat} (lexed : Token.tokenize text offset = .ok tokens)
    (start : Workspace room) (suffix : start.ahead <:+ tokens) (some : start.ahead ≠ [])
    (accessor : Option Accessor)
    (evaluation : (less : Nat) → less < room → Allowance → String → Work less Value)
    (allowance : Allowance) :
    (∀ (rule : Rule) (beyond : List Token),
      Runs tokens beyond (SameRead beyond)
        (rule.read (follow accessor evaluation) allowance start.ahead start)
        (rule.read (aside (follow accessor evaluation)) allowance (start.ahead ++ beyond)
          ⟨start.followedBy beyond, []⟩)) ∧
      Standing tokens
        (leftAhead (evaluateAhead (follow accessor evaluation) allowance start)) := by
  have standing : Standing tokens start.ahead :=
    ⟨suffix, marked_suffix (tokenize_marked lexed) suffix some⟩
  have apart := follow_apart accessor evaluation
  refine ⟨fun rule beyond => ?_, evaluateAhead_standing apart allowance start standing⟩
  exact rule_tracks apart allowance standing rule start ⟨start.followedBy beyond, []⟩
    ⟨rfl, standing, [], rfl, by simp⟩ rfl

theorem rule_within_sum :
    let mark : Token := ⟨.endOfInput, "", 3⟩
    let tokens : List Token := [⟨.number, "1", 1⟩, ⟨.plus, "+", 2⟩, mark]
    let chain := Chain.start none Chain.defaultDepth (by decide)
    let start : Workspace chain.room := ⟨chain, Nat.le_refl _, tokens, []⟩
    let cells := follow none fun less _ => evaluateText none less
    let beyond : List Token := [⟨.number, "2", 4⟩]
    ∃ trail, Rule.sum.read (aside cells) none (tokens ++ beyond) ⟨start.followedBy beyond, []⟩ =
        .error (.formula (.unexpected mark)) trail ∧
      trail.workspace.ahead = [mark] ++ beyond := by
  intro mark tokens chain start cells beyond
  have lexed : Token.tokenize "=1+" 1 = .ok tokens := by decide +kernel
  obtain ⟨runs, _⟩ := rule_within lexed start (List.suffix_refl _) (by simp [start, tokens]) none
    (fun less _ => evaluateText none less) none
  have ran := runs .sum beyond
  let plus : Token := ⟨.plus, "+", 2⟩
  have summand : Evaluation.product cells none tokens start =
      .ok ⟨numeralValue "1", [plus, mark], by decide⟩ { start with ahead := [plus, mark] } := by
    rw [Evaluation.product, Evaluation.factor]
    change EStateM.bind (Evaluation.multipliers cells none (numeralValue "1") _) _ _ = _
    rw [Evaluation.multipliers]
    rfl
  have missing : Evaluation.product cells none [mark] { start with ahead := [mark] } =
      .error (.formula (.unexpected mark)) { start with ahead := [mark] } := by
    rw [Evaluation.product, Evaluation.factor]
    rfl
  have further : Evaluation.addends cells none (numeralValue "1") [plus, mark]
      { start with ahead := [plus, mark] } =
        .error (.formula (.unexpected mark)) { start with ahead := [mark] } := by
    rw [Evaluation.addends]
    exact (bind_of_ok rfl).trans (bind_of_error missing)
  have failed : Rule.sum.read cells none tokens start =
      .error (.formula (.unexpected mark)) { start with ahead := [mark] } := by
    rw [Rule.read, Rule.one, Evaluation.sum]
    exact bind_of_error ((bind_of_ok summand).trans (bind_of_error further))
  change Runs tokens beyond (SameRead beyond) (Rule.sum.read cells none tokens start)
    (Rule.sum.read (aside cells) none (tokens ++ beyond) _) at ran
  rw [failed] at ran
  generalize Rule.sum.read (aside cells) none (tokens ++ beyond) _ = result at ran ⊢
  cases ran with
  | failed _ _ trail watched => exact ⟨trail, rfl, by rw [watched.workspace]; rfl⟩

end Whole

end FormulaGrid.Parser
