import FormulaGrid.Parser.Basic
import FormulaGrid.Proofs.Descent.Basic

/-! What parsers do to the chain that they share while they evaluate. A descent by a parser comes to
what it comes to for its value alone, takes the same tokens, and keeps the chain if all references
that it follows do. -/
namespace FormulaGrid.Parser

open FormulaGrid.Evaluation FormulaGrid.Failure

/-- A chain with the same references open, and maybe more since. -/
structure Extends (chain longer : Chain) : Prop where
  maxDepth : longer.maxDepth = chain.maxDepth
  references : chain.references <+: longer.references

/-- Chains that follow one another from a first one to a last one, each after one reference has been
entered into the chain before, or one that was entered has been closed. -/
inductive Moves : Chain → List Chain → Chain → Prop
  | stay (chain : Chain) : Moves chain [] chain
  | enter (chain inner last : Chain) (name : String) (moments : List Chain)
      (entered : chain.enter name = .ok inner) (more : Moves inner moments last) :
      Moves chain (inner :: moments) last
  | close (chain last : Chain) (name : String) (moments : List Chain)
      (opened : name ∈ chain.entered) (more : Moves (chain.close name) moments last) :
      Moves chain (chain.close name :: moments) last

/-- A workspace in which the chain is as it was, and has only been extended meanwhile. No chain that
it has been is left out. -/
structure Keeps {room : Nat} (start after : Workspace room) : Prop where
  chain : after.chain = start.chain
  moments : ∃ more, after.moments = start.moments ++ more ∧ Moves start.chain more after.chain ∧
    ∀ moment ∈ more, Extends start.chain moment

/-- What an evaluation by a parser comes to, and that it keeps the chain, where it fails as well. -/
inductive Performs {room : Nat} {α : Type} (start : Workspace room)
    (leaves : α → Workspace room → Prop) :
    Except Fault α → EStateM.Result Fault (Workspace room) α → Prop
  | done (a : α) (after : Workspace room) (kept : Keeps start after) (left : leaves a after) :
      Performs start leaves (.ok a) (.ok a after)
  | failed (fault : Fault) (after : Workspace room) (kept : Keeps start after) :
      Performs start leaves (.error fault) (.error fault after)

section Chains

variable {chain inner longer last : Chain} {name : String} {moments later : List Chain}

theorem Moves.append (first : Moves chain moments inner) (second : Moves inner later last) :
    Moves chain (moments ++ later) last := by
  induction first with
  | stay => exact second
  | enter chain inner _ name moments entered _ ih => exact .enter _ _ _ _ _ entered (ih second)
  | close chain _ name moments opened _ ih => exact .close _ _ _ _ opened (ih second)

theorem Moves.around (entered : chain.enter name = .ok inner) (within : Moves inner moments inner) :
    Moves chain (inner :: (moments ++ [chain])) chain := by
  have opened : name ∈ inner.entered := by
    rw [(Chain.enter_ok entered).2.2.2]
    exact List.mem_append_right _ (List.mem_singleton_self name)
  have closes : Moves inner [inner.close name] (inner.close name) :=
    .close _ _ _ _ opened (.stay _)
  rw [Chain.close_enter entered] at closes
  exact .enter _ _ _ _ _ entered (within.append closes)

theorem Extends.refl (chain : Chain) : Extends chain chain :=
  ⟨rfl, List.prefix_refl _⟩

theorem Extends.trans (first : Extends chain inner) (second : Extends inner longer) :
    Extends chain longer :=
  ⟨second.maxDepth.trans first.maxDepth, first.references.trans second.references⟩

theorem extends_enter (entered : chain.enter name = .ok inner) : Extends chain inner where
  maxDepth := Chain.maxDepth_enter entered
  references := by
    rw [Chain.references_enter entered]
    exact List.prefix_append _ _

end Chains

section Steps

variable {room : Nat} {α β : Type} {start middle after : Workspace room}

theorem Keeps.refl (start : Workspace room) : Keeps start start :=
  ⟨rfl, [], (List.append_nil _).symm, .stay _, by simp⟩

theorem Keeps.trans (first : Keeps start middle) (second : Keeps middle after) :
    Keeps start after := by
  obtain ⟨before, earlier, moves_before, extends_before⟩ := first.moments
  obtain ⟨more, later, moves_more, extends_more⟩ := second.moments
  refine ⟨second.chain.trans first.chain, before ++ more, ?_, moves_before.append moves_more, ?_⟩
  · rw [later, earlier, List.append_assoc]
  · rw [first.chain] at extends_more
    exact List.forall_mem_append.2 ⟨extends_before, extends_more⟩

variable {leaves : α → Workspace room → Prop} {leaves' : β → Workspace room → Prop}

theorem Performs.since {outcome : Except Fault α}
    {ran : EStateM.Result Fault (Workspace room) α} (performs : Performs middle leaves outcome ran)
    (kept : Keeps start middle) : Performs start leaves outcome ran := by
  cases performs with
  | done a after since left => exact .done a after (kept.trans since) left
  | failed fault after since => exact .failed fault after (kept.trans since)

theorem Performs.bind {outcome : Except Fault α} {work : Work room α}
    {next : α → Except Fault β} {nextWork : α → Work room β}
    (first : Performs start leaves outcome (work start))
    (second : ∀ a after, after.chain = start.chain → leaves a after →
      Performs after leaves' (next a) (nextWork a after)) :
    Performs start leaves' (outcome >>= next) ((work >>= nextWork) start) := by
  change Performs start leaves' _ (EStateM.bind work nextWork start)
  unfold EStateM.bind
  generalize work start = ran at first ⊢
  cases first with
  | done a after kept left => exact (second a after kept.chain left).since kept
  | failed fault after kept => exact .failed fault after kept

theorem performs_pure (a : α) (left : leaves a start) :
    Performs start leaves (pure a) ((pure a : Work room α) start) :=
  .done a start (Keeps.refl start) left

theorem performs_throw (fault : Fault) :
    Performs start leaves (throw fault) ((throw fault : Work room α) start) :=
  .failed fault start (Keeps.refl start)

theorem performs_ofExcept (outcome : Except Fault α) :
    Performs start (fun _ after => after = start) outcome
      ((ofExcept outcome : Work room α) start) := by
  cases outcome with
  | error fault => exact performs_throw fault
  | ok a => exact performs_pure a rfl

theorem performs_get {outcome : Except Fault α} {next : Workspace room → Work room α}
    (performs : Performs start leaves outcome (next start start)) :
    Performs start leaves outcome ((get >>= next) start) :=
  performs

theorem performs_hold (tokens : List Token) :
    Performs start (fun _ after => after.ahead = tokens) (hold tokens)
      ((hold tokens : Work room Unit) start) :=
  .done () { start with ahead := tokens } ⟨rfl, [], (List.append_nil _).symm, .stay _, by simp⟩ rfl

theorem performs_held {tokens : List Token} {outcome : Except Fault α} {work : Work room α}
    (performs : ∀ held, held.chain = start.chain → held.ahead = tokens →
      Performs held leaves outcome (work held)) :
    Performs start leaves outcome ((hold tokens >>= fun _ => work) start) :=
  (performs_hold tokens).bind fun _ => performs

end Steps

section Readings

variable {room : Nat} {α β : Type} {bound bound' : Nat} {chain : Chain} {tokens : List Token}

/-- Whether a parser that has the tokens ahead reads from them what there is to read. -/
def Reads (chain : Chain) (tokens : List Token) (outcome : Except Fault (Reading α Token bound))
    (work : Work room (Reading α Token bound)) : Prop :=
  ∀ start, start.chain = chain → start.ahead = tokens →
    Performs start (fun reading after => after.ahead = reading.rest) outcome (work start)

theorem reads_pure {reading : Reading α Token bound} (left : reading.rest = tokens) :
    Reads chain tokens (pure reading) (pure reading : Work room _) :=
  fun _ _ ahead => performs_pure reading (ahead.trans left.symm)

theorem reads_throw (fault : Fault) :
    Reads chain tokens (throw fault) (throw fault : Work room (Reading α Token bound)) :=
  fun _ _ _ => performs_throw fault

theorem Reads.bind {outcome : Except Fault (Reading α Token bound)}
    {work : Work room (Reading α Token bound)}
    {next : Reading α Token bound → Except Fault (Reading β Token bound')}
    {nextWork : Reading α Token bound → Work room (Reading β Token bound')}
    (first : Reads chain tokens outcome work)
    (second : ∀ reading, Reads chain reading.rest (next reading) (nextWork reading)) :
    Reads chain tokens (outcome >>= next) (work >>= nextWork) := fun start same ahead =>
  (first start same ahead).bind fun reading after kept left =>
    second reading after (kept.trans same) left

theorem reads_hold {rest : List Token} {outcome : Except Fault (Reading α Token bound)}
    {work : Work room (Reading α Token bound)} (reads : Reads chain rest outcome work) :
    Reads chain tokens (hold rest >>= fun _ => outcome) (hold rest >>= fun _ => work) :=
  fun _ same _ => performs_held fun held kept left => reads held (kept.trans same) left

theorem reads_ofExcept (outcome : Except Fault α)
    {next : α → Except Fault (Reading β Token bound)}
    {nextWork : α → Work room (Reading β Token bound)}
    (reads : ∀ a, Reads chain tokens (next a) (nextWork a)) :
    Reads chain tokens (ofExcept outcome >>= next) (ofExcept outcome >>= nextWork) := by
  rw [ofExcept_eq]
  exact fun _ same ahead => (performs_ofExcept outcome).bind fun a _ kept unchanged =>
    reads a _ (kept.trans same) (unchanged ▸ ahead)

/-- Whether a parser follows references to what they stand for, and takes no token by it. -/
def Follows (chain : Chain) (follow : Allowance → Token → Outcome)
    (work : Allowance → Token → Work room Value) : Prop :=
  ∀ allowance token start, start.chain = chain →
    Performs start (fun _ after => after.ahead = start.ahead) (follow allowance token)
      (work allowance token start)

theorem Follows.reads {follow : Allowance → Token → Outcome}
    {work : Allowance → Token → Work room Value} (follows : Follows chain follow work)
    (allowance : Allowance) (token : Token)
    {next : Value → Except Fault (Reading β Token bound)}
    {nextWork : Value → Work room (Reading β Token bound)}
    (reads : ∀ value, Reads chain tokens (next value) (nextWork value)) :
    Reads chain tokens (follow allowance token >>= next) (work allowance token >>= nextWork) :=
  fun start same ahead => (follows allowance token start same).bind fun value after kept left =>
    reads value after (kept.trans same) (left.trans ahead)

end Readings

section Rules

variable {room : Nat} {chain : Chain}

theorem expect_reads (kind : TokenKind) (tokens : List Token) :
    Reads chain tokens (expect kind tokens) (expect kind tokens : Work room _) := by
  cases tokens with
  | nil => exact reads_throw _
  | cons token rest =>
    rw [expect, expect]
    split
    · exact reads_hold (reads_pure rfl)
    · exact reads_throw _

variable {follow : Allowance → Token → Outcome} {work : Allowance → Token → Work room Value}

mutual
theorem comparison_reads (follows : Follows chain follow work) (allowance : Allowance)
    (tokens : List Token) :
    Reads chain tokens (comparison follow allowance tokens) (comparison work allowance tokens) := by
  rw [comparison.eq_def, comparison.eq_def]
  refine (sum_reads follows allowance tokens).bind fun left => ?_
  obtain ⟨value, rest, shorter⟩ := left
  cases rest with
  | nil => exact reads_pure rfl
  | cons sign rest =>
    dsimp only
    cases sign.kind.comparison? with
    | none => exact reads_pure rfl
    | some operator =>
      have inside : rest.length < tokens.length := Nat.lt_of_succ_lt shorter
      refine reads_hold ((sum_reads follows allowance rest).bind fun right => ?_)
      exact reads_ofExcept _ fun compared => reads_pure rfl
termination_by (tokens.length, 3)

theorem sum_reads (follows : Follows chain follow work) (allowance : Allowance)
    (tokens : List Token) :
    Reads chain tokens (sum follow allowance tokens) (sum work allowance tokens) := by
  rw [sum.eq_def, sum.eq_def]
  refine (product_reads follows allowance tokens).bind fun first => ?_
  have := first.shorter
  exact (addends_reads follows allowance first.value first.rest).bind fun all => reads_pure rfl
termination_by (tokens.length, 2)

theorem addends_reads (follows : Follows chain follow work) (allowance : Allowance)
    (summed : Value) (tokens : List Token) :
    Reads chain tokens (addends follow allowance summed tokens)
      (addends work allowance summed tokens) := by
  rw [addends.eq_def, addends.eq_def]
  match tokens with
  | [] => exact reads_pure rfl
  | sign :: rest =>
    dsimp only
    cases sign.kind.sum? with
    | none => exact reads_pure rfl
    | some operator =>
      refine reads_hold ((product_reads follows allowance rest).bind fun right => ?_)
      have := right.shorter
      refine reads_ofExcept _ fun value => ?_
      exact (addends_reads follows allowance value right.rest).bind fun all => reads_pure rfl
termination_by (tokens.length, 0)

theorem product_reads (follows : Follows chain follow work) (allowance : Allowance)
    (tokens : List Token) :
    Reads chain tokens (product follow allowance tokens) (product work allowance tokens) := by
  rw [product.eq_def, product.eq_def]
  refine (factor_reads follows allowance tokens).bind fun first => ?_
  have := first.shorter
  exact (multipliers_reads follows allowance first.value first.rest).bind fun all => reads_pure rfl
termination_by (tokens.length, 1)

theorem multipliers_reads (follows : Follows chain follow work) (allowance : Allowance)
    (multiplied : Value) (tokens : List Token) :
    Reads chain tokens (multipliers follow allowance multiplied tokens)
      (multipliers work allowance multiplied tokens) := by
  rw [multipliers.eq_def, multipliers.eq_def]
  match tokens with
  | [] => exact reads_pure rfl
  | sign :: rest =>
    dsimp only
    cases sign.kind.product? with
    | none => exact reads_pure rfl
    | some operator =>
      refine reads_hold ((factor_reads follows allowance rest).bind fun right => ?_)
      have := right.shorter
      refine reads_ofExcept _ fun value => ?_
      exact (multipliers_reads follows allowance value right.rest).bind fun all => reads_pure rfl
termination_by (tokens.length, 0)

theorem factor_reads (follows : Follows chain follow work) (allowance : Allowance)
    (tokens : List Token) :
    Reads chain tokens (factor follow allowance tokens) (factor work allowance tokens) := by
  rw [factor.eq_def, factor.eq_def]
  match tokens with
  | [] => exact reads_throw _
  | token :: rest =>
    dsimp only
    cases token.kind with
    | number => exact reads_hold (reads_pure rfl)
    | cellReference => exact reads_hold (follows.reads allowance token fun value => reads_pure rfl)
    | function =>
      refine reads_hold ((expect_reads .leftParen rest).bind fun opened => ?_)
      have := opened.shorter
      refine reads_ofExcept _ fun inner => ?_
      refine (argumentList_reads follows inner opened.rest).bind fun arguments => ?_
      exact reads_ofExcept _ fun value => reads_pure rfl
    | not =>
      refine reads_hold (reads_ofExcept _ fun inner => ?_)
      refine (factor_reads follows inner rest).bind fun operand => ?_
      exact reads_ofExcept _ fun value => reads_pure rfl
    | leftParen =>
      refine reads_hold (reads_ofExcept _ fun inner => ?_)
      refine (comparison_reads follows inner rest).bind fun read => ?_
      exact (expect_reads .rightParen read.rest).bind fun closed => reads_pure rfl
    | _ => exact reads_throw _
termination_by (tokens.length, 0)

theorem argumentList_reads (follows : Follows chain follow work) (allowance : Allowance)
    (tokens : List Token) :
    Reads chain tokens (argumentList follow allowance tokens)
      (argumentList work allowance tokens) := by
  rw [argumentList.eq_def, argumentList.eq_def]
  match tokens with
  | [] =>
    refine (comparison_reads follows allowance []).bind fun first => ?_
    exact absurd first.shorter (Nat.not_lt_zero _)
  | token :: rest =>
    dsimp only
    split
    · exact reads_hold (reads_pure rfl)
    · refine (comparison_reads follows allowance (token :: rest)).bind fun first => ?_
      have := first.shorter
      exact (moreArguments_reads follows allowance first.rest).bind fun others => reads_pure rfl
termination_by (tokens.length, 4)

theorem moreArguments_reads (follows : Follows chain follow work) (allowance : Allowance)
    (tokens : List Token) :
    Reads chain tokens (moreArguments follow allowance tokens)
      (moreArguments work allowance tokens) := by
  rw [moreArguments.eq_def, moreArguments.eq_def]
  match tokens with
  | [] => exact reads_throw _
  | token :: rest =>
    dsimp only
    split
    · refine reads_hold ((comparison_reads follows allowance rest).bind fun next => ?_)
      have := next.shorter
      exact (moreArguments_reads follows allowance next.rest).bind fun others => reads_pure rfl
    · exact (expect_reads .rightParen (token :: rest)).bind fun closed => reads_pure rfl
termination_by (tokens.length, 4)
end

end Rules

end FormulaGrid.Parser
