import FormulaGrid.Proofs.Extraction
import Mathlib.Data.List.Flatten
import Mathlib.Data.List.Nodup
import Mathlib.Data.List.Perm.Basic

/-! Which call is blamed where several have a wrong number of arguments. Evaluation blames the one
that closes first, and the check the first of those that are nested most deeply. On one depth both
orders are the same, so that they blame the same call just where none is nested more deeply than
the one that closes first. -/
namespace FormulaGrid

open FormulaGrid.Failure FormulaGrid.Grammar

namespace Formula

mutual
/-- The wrong calls of a formula at a depth, in the order in which they close. -/
def closings (depth : Nat) : Formula → List WrongCall
  | .number _ _ => []
  | .reference _ _ => []
  | .call name position arguments =>
    closingsAmong (depth + 1) arguments ++
      (wrongCall? depth name position arguments.length).toList
  | .negation _ operand => closings (depth + 1) operand
  | .binary _ _ left right => closings (depth + 1) left ++ closings (depth + 1) right

def closingsAmong (depth : Nat) : List Formula → List WrongCall
  | [] => []
  | formula :: formulas => closings depth formula ++ closingsAmong depth formulas
end

def WrongCall.place (call : WrongCall) : Nat :=
  (Fault.formula call.error).position

section Orders

variable {depth position count : Nat} {name : String} {formula : Formula} {call : WrongCall}

theorem closingsAmong_eq (depth : Nat) (formulas : List Formula) :
    closingsAmong depth formulas = formulas.flatMap (closings depth) := by
  induction formulas with
  | nil => rfl
  | cons formula formulas ih => rw [closingsAmong, ih, List.flatMap_cons]

theorem wrongCallsAmong_eq (depth : Nat) (formulas : List Formula) :
    wrongCallsAmong depth formulas = formulas.flatMap (wrongCalls depth) := by
  induction formulas with
  | nil => rfl
  | cons formula formulas ih => rw [wrongCallsAmong, ih, List.flatMap_cons]

theorem leavesAmong_eq (formulas : List Formula) :
    leavesAmong formulas = formulas.flatMap leaves := by
  induction formulas with
  | nil => rfl
  | cons formula formulas ih => rw [leavesAmong, ih, List.flatMap_cons]

theorem closings_perm (depth : Nat) (formula : Formula) :
    (closings depth formula).Perm (wrongCalls depth formula) := by
  induction formula using induct generalizing depth with
  | number | reference => exact .refl _
  | call name position arguments ih =>
    rw [closings, wrongCalls, closingsAmong_eq, wrongCallsAmong_eq]
    exact List.perm_append_comm.trans
      (.append_left _ (.flatMap_left _ fun argument member => ih argument member (depth + 1)))
  | negation position operand ih => exact ih (depth + 1)
  | binary operator position left right ihl ihr => exact (ihl (depth + 1)).append (ihr (depth + 1))

theorem closings_eq_nil (fits : formula.Fits) : closings depth formula = [] := by
  have none_wrong : wrongCalls depth formula = [] := wrongCalls_eq_nil_iff.2 fits
  exact (none_wrong ▸ closings_perm depth formula).eq_nil

theorem wrongCall?_eq_some (wrong : wrongCall? depth name position count = some call) :
    call.depth = depth ∧ call.place = position := by
  unfold wrongCall? at wrong
  split at wrong <;> cases wrong
  exact ⟨rfl, rfl⟩

theorem depth_le (member : call ∈ wrongCalls depth formula) : depth ≤ call.depth := by
  induction formula using induct generalizing depth with
  | number | reference => simp [wrongCalls] at member
  | call name position arguments ih =>
    rcases List.mem_append.1 member with own | inside
    · exact (wrongCall?_eq_some (Option.mem_toList.1 own)).1.ge
    · obtain ⟨argument, among, inside⟩ := mem_wrongCallsAmong.1 inside
      exact (Nat.le_succ depth).trans (ih argument among inside)
  | negation position operand ih => exact (Nat.le_succ depth).trans (ih member)
  | binary operator position left right ihl ihr =>
    rcases List.mem_append.1 member with inside | inside
    · exact (Nat.le_succ depth).trans (ihl inside)
    · exact (Nat.le_succ depth).trans (ihr inside)

theorem filter_closings (level depth : Nat) (formula : Formula) :
    (closings depth formula).filter (·.depth == level) =
      (wrongCalls depth formula).filter (·.depth == level) := by
  induction formula using induct generalizing depth with
  | number | reference => rfl
  | call name position arguments ih =>
    have among : (closingsAmong (depth + 1) arguments).filter (·.depth == level) =
        (wrongCallsAmong (depth + 1) arguments).filter (·.depth == level) := by
      rw [closingsAmong_eq, wrongCallsAmong_eq, List.filter_flatMap, List.filter_flatMap]
      exact List.flatMap_congr fun argument member => ih argument member (depth + 1)
    rw [closings, wrongCalls, List.filter_append, List.filter_append, among]
    -- The call itself and those among its arguments are never on one depth.
    by_cases here : level = depth
    · have deeper : (wrongCallsAmong (depth + 1) arguments).filter (·.depth == level) = [] := by
        refine List.filter_eq_nil_iff.2 fun call member => ?_
        obtain ⟨argument, _, inside⟩ := mem_wrongCallsAmong.1 member
        have := depth_le inside
        simp only [beq_iff_eq]
        omega
      rw [deeper, List.nil_append, List.append_nil]
    · have other : (wrongCall? depth name position arguments.length).toList.filter
          (·.depth == level) = [] := by
        refine List.filter_eq_nil_iff.2 fun call member => ?_
        have own := (wrongCall?_eq_some (Option.mem_toList.1 member)).1
        simp only [beq_iff_eq]
        omega
      rw [other, List.nil_append, List.append_nil]
  | negation position operand ih => exact ih (depth + 1)
  | binary operator position left right ihl ihr =>
    rw [closings, wrongCalls, List.filter_append, List.filter_append, ihl, ihr]

theorem deepest?_eq_some {wrong : List WrongCall} (found : deepest? wrong = some call) :
    (∀ other ∈ wrong, other.depth ≤ call.depth) ∧
      (wrong.filter (·.depth == call.depth)).head? = some call := by
  induction wrong generalizing call with
  | nil => cases found
  | cons first others ih =>
    rw [deepest?] at found
    cases deeper : deepest? others with
    | none =>
      obtain rfl := deepest_eq_none_iff.1 deeper
      rw [deeper] at found
      cases found
      simp
    | some other =>
      obtain ⟨most, leads⟩ := ih deeper
      rw [deeper] at found
      dsimp only at found
      split at found
      next below =>
        cases found
        refine ⟨List.forall_mem_cons.2 ⟨below.le, most⟩, ?_⟩
        rwa [List.filter_cons_of_neg (by simpa using below.ne)]
      next above =>
        cases found
        refine ⟨List.forall_mem_cons.2 ⟨le_rfl, fun call member => ?_⟩, ?_⟩
        · exact (most call member).trans (Nat.le_of_not_lt above)
        · rw [List.filter_cons_of_pos (by simp), List.head?_cons]

theorem places_sublist (depth : Nat) (formula : Formula) :
    ((wrongCalls depth formula).map WrongCall.place).Sublist
      (formula.leaves.map Token.position) := by
  induction formula using induct generalizing depth with
  | number | reference => exact List.nil_sublist _
  | call name position arguments ih =>
    rw [wrongCalls, leaves, wrongCallsAmong_eq, leavesAmong_eq, List.map_append, List.map_cons,
      List.map_flatMap, List.map_flatMap]
    have among := List.Sublist.flatMap_right arguments fun argument member =>
      ih argument member (depth + 1)
    cases wrong : wrongCall? depth name position arguments.length with
    | none => exact among.cons _
    | some call =>
      rw [Option.toList_some, List.map_singleton, (wrongCall?_eq_some wrong).2]
      exact among.cons_cons _
  | negation position operand ih => exact (ih (depth + 1)).cons _
  | binary operator position left right ihl ihr =>
    rw [wrongCalls, leaves, List.map_append, List.map_append, List.map_cons]
    exact (ihl (depth + 1)).append ((ihr (depth + 1)).cons _)

end Orders

section Values

variable {follow : Token → Outcome} {formula : Formula} {fault : Fault}

theorem values_error_first {formulas : List Formula}
    (failed : values follow formulas = .error fault) :
    ∃ before formula after, formulas = before ++ formula :: after ∧
      (∀ other ∈ before, other.Fits) ∧ formula.value follow = .error fault := by
  induction formulas with
  | nil => cases failed
  | cons formula formulas ih =>
    rw [values] at failed
    rcases bind_eq_error.1 failed with head | ⟨first, valued, failed⟩
    · exact ⟨[], formula, formulas, rfl, by simp, head⟩
    · rcases bind_eq_error.1 failed with tail | ⟨others, _, failed⟩
      · obtain ⟨before, other, after, rfl, fit, met⟩ := ih tail
        exact ⟨formula :: before, other, after, rfl,
          List.forall_mem_cons.2 ⟨(value_ok valued).1, fit⟩, met⟩
      · cases failed

theorem callFunction_error_wrong {name : String} {arguments : List Value} {position : Nat}
    (depth : Nat) (failed : callFunction name arguments (some position) = .error fault)
    (wrong : fault.code = "function_error") :
    ∃ call, wrongCall? depth name position arguments.length = some call ∧
      fault = .formula call.error := by
  rcases callFunction_error failed with ⟨_, unfit⟩ | code
  · unfold callFunction at failed
    unfold wrongCall?
    cases arity : checkArity name arguments.length with
    | error cause =>
      rw [arity] at failed
      cases failed
      exact ⟨_, rfl, rfl⟩
    | ok function => exact absurd ⟨function, arity⟩ unfit
  · exact absurd (wrong.symm.trans code) (by decide)

/-- A formula without references that fails for a wrong call fails for the one that closes
first. -/
theorem head?_closings (depth : Nat) (plain : formula.references = [])
    (failed : formula.value follow = .error fault) (wrong : fault.code = "function_error") :
    ∃ call, (closings depth formula).head? = some call ∧ fault = .formula call.error := by
  induction formula using induct generalizing depth with
  | number => cases failed
  | reference name position => cases plain
  | call name position arguments ih =>
    rw [closings, closingsAmong_eq]
    rcases bind_eq_error.1 failed with argued | ⟨all, each, called⟩
    · obtain ⟨before, argument, after, rfl, fit, met⟩ := values_error_first argued
      have member : argument ∈ before ++ argument :: after := by simp
      have own : argument.references = [] := by
        refine List.eq_nil_iff_forall_not_mem.2 fun other inside => ?_
        exact List.eq_nil_iff_forall_not_mem.1 plain other
          (mem_referencesAmong.2 ⟨argument, member, inside⟩)
      have closed : before.flatMap (closings (depth + 1)) = [] :=
        List.flatMap_eq_nil_iff.2 fun other among => closings_eq_nil (fit other among)
      obtain ⟨call, leads, same⟩ := ih argument member (depth + 1) own met
      refine ⟨call, ?_, same⟩
      rw [List.flatMap_append, closed, List.nil_append, List.flatMap_cons, List.append_assoc,
        List.head?_append, leads, Option.some_or]
    · obtain ⟨length, valued⟩ := values_ok each
      have closed : arguments.flatMap (closings (depth + 1)) = [] := by
        refine List.flatMap_eq_nil_iff.2 fun argument member => ?_
        obtain ⟨v, argued⟩ := valued argument member
        exact closings_eq_nil (value_ok argued).1
      obtain ⟨call, own, same⟩ := callFunction_error_wrong depth called wrong
      rw [length] at own
      exact ⟨call, by rw [closed, own]; rfl, same⟩
  | negation position operand ih =>
    rcases bind_eq_error.1 failed with operated | ⟨v, _, negated⟩
    · exact ih (depth + 1) plain operated
    · exact absurd (wrong.symm.trans (negate_error_code negated)) (by decide)
  | binary operator position left right ihl ihr =>
    obtain ⟨first, second⟩ := List.append_eq_nil_iff.1 plain
    rw [closings, List.head?_append]
    rcases bind_eq_error.1 failed with lefted | ⟨a, lefted, failed⟩
    · obtain ⟨call, leads, same⟩ := ihl (depth + 1) first lefted
      exact ⟨call, by rw [leads, Option.some_or], same⟩
    · rw [closings_eq_nil (value_ok lefted).1, List.head?_nil, Option.none_or]
      rcases bind_eq_error.1 failed with righted | ⟨b, _, applied⟩
      · exact ihr (depth + 1) second righted
      · rcases apply_error_code applied with code | code <;>
          exact absurd (wrong.symm.trans code) (by decide)

end Values

end Formula

namespace Evaluation

open FormulaGrid.Formula

section Blaming

variable {text : String} {formula : Formula} {first other : WrongCall}

theorem leaves_increasing (parses : Parses text formula) :
    (formula.leaves.map Token.position).Nodup := by
  obtain ⟨visible, tokens, lexed, read⟩ := parses
  obtain ⟨body, rfl, covers, _⟩ := (Token.tokenize_ok_iff_covers visible.le).1 lexed
  obtain ⟨others, mark, same, _, derived⟩ := (ofTokens_ok_iff (tokenize_marked lexed)).1 read
  obtain ⟨rfl, _⟩ := List.append_inj' same rfl
  have kept : Token.kept body = formula.leaves := kept_derives derived covers.shaped
  have ordered : formula.leaves.Pairwise fun first second => first.position < second.position :=
    kept ▸ covers.increasing.sublist List.filter_sublist
  exact List.pairwise_map.2 (ordered.imp Nat.ne_of_lt)

theorem validate_wrong (parses : Parses text formula)
    (found : deepest? (wrongCalls 0 formula) = some other) :
    validate text = .error (.formula other.error) := by
  rw [validate, ofText_parsed parses, checked, found]
  rfl

theorem eq_of_deepest (found : deepest? (wrongCalls 0 formula) = some other)
    (leads : (closings 0 formula).head? = some first)
    (most : ∀ call ∈ wrongCalls 0 formula, call.depth ≤ first.depth) : other = first := by
  obtain ⟨deepest, heads⟩ := deepest?_eq_some found
  have member : first ∈ wrongCalls 0 formula :=
    (closings_perm 0 formula).mem_iff.1 (List.mem_of_head? leads)
  have level : other.depth = first.depth :=
    le_antisymm (most other (deepest_mem found)) (deepest first member)
  rw [level, ← filter_closings] at heads
  obtain ⟨later, closes⟩ := List.head?_eq_some_iff.1 leads
  rw [closes, List.filter_cons_of_pos (by simp), List.head?_cons] at heads
  exact (Option.some.inj heads).symm

end Blaming

/-- Evaluation of a formula without references blames the wrong call that closes first. The check
blames a wrong call as well, and the same one just where no wrong call is nested more deeply than
that one. -/
theorem blamed_alike_iff {accessor : Option Accessor} {chain : Chain} {allowance : Allowance}
    {text : String} {formula : Formula} {fault : Fault} (parses : Parses text formula)
    (plain : mentions text = [])
    (failed : evaluateWithin accessor chain allowance text = .error fault)
    (wrong : fault.code = "function_error") :
    ∃ first other, (closings 0 formula).head? = some first ∧ fault = .formula first.error ∧
      validate text = .error other ∧ other.code = fault.code ∧
      ((other.message = fault.message ∧ other.position = fault.position) ↔
        ∀ call ∈ wrongCalls 0 formula, call.depth ≤ first.depth) := by
  rw [mentions_parsed parses] at plain
  have shallow : evaluateWithin accessor chain allowance text ≠ .error .nestedTooDeeply := by
    rw [failed]
    rintro ⟨⟩
    exact absurd wrong (by decide)
  rw [evaluateWithin_unlimited shallow, evaluateWithin_parsed accessor chain parses] at failed
  obtain ⟨first, leads, rfl⟩ := head?_closings 0 plain failed wrong
  have member : first ∈ wrongCalls 0 formula :=
    (closings_perm 0 formula).mem_iff.1 (List.mem_of_head? leads)
  obtain ⟨other, found⟩ : ∃ other, deepest? (wrongCalls 0 formula) = some other :=
    Option.ne_none_iff_exists'.1 fun none_wrong =>
      List.ne_nil_of_mem member (deepest_eq_none_iff.1 none_wrong)
  refine ⟨first, .formula other.error, leads, rfl, validate_wrong parses found,
    (wrongCalls_code (deepest_mem found)).trans wrong.symm, ?_, fun most => ?_⟩
  · rintro ⟨_, place⟩
    have distinct := (leaves_increasing parses).sublist (places_sublist 0 formula)
    obtain rfl := List.inj_on_of_nodup_map distinct (deepest_mem found) member place
    exact (deepest?_eq_some found).1
  · rw [eq_of_deepest found leads most]
    exact ⟨rfl, rfl⟩

theorem blamed_alike_iff_nested :
    let chain := Chain.start none 64 (by decide)
    let fault := Fault.formula ((Cause.wrongArity "mmax" (.atLeast 1)).at 4)
    evaluateWithin none chain Allowance.standard "max(mmax()) + min(1)" = .error fault ∧
      fault.code = "function_error" ∧
      ∃ other, validate "max(mmax()) + min(1)" = .error other ∧
        other.message = fault.message ∧ other.position = fault.position := by
  intro chain fault
  have visible : Token.bodyStart "max(mmax()) + min(1)" < "max(mmax()) + min(1)".length := by cbv
  have lexed : Token.tokenize "max(mmax()) + min(1)" (Token.bodyStart "max(mmax()) + min(1)") =
      .ok [⟨.function, "max", 0⟩, ⟨.leftParen, "(", 3⟩, ⟨.function, "mmax", 4⟩,
        ⟨.leftParen, "(", 8⟩, ⟨.rightParen, ")", 9⟩, ⟨.rightParen, ")", 10⟩, ⟨.plus, "+", 12⟩,
        ⟨.function, "min", 14⟩, ⟨.leftParen, "(", 17⟩, ⟨.number, "1", 18⟩,
        ⟨.rightParen, ")", 19⟩, ⟨.endOfInput, "", 20⟩] := by cbv
  have parses : Parses "max(mmax()) + min(1)"
      (.binary .add 12 (.call "max" 0 [.call "mmax" 4 []]) (.call "min" 14 [.number "1" 18])) :=
    ⟨visible, _, lexed, rfl⟩
  have failed : evaluateWithin none chain Allowance.standard "max(mmax()) + min(1)" =
      .error fault := by
    rw [evaluateWithin_lexed _ _ _ visible lexed]
    simp only [evaluateTokens_eq, Bare.comparison_eq, Bare.sum_eq, Bare.product_eq,
      Bare.factor_cons, Bare.expect_cons, Bare.argumentList_cons, if_true, ok_bind]
    rfl
  have plain : mentions "max(mmax()) + min(1)" = [] := by cbv
  have code : fault.code = "function_error" := rfl
  obtain ⟨first, other, leads, _, invalid, _, alike⟩ := blamed_alike_iff parses plain failed code
  refine ⟨failed, code, other, invalid, alike.2 ?_⟩
  obtain rfl : first = ⟨2, (Cause.wrongArity "mmax" (.atLeast 1)).at 4⟩ :=
    (Option.some.inj leads).symm
  decide

/-- A wrong call that closes later and is nested more deeply is blamed by the check alone. -/
theorem blamed_apart :
    ¬ ∀ (text : String) (formula : Formula) (fault : Fault), Parses text formula →
      mentions text = [] →
      evaluateWithin none (Chain.start none Chain.defaultDepth (by decide)) Allowance.standard
        text = .error fault →
      fault.code = "function_error" →
      ∃ other, validate text = .error other ∧ other.message = fault.message ∧
        other.position = fault.position ∧ other.code = fault.code := by
  intro alike
  have visible : Token.bodyStart "max() + 1 * max()" < "max() + 1 * max()".length := by cbv
  have lexed : Token.tokenize "max() + 1 * max()" (Token.bodyStart "max() + 1 * max()") =
      .ok [⟨.function, "max", 0⟩, ⟨.leftParen, "(", 3⟩, ⟨.rightParen, ")", 4⟩, ⟨.plus, "+", 6⟩,
        ⟨.number, "1", 8⟩, ⟨.multiply, "*", 10⟩, ⟨.function, "max", 12⟩, ⟨.leftParen, "(", 15⟩,
        ⟨.rightParen, ")", 16⟩, ⟨.endOfInput, "", 17⟩] := by cbv
  have parses : Parses "max() + 1 * max()"
      (.binary .add 6 (.call "max" 0 []) (.binary .multiply 10 (.number "1" 8)
        (.call "max" 12 []))) :=
    ⟨visible, _, lexed, rfl⟩
  have plain : mentions "max() + 1 * max()" = [] := by cbv
  have failed : evaluateWithin none (Chain.start none Chain.defaultDepth (by decide))
      Allowance.standard "max() + 1 * max()" =
        .error (.formula ((Cause.wrongArity "max" (.exactly 2)).at 0)) := by
    rw [evaluateWithin_lexed _ _ _ visible lexed]
    simp only [evaluateTokens_eq, Bare.comparison_eq, Bare.sum_eq, Bare.product_eq,
      Bare.factor_cons, Bare.expect_cons, Bare.argumentList_cons, if_true, ok_bind]
    rfl
  have refused : validate "max() + 1 * max()" =
      .error (.formula ((Cause.wrongArity "max" (.exactly 2)).at 12)) :=
    validate_wrong parses rfl
  obtain ⟨other, invalid, _, place, _⟩ := alike _ _ _ parses plain failed rfl
  obtain rfl := Except.error.inj (refused.symm.trans invalid)
  exact absurd place (by decide)

end Evaluation

end FormulaGrid
