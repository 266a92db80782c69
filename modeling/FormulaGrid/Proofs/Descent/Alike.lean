import FormulaGrid.Proofs.Descent.Basic
import Mathlib.Data.List.Forall2

/-! Two descents over tokens that agree in kinds and lexemes. They come to the same as long as their
references do, except that the first one may be lost on the way. What counts as lost, and which
faults count as the same, depends on what is compared. The tokens may part: where the first descent
follows a reference the second one may read brackets in its place, and where the first one comes to
its end the second one may come to a closing bracket. Where both come to their end they stop. -/
namespace FormulaGrid.Evaluation

open FormulaGrid.Failure

section Comparing

variable {α β γ δ : Type} {lost : Fault → Prop} {faults : Fault → Fault → Prop}
  {results : α → β → Prop} {others : γ → δ → Prop}

/-- How two computations compare: the first one is lost, or both fail alike, or both have results
that are alike. -/
inductive Alike (lost : Fault → Prop) (faults : Fault → Fault → Prop) (results : α → β → Prop) :
    Except Fault α → Except Fault β → Prop
  | lost (fault : Fault) (gone : lost fault) (second : Except Fault β) :
      Alike lost faults results (.error fault) second
  | failed (first second : Fault) (same : faults first second) :
      Alike lost faults results (.error first) (.error second)
  | done (a : α) (b : β) (same : results a b) : Alike lost faults results (.ok a) (.ok b)

theorem Alike.bind {first : Except Fault α} {second : Except Fault β} {f : α → Except Fault γ}
    {g : β → Except Fault δ} (alike : Alike lost faults results first second)
    (next : ∀ a b, first = .ok a → results a b → Alike lost faults others (f a) (g b)) :
    Alike lost faults others (first >>= f) (second >>= g) := by
  cases alike with
  | lost fault gone second => exact .lost fault gone _
  | failed fault fault' same => exact .failed fault fault' same
  | done a b same => exact next a b rfl same

theorem Alike.refl {first : Except Fault α} (same : ∀ fault, faults fault fault) :
    Alike lost faults Eq first first := by
  cases first with
  | error fault => exact .failed fault fault (same fault)
  | ok a => exact .done a a rfl

theorem Alike.imp {weaker : α → β → Prop} {first : Except Fault α} {second : Except Fault β}
    (alike : Alike lost faults results first second) (weakens : ∀ a b, results a b → weaker a b) :
    Alike lost faults weaker first second := by
  cases alike with
  | lost fault gone second => exact .lost fault gone second
  | failed fault fault' same => exact .failed fault fault' same
  | done a b same => exact .done a b (weakens a b same)

theorem Alike.mapError {first : Except Fault α} {second : Except Fault β} {f : Fault → Fault}
    (alike : Alike lost faults results first second) (keeps : ∀ fault, lost fault → lost (f fault))
    (maps : ∀ a b, faults a b → faults (f a) (f b)) :
    Alike lost faults results (first.mapError f) (second.mapError f) := by
  cases alike with
  | lost fault gone second => exact .lost _ (keeps fault gone) _
  | failed fault fault' same => exact .failed _ _ (maps fault fault' same)
  | done a b same => exact .done a b same

theorem Alike.result {first second : Except Fault α} {a : α}
    (alike : Alike lost faults Eq first second) (done : first = .ok a) : second = .ok a := by
  cases alike with
  | lost | failed => cases done
  | done b c same => rw [← done, same]

theorem Alike.eq_or_lost {first second : Except Fault α} (alike : Alike lost Eq Eq first second) :
    first = second ∨ ∃ fault, first = .error fault ∧ lost fault := by
  cases alike with
  | lost fault gone => exact .inr ⟨fault, rfl, gone⟩
  | failed fault fault' same => exact .inl (congrArg Except.error same)
  | done b c same => exact .inl (congrArg Except.ok same)

theorem Alike.eq {first second : Except Fault α} (alike : Alike (fun _ => False) Eq Eq first second) :
    first = second := by
  rcases alike.eq_or_lost with same | ⟨_, _, gone⟩
  · exact same
  · exact absurd gone id

theorem Alike.result_or_lost {first second : Except Fault α} {a : α}
    (alike : Alike lost faults Eq first second) (done : second = .ok a) :
    first = .ok a ∨ ∃ fault, first = .error fault ∧ lost fault := by
  cases alike with
  | lost fault gone => exact .inr ⟨fault, rfl, gone⟩
  | failed => cases done
  | done b c same => exact .inl (by rw [same, done])

theorem alike_of_results {first second : Except Fault α} (every : ∀ a b, faults a b)
    (keeps : ∀ a, first = .ok a → second = .ok a)
    (loses : ∀ a, second = .ok a → first = .ok a ∨ ∃ fault, first = .error fault ∧ lost fault) :
    Alike lost faults Eq first second := by
  cases first with
  | ok a =>
    rw [keeps a rfl]
    exact .done a a rfl
  | error fault =>
    cases second with
    | error other => exact .failed fault other (every fault other)
    | ok b =>
      rcases loses b rfl with same | ⟨other, same, gone⟩
      · cases same
      · cases same
        exact .lost fault gone _

end Comparing

/-- How the tokens of two descents may go on where they are no longer alike. -/
inductive Parting (lost : Fault → Prop) (faults : Fault → Fault → Prop) :
    List Token → List Token → Prop
  | nothing (unexpected : faults (.formula (.unexpected (Token.finish 0)))
        (.formula (.unexpected (Token.finish 0))))
      (expected : ∀ kind, faults (.formula (.expected kind (Token.finish 0)))
        (.formula (.expected kind (Token.finish 0)))) : Parting lost faults [] []
  | ends (mark closing : Token) (rest others : List Token) (ended : mark.kind = .endOfInput)
      (closes : closing.kind = .rightParen) (unexpected : lost (.formula (.unexpected mark)))
      (expected : ∀ kind, lost (.formula (.expected kind mark))) :
      Parting lost faults (mark :: rest) (closing :: others)
  | finished (mark mark' : Token) (rest others : List Token) (ended : mark.kind = .endOfInput)
      (ended' : mark'.kind = .endOfInput)
      (unexpected : faults (.formula (.unexpected mark)) (.formula (.unexpected mark')))
      (expected : ∀ kind, faults (.formula (.expected kind mark)) (.formula (.expected kind mark'))) :
      Parting lost faults (mark :: rest) (mark' :: others)
  | brackets (reference opening : Token) (rest others : List Token)
      (refers : reference.kind = .cellReference) (opens : opening.kind = .leftParen)
      (unexpected : lost (.formula (.unexpected reference)))
      (expected : ∀ kind, lost (.formula (.expected kind reference))) :
      Parting lost faults (reference :: rest) (opening :: others)

/-- Whether a cause lies in a formula itself and not in what its references stand for. -/
def Own (cause : Cause) : Prop :=
  cause.code = "function_error" ∨ cause.code = "division_by_zero"

/-- What two descents have in common. -/
structure Likeness where
  lost : Fault → Prop
  faults : Fault → Fault → Prop
  allowances : Allowance → Allowance → Prop
  tokens : Token → Token → Prop
  parts : List Token → List Token → Prop
  kind {t u : Token} (same : tokens t u) : t.kind = u.kind
  lexeme {t u : Token} (same : tokens t u) : t.lexeme = u.lexeme
  unexpected {t u : Token} (same : tokens t u) :
    faults (.formula (.unexpected t)) (.formula (.unexpected u))
  expected {t u : Token} (same : tokens t u) (kind : TokenKind) :
    faults (.formula (.expected kind t)) (.formula (.expected kind u))
  placed {t u : Token} (same : tokens t u) {cause : Cause} (own : Own cause) :
    faults (.formula (cause.at t.position)) (.formula (cause.at u.position))
  numeric {s t : Decimal.Signal} (same : s = t) : faults (.numeric s) (.numeric t)
  spend {a b : Allowance} (same : allowances a b) (share : Nat) :
    Alike lost faults allowances (a.spend share) (b.spend share)
  parting {tokens others : List Token} (parted : parts tokens others) :
    Parting lost faults tokens others

section Steps

variable (likeness : Likeness) {t u : Token}

theorem apply_alike (same : likeness.tokens t u) (operator : Operator) (left right : Value) :
    Alike likeness.lost likeness.faults Eq (operator.apply t.position left right)
      (operator.apply u.position left right) := by
  have numeric {α β : Type} (result : Except Decimal.Signal α) (f : α → β) :
      Alike likeness.lost likeness.faults Eq ((result.mapError Fault.numeric).map f)
        ((result.mapError Fault.numeric).map f) := by
    cases result with
    | error signal => exact .failed _ _ (likeness.numeric rfl)
    | ok a => exact .done _ _ rfl
  cases operator with
  | divide =>
    simp only [Operator.apply, Operator.quotient]
    cases right.toNumber.equal .zero with
    | error signal => exact .failed _ _ (likeness.numeric rfl)
    | ok isZero =>
      cases isZero with
      | true => exact .failed _ _ (likeness.placed same (.inr rfl))
      | false => exact numeric _ _
  | add | subtract | multiply | equal | less | greater => exact numeric _ _

theorem negate_alike (operand : Value) :
    Alike likeness.lost likeness.faults Eq (negate operand) (negate operand) := by
  unfold negate
  cases operand.toBoolean with
  | error signal => exact .failed _ _ (likeness.numeric rfl)
  | ok truth => exact .done _ _ rfl

theorem callFunction_alike (same : likeness.tokens t u) (arguments : List Value) :
    Alike likeness.lost likeness.faults Eq
      (callFunction t.lexeme arguments (some t.position))
      (callFunction u.lexeme arguments (some u.position)) := by
  rw [← likeness.lexeme same]
  unfold callFunction
  cases arity : checkArity t.lexeme arguments.length with
  | error cause => exact .failed _ _ (likeness.placed same (.inl (checkArity_error_code arity)))
  | ok function =>
    cases arguments with
    | nil => exact .failed _ _ (likeness.placed same (.inl rfl))
    | cons first others =>
      dsimp only
      cases function.apply first others with
      | error signal => exact .failed _ _ (likeness.numeric rfl)
      | ok value => exact .done _ _ rfl

end Steps

namespace Likeness

variable (likeness : Likeness)

/-- Tokens that are alike up to where they part. -/
inductive Lists : List Token → List Token → Prop
  | cons {t u : Token} {rest others : List Token} (same : likeness.tokens t u)
      (more : Lists rest others) : Lists (t :: rest) (u :: others)
  | apart {tokens others : List Token} (parted : likeness.parts tokens others) :
      Lists tokens others

def readings {α : Type} (first second : α × List Token) : Prop :=
  first.1 = second.1 ∧ likeness.Lists first.2 second.2

/-- Whether two rules come to the same on tokens that are alike, as long as there are not too
many. -/
def Agree {α : Type} (bound : Nat)
    (first second : Allowance → List Token → Except Fault (α × List Token)) : Prop :=
  ∀ tokens others a b, likeness.Lists tokens others → tokens.length < bound →
    likeness.allowances a b →
      Alike likeness.lost likeness.faults likeness.readings (first a tokens) (second b others)

/-- What two descents make of references that are alike, and of a reference and what stands in its
place. -/
structure Follows (first second : Allowance → Token → Outcome) : Prop where
  reference (a b : Allowance) (t u : Token) (refers : t.kind = .cellReference)
    (allowed : likeness.allowances a b) (same : likeness.tokens t u) :
    Alike likeness.lost likeness.faults Eq (first a t) (second b u)
  brackets (a b : Allowance) (reference : Token) (rest others : List Token)
    (refers : reference.kind = .cellReference) (allowed : likeness.allowances a b)
    (parted : likeness.parts (reference :: rest) others) :
    Alike likeness.lost likeness.faults likeness.readings (Bare.factor first a (reference :: rest))
      (Bare.factor second b others)

variable {likeness} {first second : Allowance → Token → Outcome} {bound : Nat}
  {tokens others : List Token}

theorem lists_of_forall₂ (alike : List.Forall₂ likeness.tokens tokens others)
    (ends : likeness.parts [] []) : likeness.Lists tokens others := by
  induction alike with
  | nil => exact .apart ends
  | cons same more ih => exact .cons same ih

theorem unsigned_of_parts (parted : likeness.parts tokens others) :
    tokens = [] ∧ others = [] ∨ ∃ t rest u more, tokens = t :: rest ∧ others = u :: more ∧
      ∀ kind, kind = t.kind ∨ kind = u.kind →
        kind.product? = none ∧ kind.sum? = none ∧ kind.comparison? = none := by
  cases likeness.parting parted with
  | nothing => exact .inl ⟨rfl, rfl⟩
  | ends mark closing rest others ended closes | finished mark closing rest others ended closes
  | brackets mark closing rest others ended closes =>
    refine .inr ⟨mark, rest, closing, others, rfl, rfl, ?_⟩
    rw [ended, closes]
    rintro kind (rfl | rfl) <;> decide

theorem repeated_alike (operator? : TokenKind → Option Operator)
    {operand operand' : List Token → Except Fault (Value × List Token)}
    {loop loop' : Value → List Token → Except Fault (Value × List Token)}
    (ends : ∀ v, loop v [] = .ok (v, [])) (ends' : ∀ v, loop' v [] = .ok (v, []))
    (steps : ∀ v sign rest, loop v (sign :: rest) =
      match operator? sign.kind with
      | none => .ok (v, sign :: rest)
      | some operator => operand rest >>= fun right =>
        operator.apply sign.position v right.1 >>= fun value => loop value right.2)
    (steps' : ∀ v sign rest, loop' v (sign :: rest) =
      match operator? sign.kind with
      | none => .ok (v, sign :: rest)
      | some operator => operand' rest >>= fun right =>
        operator.apply sign.position v right.1 >>= fun value => loop' value right.2)
    (unsigned : ∀ kind : TokenKind,
      kind.product? = none ∧ kind.sum? = none ∧ kind.comparison? = none → operator? kind = none)
    (shorter : ∀ tokens read, operand tokens = .ok read → read.2.length < tokens.length)
    (operands : ∀ tokens others, likeness.Lists tokens others → tokens.length < bound →
      Alike likeness.lost likeness.faults likeness.readings (operand tokens) (operand' others)) :
    ∀ tokens others v, likeness.Lists tokens others → tokens.length ≤ bound →
      Alike likeness.lost likeness.faults likeness.readings (loop v tokens) (loop' v others) := by
  intro tokens
  -- Each turn of the loop uses up tokens, so the induction is on how many there are.
  induction count : tokens.length using Nat.strongRecOn generalizing tokens with
  | ind length ih =>
    intro others v alike few
    cases alike with
    | @cons sign sign' rest rest' same more =>
      rw [List.length_cons] at count
      rw [steps, steps', likeness.kind same]
      cases operator? sign'.kind with
      | none => exact .done _ _ ⟨rfl, .cons same more⟩
      | some operator =>
        refine (operands rest rest' more (by omega)).bind fun right right' done readings => ?_
        obtain ⟨value, further⟩ := readings
        have left := shorter rest right done
        rw [value]
        refine (apply_alike likeness same operator v right'.1).bind fun w w' _ equal => ?_
        rw [equal]
        exact ih right.2.length (by omega) right.2 rfl right'.2 w' further (by omega)
    | apart parted =>
      rcases unsigned_of_parts parted with ⟨rfl, rfl⟩ | ⟨t, rest, u, more, rfl, rfl, plain⟩
      · rw [ends, ends']
        exact .done _ _ ⟨rfl, .apart parted⟩
      · rw [steps, steps', unsigned _ (plain _ (.inl rfl)), unsigned _ (plain _ (.inr rfl))]
        exact .done _ _ ⟨rfl, .apart parted⟩

theorem product_agree
    (factors : likeness.Agree bound (Bare.factor first) (Bare.factor second)) :
    likeness.Agree bound (Bare.product first) (Bare.product second) := by
  intro tokens others a b alike few allowed
  rw [Bare.product_eq, Bare.product_eq]
  refine (factors tokens others a b alike few allowed).bind fun read read' done readings => ?_
  obtain ⟨value, further⟩ := readings
  have left := bare_shorter done
  rw [value]
  exact repeated_alike TokenKind.product? (Bare.multipliers_nil first a)
    (Bare.multipliers_nil second b) (Bare.multipliers_cons first a)
    (Bare.multipliers_cons second b) (fun kind plain => plain.1)
    (fun tokens read done => bare_shorter done)
    (fun tokens others alike few => factors tokens others a b alike few allowed)
    read.2 read'.2 read'.1 further (by omega)

theorem sum_agree (factors : likeness.Agree bound (Bare.factor first) (Bare.factor second)) :
    likeness.Agree bound (Bare.sum first) (Bare.sum second) := by
  have products := product_agree factors
  intro tokens others a b alike few allowed
  rw [Bare.sum_eq, Bare.sum_eq]
  refine (products tokens others a b alike few allowed).bind fun read read' done readings => ?_
  obtain ⟨value, further⟩ := readings
  have left := bare_shorter done
  rw [value]
  exact repeated_alike TokenKind.sum? (Bare.addends_nil first a)
    (Bare.addends_nil second b) (Bare.addends_cons first a) (Bare.addends_cons second b)
    (fun kind plain => plain.2.1) (fun tokens read done => bare_shorter done)
    (fun tokens others alike few => products tokens others a b alike few allowed)
    read.2 read'.2 read'.1 further (by omega)

theorem comparison_agree
    (factors : likeness.Agree bound (Bare.factor first) (Bare.factor second)) :
    likeness.Agree bound (Bare.comparison first) (Bare.comparison second) := by
  have sums := sum_agree factors
  intro tokens others a b alike few allowed
  rw [Bare.comparison_eq, Bare.comparison_eq]
  refine (sums tokens others a b alike few allowed).bind fun left left' done readings => ?_
  obtain ⟨value, rest⟩ := left
  obtain ⟨value', rest'⟩ := left'
  obtain ⟨rfl, further⟩ := readings
  have left := bare_shorter done
  cases further with
  | @cons sign sign' rest rest' same more =>
    dsimp only at left ⊢
    rw [List.length_cons] at left
    rw [likeness.kind same]
    cases sign'.kind.comparison? with
    | none => exact .done _ _ ⟨rfl, .cons same more⟩
    | some operator =>
      refine (sums rest rest' a b more (by omega) allowed).bind fun right right' _ readings => ?_
      obtain ⟨value, further⟩ := readings
      rw [value]
      refine (apply_alike likeness same operator _ right'.1).bind fun w w' _ equal => ?_
      exact .done _ _ ⟨equal, further⟩
  | apart parted =>
    rcases unsigned_of_parts parted with ⟨rfl, rfl⟩ | ⟨t, rest, u, more, rfl, rfl, plain⟩
    · exact .done _ _ ⟨rfl, .apart parted⟩
    · obtain ⟨_, _, first_plain⟩ := plain _ (.inl rfl)
      obtain ⟨_, _, second_plain⟩ := plain _ (.inr rfl)
      simp only [first_plain, second_plain]
      exact .done _ _ ⟨rfl, .apart parted⟩

theorem moreArguments_agree
    (comparisons : likeness.Agree bound (Bare.comparison first) (Bare.comparison second)) :
    likeness.Agree bound (Bare.moreArguments first) (Bare.moreArguments second) := by
  intro tokens
  induction count : tokens.length using Nat.strongRecOn generalizing tokens with
  | ind length ih =>
    intro others a b alike few allowed
    cases alike with
    | @cons token token' rest rest' same more =>
      rw [List.length_cons] at count
      rw [Bare.moreArguments_cons, Bare.moreArguments_cons, likeness.kind same]
      split
      · refine (comparisons rest rest' a b more (by omega) allowed).bind
          fun next next' done readings => ?_
        obtain ⟨value, further⟩ := readings
        have left := bare_shorter done
        refine (ih next.2.length (by omega) next.2 rfl next'.2 a b further (by omega)
          allowed).bind fun all all' _ readings => ?_
        obtain ⟨values, further⟩ := readings
        rw [value, values]
        exact .done _ _ ⟨rfl, further⟩
      · split
        · exact .done _ _ ⟨rfl, more⟩
        · exact .failed _ _ (likeness.expected same _)
    | apart parted =>
      cases likeness.parting parted with
      | nothing _ expected =>
        rw [Bare.moreArguments_nil, Bare.moreArguments_nil]
        exact .failed _ _ (expected _)
      | ends mark _ _ _ ended _ _ expected | brackets mark _ _ _ ended _ _ expected =>
        rw [Bare.moreArguments_cons, if_neg (by simp [ended]), if_neg (by simp [ended])]
        exact .lost _ (expected _) _
      | finished mark mark' _ _ ended ended' _ expected =>
        simp only [Bare.moreArguments_cons, ended, ended', reduceCtorEq, if_false]
        exact .failed _ _ (expected _)

theorem argumentList_agree
    (comparisons : likeness.Agree bound (Bare.comparison first) (Bare.comparison second)) :
    likeness.Agree bound (Bare.argumentList first) (Bare.argumentList second) := by
  intro tokens others a b alike few allowed
  have listed (lists : likeness.Lists tokens others) :
      Alike likeness.lost likeness.faults likeness.readings
        (Bare.comparison first a tokens >>= fun head =>
          Bare.moreArguments first a head.2 >>= fun all => .ok (head.1 :: all.1, all.2))
        (Bare.comparison second b others >>= fun head =>
          Bare.moreArguments second b head.2 >>= fun all => .ok (head.1 :: all.1, all.2)) := by
    refine (comparisons _ _ a b lists few allowed).bind fun head head' done readings => ?_
    obtain ⟨value, further⟩ := readings
    have left := bare_shorter done
    refine (moreArguments_agree comparisons _ _ a b further (by omega) allowed).bind
      fun all all' _ readings => ?_
    obtain ⟨values, further⟩ := readings
    rw [value, values]
    exact .done _ _ ⟨rfl, further⟩
  cases alike with
  | @cons token token' rest rest' same more =>
    rw [Bare.argumentList_cons, Bare.argumentList_cons, likeness.kind same]
    split
    · exact .done _ _ ⟨rfl, more⟩
    · exact listed (.cons same more)
  | apart parted =>
    cases likeness.parting parted with
    | nothing =>
      rw [Bare.argumentList_nil, Bare.argumentList_nil]
      refine (comparisons [] [] a b (.apart parted) few allowed).bind
        fun only only' _ readings => ?_
      rw [readings.1]
      exact .done _ _ ⟨rfl, .apart parted⟩
    | ends mark closing rest others ended closes unexpected =>
      simp only [Bare.argumentList_cons, ended, reduceCtorEq, if_false, Bare.comparison_eq,
        Bare.sum_eq, Bare.product_eq, Bare.factor_cons, error_bind]
      exact .lost _ unexpected _
    | finished mark mark' rest others refers opens
    | brackets reference opening rest others refers opens =>
      rw [Bare.argumentList_cons, Bare.argumentList_cons, if_neg (by simp [refers]),
        if_neg (by simp [opens])]
      exact listed (.apart parted)

theorem expect_alike {kind : TokenKind} (bracket : kind = .leftParen ∨ kind = .rightParen)
    (alike : likeness.Lists tokens others) :
    Alike likeness.lost likeness.faults
      (fun read read' => likeness.Lists read.2 read'.2 ∧ read.2.length < tokens.length)
      (Bare.expect kind tokens) (Bare.expect kind others) := by
  cases alike with
  | @cons token token' rest rest' same more =>
    rw [Bare.expect_cons, Bare.expect_cons, likeness.kind same]
    split
    · exact .done _ _ ⟨more, Nat.lt_succ_self _⟩
    · exact .failed _ _ (likeness.expected same _)
  | apart parted =>
    cases likeness.parting parted with
    | nothing _ expected =>
      rw [Bare.expect_nil]
      exact .failed _ _ (expected _)
    | ends mark _ _ _ ended _ _ expected | brackets mark _ _ _ ended _ _ expected =>
      have other : mark.kind ≠ kind := by
        rcases bracket with rfl | rfl <;> simp [ended]
      rw [Bare.expect_cons, if_neg other]
      exact .lost _ (expected _) _
    | finished mark mark' _ _ ended ended' _ expected =>
      have other : kind ≠ .endOfInput := by
        rcases bracket with rfl | rfl <;> decide
      rw [Bare.expect_cons, Bare.expect_cons, ended, ended', if_neg other.symm, if_neg other.symm]
      exact .failed _ _ (expected _)

/-- The rules of two descents come to the same on tokens that are alike if references do. -/
theorem factor_agree (bound : Nat) (follows : likeness.Follows first second) :
    likeness.Agree bound (Bare.factor first) (Bare.factor second) := by
  -- What a factor holds has fewer tokens than the factor, so one bound leads to the next.
  induction bound with
  | zero =>
    intro tokens others a b alike few
    exact absurd few (Nat.not_lt_zero _)
  | succ bound ih =>
    have comparisons := comparison_agree ih
    intro tokens others a b alike few allowed
    cases alike with
    | @cons token token' rest rest' same more =>
      rw [List.length_cons] at few
      rw [Bare.factor_cons, Bare.factor_cons, likeness.kind same]
      cases kind : token'.kind with
      | number => exact .done _ _ ⟨by rw [likeness.lexeme same], more⟩
      | cellReference =>
        have refers := (likeness.kind same).trans kind
        refine (follows.reference a b token token' refers allowed same).bind
          fun v v' _ equal => ?_
        exact .done _ _ ⟨equal, more⟩
      | function =>
        refine (expect_alike (.inl rfl) more).bind fun opened opened' _ read => ?_
        refine (likeness.spend allowed Allowance.call).bind fun c d _ allowed => ?_
        refine (argumentList_agree comparisons _ _ c d read.1 (by omega) allowed).bind
          fun arguments arguments' _ readings => ?_
        rw [readings.1]
        refine (callFunction_alike likeness same _).bind fun v v' _ equal => ?_
        exact .done _ _ ⟨equal, readings.2⟩
      | not =>
        refine (likeness.spend allowed Allowance.negation).bind fun c d _ allowed => ?_
        refine (ih rest rest' c d more (by omega) allowed).bind
          fun operand operand' _ readings => ?_
        rw [readings.1]
        refine (negate_alike likeness _).bind fun v v' _ equal => ?_
        exact .done _ _ ⟨equal, readings.2⟩
      | leftParen =>
        refine (likeness.spend allowed Allowance.bracket).bind fun c d _ allowed => ?_
        refine (comparisons rest rest' c d more (by omega) allowed).bind
          fun inner inner' _ readings => ?_
        refine (expect_alike (.inr rfl) readings.2).bind fun closed closed' _ read => ?_
        exact .done _ _ ⟨readings.1, read.1⟩
      | _ => exact .failed _ _ (likeness.unexpected same)
    | apart parted =>
      cases likeness.parting parted with
      | nothing unexpected =>
        rw [Bare.factor_nil, Bare.factor_nil]
        exact .failed _ _ unexpected
      | ends mark closing rest others ended closes unexpected =>
        rw [Bare.factor_cons, ended]
        exact .lost _ unexpected _
      | finished mark mark' rest others ended ended' unexpected =>
        rw [Bare.factor_cons, Bare.factor_cons, ended, ended']
        exact .failed _ _ unexpected
      | brackets reference opening rest others refers opens =>
        exact follows.brackets a b reference rest _ refers allowed parted

end Likeness

section Tokens

variable (likeness : Likeness) {first second : Allowance → Token → Outcome}
  {tokens others : List Token} {a b : Allowance}

theorem comparison_alike (alike : likeness.Lists tokens others) (allowed : likeness.allowances a b)
    (follows : likeness.Follows first second) :
    Alike likeness.lost likeness.faults likeness.readings (Bare.comparison first a tokens)
      (Bare.comparison second b others) :=
  Likeness.comparison_agree (likeness.factor_agree (tokens.length + 1) follows) tokens others a b
    alike (Nat.lt_succ_self _) allowed

theorem evaluateTokens_alike (alike : likeness.Lists tokens others)
    (allowed : likeness.allowances a b) (follows : likeness.Follows first second)
    (inside : ∀ mark rest others, likeness.parts (mark :: rest) others →
      mark.kind = .endOfInput → ∀ closing ∈ others.head?, closing.kind ≠ .rightParen) :
    Alike likeness.lost likeness.faults Eq (evaluateTokens first a tokens)
      (evaluateTokens second b others) := by
  rw [evaluateTokens_eq, evaluateTokens_eq]
  refine (comparison_alike likeness alike allowed follows).bind fun read read' _ readings => ?_
  obtain ⟨value, rest⟩ := read
  obtain ⟨value', rest'⟩ := read'
  obtain ⟨rfl, further⟩ := readings
  dsimp only
  cases further with
  | @cons next next' rest rest' same more =>
    rw [current, current, likeness.kind same]
    split
    · exact .done _ _ rfl
    · exact .failed _ _ (likeness.unexpected same)
  | apart parted =>
    cases likeness.parting parted with
    | nothing => exact .done _ _ rfl
    | ends mark closing rest others ended closes =>
      exact absurd closes (inside mark rest _ parted ended closing rfl)
    | finished mark mark' rest others ended ended' =>
      rw [current, current, if_pos ended, if_pos ended']
      exact .done _ _ rfl
    | brackets reference opening rest others refers opens unexpected =>
      rw [current, if_neg (by simp [refers])]
      exact .lost _ unexpected _

end Tokens

end FormulaGrid.Evaluation
