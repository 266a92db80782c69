import FormulaGrid.Proofs.Agreement
import FormulaGrid.Proofs.Mention
import FormulaGrid.Proofs.Segmentation

/-! What a tree keeps of its text. Read from left to right its leaves are the tokens of the text
but for brackets, commas and the mark of the end, and the references are collected in this order. -/
namespace FormulaGrid

open FormulaGrid.Failure FormulaGrid.Grammar

namespace Formula

mutual
/-- The tokens at the leaves of a tree, from left to right. -/
def leaves : Formula → List Token
  | .number numeral position => [⟨.number, numeral, position⟩]
  | .reference name position => [⟨.cellReference, name, position⟩]
  | .call name position arguments => ⟨.function, name, position⟩ :: leavesAmong arguments
  | .negation position operand => ⟨.not, "not", position⟩ :: leaves operand
  | .binary operator position left right =>
    leaves left ++ ⟨operator.kind, operator.sign, position⟩ :: leaves right

def leavesAmong : List Formula → List Token
  | [] => []
  | formula :: formulas => leaves formula ++ leavesAmong formulas
end

end Formula

def TokenKind.isPunctuation : TokenKind → Bool
  | .leftParen | .rightParen | .comma | .endOfInput => true
  | _ => false

namespace Token

/-- The tokens that have their place in a tree. -/
def kept (tokens : List Token) : List Token :=
  tokens.filter fun token => !token.kind.isPunctuation

section Keeping

variable {token : Token} {tokens : List Token}

theorem kept_append (before after : List Token) :
    kept (before ++ after) = kept before ++ kept after :=
  List.filter_append ..

theorem kept_punctuation (left : token.kind.isPunctuation = true) (tokens : List Token) :
    kept (token :: tokens) = kept tokens :=
  List.filter_cons_of_neg (by simp [left])

theorem kept_cons (stays : token.kind.isPunctuation = false) (tokens : List Token) :
    kept (token :: tokens) = token :: kept tokens :=
  List.filter_cons_of_pos (by simp [stays])

end Keeping

section Spelling

variable {token : Token}

theorem Shaped.lexeme_not (shaped : token.Shaped) (negates : token.kind = .not) :
    token.lexeme = "not" := by
  rcases shaped with ⟨same, _⟩ | ⟨same, _⟩ | spelled | ⟨c, _, spelled⟩
  · cases negates.symm.trans same
  · cases negates.symm.trans same
  · exact (by decide : ∀ entry ∈ words, entry.2 = .not → entry.1 = "not") _ spelled negates
  · exact absurd negates ((by decide : ∀ entry ∈ signs, entry.2 ≠ .not) _ spelled)

theorem Shaped.lexeme_sign (shaped : token.Shaped) {operator : Operator}
    (signed : token.kind = operator.kind) : token.lexeme = operator.sign := by
  have spells : ∀ entry ∈ signs, entry.2 = operator.kind →
      String.ofList [entry.1] = operator.sign := by
    cases operator <;> decide
  have wordless : ∀ entry ∈ words, entry.2 ≠ operator.kind := by
    cases operator <;> decide
  rcases shaped with ⟨same, _⟩ | ⟨same, _⟩ | spelled | ⟨c, same, spelled⟩
  · have other := same.symm.trans signed
    cases operator <;> cases other
  · have other := same.symm.trans signed
    cases operator <;> cases other
  · exact absurd signed (wordless _ spelled)
  · exact same.trans (spells _ spelled signed)

end Spelling

end Token

namespace Grammar

open FormulaGrid.Formula FormulaGrid.Token

section Leaves

variable {token : Token} {kind : TokenKind} {operator : Operator}

theorem kind_of_product (signed : kind.product? = some operator) : kind = operator.kind := by
  unfold TokenKind.product? at signed
  split at signed <;> cases signed <;> rfl

theorem kind_of_sum (signed : kind.sum? = some operator) : kind = operator.kind := by
  unfold TokenKind.sum? at signed
  split at signed <;> cases signed <;> rfl

theorem kind_of_comparison (signed : kind.comparison? = some operator) : kind = operator.kind := by
  unfold TokenKind.comparison? at signed
  split at signed <;> cases signed <;> rfl

def Phrase.leaves : Phrase → List Token
  | .factor formula | .product formula | .sum formula | .comparison formula => formula.leaves
  | .arguments formulas => leavesAmong formulas

theorem kept_binary {before after first second : List Token} {sign : Token}
    (signed : sign.kind = operator.kind) (shaped : sign.Shaped) (left : kept before = first)
    (right : kept after = second) :
    kept (before ++ sign :: after) =
      first ++ ⟨operator.kind, operator.sign, sign.position⟩ :: second := by
  have stays : sign.kind.isPunctuation = false := by
    rw [signed]
    cases operator <;> rfl
  rw [kept_append, kept_cons stays, left, right, ← shaped.lexeme_sign signed, ← signed]

/-- The tokens of a phrase are the leaves of its tree, but for those that trees leave out. -/
theorem kept_derives {phrase : Phrase} {tokens : List Token} (derived : Derives phrase tokens)
    (shaped : ∀ token ∈ tokens, token.Shaped) : kept tokens = phrase.leaves := by
  have stays {token : Token} {kind : TokenKind} (same : token.kind = kind)
      (tree : kind.isPunctuation = false) (tokens : List Token) :
      kept (token :: tokens) = ⟨kind, token.lexeme, token.position⟩ :: kept tokens := by
    subst same
    exact kept_cons tree tokens
  have goes {token : Token} {kind : TokenKind} (same : token.kind = kind)
      (punctuation : kind.isPunctuation = true) (tokens : List Token) :
      kept (token :: tokens) = kept tokens := by
    subst same
    exact kept_punctuation punctuation tokens
  induction derived with
  | number token kind => exact stays kind rfl []
  | reference token kind => exact stays kind rfl []
  | emptyCall name opening closing function opens closes =>
    rw [stays function rfl, goes opens rfl, goes closes rfl]
    rfl
  | call name opening closing arguments tokens function opens closes inner ih =>
    simp only [List.forall_mem_cons, List.forall_mem_append] at shaped
    rw [stays function rfl, goes opens rfl, kept_append, goes closes rfl, ih shaped.2.2.1]
    exact congrArg _ (List.append_nil _)
  | negation sign operand tokens negates inner ih =>
    obtain ⟨first, rest⟩ := List.forall_mem_cons.1 shaped
    rw [stays negates rfl, ih rest, first.lexeme_not negates]
    rfl
  | group opening closing formula tokens opens closes inner ih =>
    simp only [List.forall_mem_cons, List.forall_mem_append] at shaped
    rw [goes opens rfl, kept_append, goes closes rfl, ih shaped.2.1]
    exact List.append_nil _
  | ofFactor _ _ _ ih | ofProduct _ _ _ ih | ofSum _ _ _ ih => exact ih shaped
  | multiply left right before after sign operator signed first second ihl ihr =>
    simp only [List.forall_mem_append, List.forall_mem_cons] at shaped
    exact kept_binary (kind_of_product signed) shaped.2.1 (ihl shaped.1) (ihr shaped.2.2)
  | add left right before after sign operator signed first second ihl ihr =>
    simp only [List.forall_mem_append, List.forall_mem_cons] at shaped
    exact kept_binary (kind_of_sum signed) shaped.2.1 (ihl shaped.1) (ihr shaped.2.2)
  | compare left right before after sign operator signed first second ihl ihr =>
    simp only [List.forall_mem_append, List.forall_mem_cons] at shaped
    exact kept_binary (kind_of_comparison signed) shaped.2.1 (ihl shaped.1) (ihr shaped.2.2)
  | lastArgument formula tokens inner ih =>
    rw [ih shaped]
    exact (List.append_nil _).symm
  | argument formula others before after comma separates first more ihf ihm =>
    simp only [List.forall_mem_append, List.forall_mem_cons] at shaped
    rw [kept_append, goes separates rfl, ihf shaped.1, ihm shaped.2.2]
    rfl

end Leaves

/-- The leaves of the tree of a text are its tokens, from the body on, without brackets, commas and
the mark of the end. Its references are collected in their order, each where it first comes. -/
theorem leaves_ofText (text : String) (formula : Formula)
    (parsed : ofText? text = .ok (some formula)) :
    ∃ tokens, tokenize text (bodyStart text) = .ok tokens ∧ formula.leaves = kept tokens ∧
      referencesOf text = .ok (mentioned tokens).eraseDups := by
  obtain ⟨parses, _⟩ := Evaluation.parses_of_ofText parsed
  have collected := mentions_parsed parses
  obtain ⟨visible, tokens, lexed, read⟩ := parses
  obtain ⟨body, rfl, covers, _⟩ := (tokenize_ok_iff_covers visible.le).1 lexed
  obtain ⟨others, mark, same, ended, derived⟩ := (ofTokens_ok_iff (tokenize_marked lexed)).1 read
  obtain ⟨rfl, _⟩ := List.append_inj' same rfl
  refine ⟨_, lexed, ?_, ?_⟩
  · rw [kept_append, kept_derives derived covers.shaped]
    exact (List.append_nil _).symm
  · rw [mentions, lexed] at collected
    rw [referencesOf_eq, parsed]
    exact congrArg (fun names => Except.ok names.eraseDups) collected.symm

theorem leaves_ofText_repeated :
    ∃ tokens, tokenize "=B2+max(A1,(B2))" 1 = .ok tokens ∧
      [⟨.cellReference, "B2", 1⟩, ⟨.plus, "+", 3⟩, ⟨.function, "max", 4⟩,
        ⟨.cellReference, "A1", 8⟩, ⟨.cellReference, "B2", 12⟩] = kept tokens ∧
      referencesOf "=B2+max(A1,(B2))" = .ok (mentioned tokens).eraseDups := by
  have parsed : ofText? "=B2+max(A1,(B2))" = .ok (some (.binary .add 3 (.reference "B2" 1)
      (.call "max" 4 [.reference "A1" 8, .reference "B2" 12]))) := by cbv
  exact leaves_ofText _ _ parsed

end Grammar

end FormulaGrid
