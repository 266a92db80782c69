import FormulaGrid.Proofs.Syntax

/-! The references that a text mentions, read off its tokens. They are the references of the text's
tree, in the same order, and the walk through the tree that collects them keeps this order. -/
namespace FormulaGrid

namespace Formula

section Walking

variable {formula : Formula} {formulas others stack : List Formula}

theorem referencesAmong_append :
    referencesAmong (formulas ++ others) = referencesAmong formulas ++ referencesAmong others := by
  induction formulas with
  | nil => rfl
  | cons formula formulas ih =>
    rw [List.cons_append, referencesAmong, referencesAmong, ih, List.append_assoc]

theorem note_eraseDups (names : List String) (name : String) (position : Nat) :
    note names.eraseDups (.reference name position) = (names ++ [name]).eraseDups := by
  rw [note, List.eraseDups_append]
  by_cases noted : name ∈ names
  · simp [noted, List.removeAll]
  · simp [noted, List.removeAll, List.eraseDups_cons]

theorem foldl_note (stack : List Formula) (names : List String) :
    (subformulas stack).foldl note names.eraseDups =
      (names ++ referencesAmong stack).eraseDups := by
  fun_induction subformulas stack generalizing names with
  | case1 => simp [referencesAmong]
  | case2 formula stack ih =>
    rw [List.foldl_cons]
    rw [referencesAmong_append] at ih
    cases formula with
    | reference name position =>
      rw [note_eraseDups, ih, List.append_assoc]
      rfl
    | number | call => exact ih names
    | negation | binary =>
      refine (ih names).trans ?_
      simp [parts, referencesAmong, references]

theorem referencesOf_eq (text : String) :
    referencesOf text =
      (ofText? text).map fun tree => tree.elim [] fun formula => formula.references.eraseDups := by
  have walked (formula : Formula) :
      (subformulas [formula]).foldl note [] = formula.references.eraseDups := by
    refine (foldl_note [formula] []).trans ?_
    simp [referencesAmong]
  rw [referencesOf]
  cases ofText? text with
  | error error => rfl
  | ok tree =>
    cases tree with
    | none => rfl
    | some formula => exact congrArg Except.ok (walked formula)

end Walking

end Formula

namespace Grammar

open FormulaGrid.Formula

def mentioned (tokens : List Token) : List String :=
  (tokens.filter fun token => token.kind = .cellReference).map Token.lexeme

/-- The references that a text mentions. A text that has no tokens mentions none. -/
def mentions (text : String) : List String :=
  match Token.tokenize text (Token.bodyStart text) with
  | .error _ => []
  | .ok tokens => mentioned tokens

theorem mem_mentions_iff {text name : String} {tokens : List Token}
    (lexed : Token.tokenize text (Token.bodyStart text) = .ok tokens) :
    name ∈ mentions text ↔
      ∃ token ∈ tokens, token.kind = .cellReference ∧ token.lexeme = name := by
  simp only [mentions, lexed, mentioned, List.mem_map, List.mem_filter, decide_eq_true_eq,
    and_assoc]

theorem lexeme_mem_mentions {text : String} {tokens : List Token} {token : Token}
    (lexed : Token.tokenize text (Token.bodyStart text) = .ok tokens) (member : token ∈ tokens)
    (refers : token.kind = .cellReference) : token.lexeme ∈ mentions text :=
  (mem_mentions_iff lexed).2 ⟨token, member, refers, rfl⟩

def Phrase.references : Phrase → List String
  | .factor formula | .product formula | .sum formula | .comparison formula => formula.references
  | .arguments formulas => referencesAmong formulas

theorem mentioned_append (before after : List Token) :
    mentioned (before ++ after) = mentioned before ++ mentioned after := by
  rw [mentioned, List.filter_append, List.map_append]
  rfl

theorem mentioned_cons {token : Token} (other : token.kind ≠ .cellReference)
    (tokens : List Token) : mentioned (token :: tokens) = mentioned tokens := by
  rw [mentioned, List.filter_cons_of_neg (by simpa using other)]
  rfl

theorem mentioned_reference {token : Token} (refers : token.kind = .cellReference)
    (tokens : List Token) : mentioned (token :: tokens) = token.lexeme :: mentioned tokens := by
  rw [mentioned, List.filter_cons_of_pos (by simpa using refers)]
  rfl

section Signs

variable {kind : TokenKind} {operator : Operator}

theorem ne_reference_of_product (signed : kind.product? = some operator) :
    kind ≠ .cellReference := by
  rintro rfl
  cases signed

theorem ne_reference_of_sum (signed : kind.sum? = some operator) : kind ≠ .cellReference := by
  rintro rfl
  cases signed

theorem ne_reference_of_comparison (signed : kind.comparison? = some operator) :
    kind ≠ .cellReference := by
  rintro rfl
  cases signed

end Signs

theorem mentioned_derives {phrase : Phrase} {tokens : List Token}
    (derived : Derives phrase tokens) : mentioned tokens = phrase.references := by
  induction derived with
  | number token kind => simp [mentioned, kind, Phrase.references, references]
  | reference token kind => simp [mentioned, kind, Phrase.references, references]
  | emptyCall name opening closing function opens closes =>
    simp [mentioned, function, opens, closes, Phrase.references, references, referencesAmong]
  | call name opening closing arguments tokens function opens closes inner ih =>
    rw [mentioned_cons (by simp [function]), mentioned_cons (by simp [opens]), mentioned_append,
      ih, mentioned_cons (by simp [closes])]
    simp [mentioned, Phrase.references, references]
  | negation sign operand tokens negates inner ih =>
    rw [mentioned_cons (by simp [negates]), ih]
    rfl
  | group opening closing formula tokens opens closes inner ih =>
    rw [mentioned_cons (by simp [opens]), mentioned_append, ih, mentioned_cons (by simp [closes])]
    simp [mentioned, Phrase.references]
  | ofFactor _ _ _ ih | ofProduct _ _ _ ih | ofSum _ _ _ ih => exact ih
  | multiply left right before after sign operator signed first second ihl ihr =>
    rw [mentioned_append, mentioned_cons (ne_reference_of_product signed), ihl, ihr]
    rfl
  | add left right before after sign operator signed first second ihl ihr =>
    rw [mentioned_append, mentioned_cons (ne_reference_of_sum signed), ihl, ihr]
    rfl
  | compare left right before after sign operator signed first second ihl ihr =>
    rw [mentioned_append, mentioned_cons (ne_reference_of_comparison signed), ihl, ihr]
    rfl
  | lastArgument formula tokens inner ih =>
    rw [ih]
    simp [Phrase.references, referencesAmong]
  | argument formula others before after comma separates first more ihf ihm =>
    rw [mentioned_append, mentioned_cons (by simp [separates]), ihf, ihm]
    rfl

theorem mentions_parsed {text : String} {formula : Formula} (parses : Parses text formula) :
    mentions text = formula.references := by
  obtain ⟨_, tokens, lexed, read⟩ := parses
  obtain ⟨body, mark, rfl, ended, derived⟩ := (ofTokens_ok_iff (tokenize_marked lexed)).1 read
  have own : mentioned body = formula.references := mentioned_derives derived
  rw [mentions, lexed]
  dsimp only
  rw [mentioned_append, own, mentioned_cons (by simp [ended])]
  simp [mentioned]

theorem mentions_blank {text : String} (blank : text.length ≤ Token.bodyStart text) :
    mentions text = [] := by
  have nothing : text.toList.drop (Token.bodyStart text) = [] :=
    List.drop_eq_nil_of_le (by rwa [String.length_toList])
  rw [mentions, Token.tokenize, nothing, Token.scan.eq_def]
  rfl

end Grammar
end FormulaGrid
