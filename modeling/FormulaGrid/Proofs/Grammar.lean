import FormulaGrid.Formula.Basic

/-! The grammar of formulas as a relation between tokens and trees, apart from any way of reading
them. A comparison is a sum, or two sums with a comparison sign between them; a sum is made of
products from left to right, a product of factors. -/
namespace FormulaGrid.Grammar

/-- What tokens can stand for, with its tree. Arguments are comparisons with commas between. -/
inductive Phrase where
  | factor (formula : Formula)
  | product (formula : Formula)
  | sum (formula : Formula)
  | comparison (formula : Formula)
  | arguments (formulas : List Formula)

/-- The tokens of a phrase. Only the order and the kinds of the tokens decide whether they form
one. -/
inductive Derives : Phrase → List Token → Prop
  | number (token : Token) (kind : token.kind = .number) :
      Derives (.factor (.number token.lexeme token.position)) [token]
  | reference (token : Token) (kind : token.kind = .cellReference) :
      Derives (.factor (.reference token.lexeme token.position)) [token]
  | emptyCall (name opening closing : Token) (function : name.kind = .function)
      (opens : opening.kind = .leftParen) (closes : closing.kind = .rightParen) :
      Derives (.factor (.call name.lexeme name.position [])) [name, opening, closing]
  | call (name opening closing : Token) (arguments : List Formula) (tokens : List Token)
      (function : name.kind = .function) (opens : opening.kind = .leftParen)
      (closes : closing.kind = .rightParen) (inner : Derives (.arguments arguments) tokens) :
      Derives (.factor (.call name.lexeme name.position arguments))
        (name :: opening :: (tokens ++ [closing]))
  | negation (sign : Token) (operand : Formula) (tokens : List Token) (negates : sign.kind = .not)
      (inner : Derives (.factor operand) tokens) :
      Derives (.factor (.negation sign.position operand)) (sign :: tokens)
  | group (opening closing : Token) (formula : Formula) (tokens : List Token)
      (opens : opening.kind = .leftParen) (closes : closing.kind = .rightParen)
      (inner : Derives (.comparison formula) tokens) :
      Derives (.factor formula) (opening :: (tokens ++ [closing]))
  | ofFactor (formula : Formula) (tokens : List Token) (inner : Derives (.factor formula) tokens) :
      Derives (.product formula) tokens
  | multiply (left right : Formula) (before after : List Token) (sign : Token) (operator : Operator)
      (signed : sign.kind.product? = some operator) (first : Derives (.product left) before)
      (second : Derives (.factor right) after) :
      Derives (.product (.binary operator sign.position left right)) (before ++ sign :: after)
  | ofProduct (formula : Formula) (tokens : List Token)
      (inner : Derives (.product formula) tokens) : Derives (.sum formula) tokens
  | add (left right : Formula) (before after : List Token) (sign : Token) (operator : Operator)
      (signed : sign.kind.sum? = some operator) (first : Derives (.sum left) before)
      (second : Derives (.product right) after) :
      Derives (.sum (.binary operator sign.position left right)) (before ++ sign :: after)
  | ofSum (formula : Formula) (tokens : List Token) (inner : Derives (.sum formula) tokens) :
      Derives (.comparison formula) tokens
  | compare (left right : Formula) (before after : List Token) (sign : Token) (operator : Operator)
      (signed : sign.kind.comparison? = some operator) (first : Derives (.sum left) before)
      (second : Derives (.sum right) after) :
      Derives (.comparison (.binary operator sign.position left right)) (before ++ sign :: after)
  | lastArgument (formula : Formula) (tokens : List Token)
      (inner : Derives (.comparison formula) tokens) : Derives (.arguments [formula]) tokens
  | argument (formula : Formula) (others : List Formula) (before after : List Token)
      (comma : Token) (separates : comma.kind = .comma)
      (first : Derives (.comparison formula) before) (more : Derives (.arguments others) after) :
      Derives (.arguments (formula :: others)) (before ++ comma :: after)

def beginsPhrase : TokenKind → Bool
  | .number | .cellReference | .function | .not | .leftParen => true
  | _ => false

def Starts (tokens : List Token) : Prop :=
  ∃ token rest, tokens = token :: rest ∧ beginsPhrase token.kind

theorem Derives.starts {phrase : Phrase} {tokens : List Token} (derived : Derives phrase tokens) :
    Starts tokens := by
  induction derived with
  | number token kind => exact ⟨token, [], rfl, by rw [kind]; rfl⟩
  | reference token kind => exact ⟨token, [], rfl, by rw [kind]; rfl⟩
  | emptyCall name opening closing function => exact ⟨name, _, rfl, by rw [function]; rfl⟩
  | call name opening closing arguments tokens function =>
    exact ⟨name, _, rfl, by rw [function]; rfl⟩
  | negation sign operand tokens negates => exact ⟨sign, _, rfl, by rw [negates]; rfl⟩
  | group opening closing formula tokens opens => exact ⟨opening, _, rfl, by rw [opens]; rfl⟩
  | ofFactor _ _ _ ih | ofProduct _ _ _ ih | ofSum _ _ _ ih | lastArgument _ _ _ ih => exact ih
  | multiply _ _ _ _ _ _ _ _ _ ih | add _ _ _ _ _ _ _ _ _ ih | compare _ _ _ _ _ _ _ _ _ ih
  | argument _ _ _ _ _ _ _ _ ih =>
    obtain ⟨token, rest, rfl, kind⟩ := ih
    exact ⟨token, _, rfl, kind⟩

/-- Whether tokens form a formula. -/
def Sentence (tokens : List Token) : Prop :=
  ∃ formula, Derives (.comparison formula) tokens

def Complete (tokens : List Token) : Prop :=
  ∃ sentence mark, tokens = sentence ++ [mark] ∧ mark.kind = .endOfInput ∧ Sentence sentence

/-- Whether tokens can be completed to a formula with the mark of the end after it. -/
def Begins (tokens : List Token) : Prop :=
  ∃ rest, Complete (tokens ++ rest)

theorem Sentence.begins {tokens : List Token} (sentence : Sentence tokens) : Begins tokens :=
  ⟨[Token.finish 0], tokens, Token.finish 0, rfl, rfl, sentence⟩

end FormulaGrid.Grammar
