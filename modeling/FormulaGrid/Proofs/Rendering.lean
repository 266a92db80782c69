import FormulaGrid.Proofs.Body
import FormulaGrid.Proofs.Syntax
import FormulaGrid.Proofs.TreeValue

/-! Trees as texts. A tree is written with parentheses wherever it binds more weakly than its place
asks for, and with any others. However it is written, reading the text gives the tree back. -/
namespace FormulaGrid

open FormulaGrid.Text FormulaGrid.Token FormulaGrid.Grammar

/-- How tightly a tree binds, weakest first. -/
inductive Binding where
  | comparison
  | sum
  | product
  | factor

def Binding.strength : Binding → Nat
  | .comparison => 0
  | .sum => 1
  | .product => 2
  | .factor => 3

namespace Operator

def binding : Operator → Binding
  | .equal | .less | .greater => .comparison
  | .add | .subtract => .sum
  | .multiply | .divide => .product

/-- How tightly the left operand must bind: sums and products go on to the right, comparisons do
not. -/
def leftBinding : Operator → Binding
  | .equal | .less | .greater | .add | .subtract => .sum
  | .multiply | .divide => .product

/-- How tightly the right operand must bind, always more so than the operator. -/
def rightBinding : Operator → Binding
  | .equal | .less | .greater => .sum
  | .add | .subtract => .product
  | .multiply | .divide => .factor

end Operator

namespace Formula

mutual
/-- Whether the leaves are numerals and names of cells, and every call is one of a function with as
many arguments as it takes. -/
def Printable : Formula → Prop
  | .number numeral _ => numeral ≠ "" ∧ ∀ c ∈ numeral.toList, isAsciiDigit c
  | .reference name _ =>
    ∃ letters digits, name.toList = letters ++ digits ∧ letters ≠ [] ∧
      (∀ c ∈ letters, isAsciiUpper c) ∧ digits ≠ [] ∧ ∀ c ∈ digits, isAsciiDigit c
  | .call name _ arguments =>
    (∃ function : Function, name = function.name ∧ function.arity.accepts arguments.length) ∧
      AllPrintable arguments
  | .negation _ operand => Printable operand
  | .binary _ _ left right => Printable left ∧ Printable right

def AllPrintable : List Formula → Prop
  | [] => True
  | formula :: formulas => Printable formula ∧ AllPrintable formulas
end

mutual
def unplaced : Formula → Formula
  | .number numeral _ => .number numeral 0
  | .reference name _ => .reference name 0
  | .call name _ arguments => .call name 0 (unplacedAmong arguments)
  | .negation _ operand => .negation 0 (unplaced operand)
  | .binary operator _ left right => .binary operator 0 (unplaced left) (unplaced right)

def unplacedAmong : List Formula → List Formula
  | [] => []
  | formula :: formulas => unplaced formula :: unplacedAmong formulas
end

end Formula

/-- What is written in one piece: a tree in a place that asks for a binding, or the arguments of a
call. -/
inductive Passage where
  | operand (binding : Binding) (tree : Formula)
  | arguments (trees : List Formula)

inductive Renders : Passage → List String → Prop
  | number (binding : Binding) (numeral : String) (position : Nat) :
      Renders (.operand binding (.number numeral position)) [numeral]
  | reference (binding : Binding) (name : String) (position : Nat) :
      Renders (.operand binding (.reference name position)) [name]
  | call (binding : Binding) (name : String) (position : Nat) (arguments : List Formula)
      (words : List String) (inner : Renders (.arguments arguments) words) :
      Renders (.operand binding (.call name position arguments)) (name :: "(" :: (words ++ [")"]))
  | negation (binding : Binding) (position : Nat) (operand : Formula) (words : List String)
      (inner : Renders (.operand .factor operand) words) :
      Renders (.operand binding (.negation position operand)) ("not" :: words)
  | binary (binding : Binding) (operator : Operator) (position : Nat) (left right : Formula)
      (before after : List String) (binds : binding.strength ≤ operator.binding.strength)
      (first : Renders (.operand operator.leftBinding left) before)
      (second : Renders (.operand operator.rightBinding right) after) :
      Renders (.operand binding (.binary operator position left right))
        (before ++ operator.sign :: after)
  | parentheses (binding : Binding) (tree : Formula) (words : List String)
      (inner : Renders (.operand .comparison tree) words) :
      Renders (.operand binding tree) ("(" :: (words ++ [")"]))
  | lastArgument (tree : Formula) (words : List String)
      (inner : Renders (.operand .comparison tree) words) : Renders (.arguments [tree]) words
  | argument (tree : Formula) (others : List Formula) (before after : List String)
      (first : Renders (.operand .comparison tree) before)
      (more : Renders (.arguments others) after) :
      Renders (.arguments (tree :: others)) (before ++ "," :: after)

/-- Whether two words with nothing between them would run together. -/
def runsInto (word next : String) : Bool :=
  match word.toList.getLast?, next.toList.head? with
  | some c, some d => (isAsciiDigit c && isAsciiDigit d) || (isAsciiLower c && isAsciiLower d)
  | _, _ => false

/-- The texts with given words and any whitespace around them, of which there is some wherever two
words would run together without it. -/
inductive Spaced : List String → List Char → Prop
  | finish : Spaced [] []
  | blank (c : Char) (words : List String) (cs : List Char) (blank : isBlank c)
      (more : Spaced words cs) : Spaced words (c :: cs)
  | word (word : String) (words : List String) (cs : List Char)
      (apart : words.head?.any (runsInto word) → cs.head?.any isBlank) (more : Spaced words cs) :
      Spaced (word :: words) (word.toList ++ cs)

/-- Whether a text is a tree written out, with an equals sign in front or without one. -/
def Formula.Rendering (tree : Formula) (text : String) : Prop :=
  ∃ words cs, Renders (.operand .comparison tree) words ∧ Spaced words cs ∧
    (text.toList = cs ∨
      ∃ blanks : List Char, (∀ c ∈ blanks, isBlank c) ∧ text.toList = blanks ++ '=' :: cs)

namespace Formula

section Trees

variable {formula tree : Formula}

theorem allPrintable_iff {trees : List Formula} :
    AllPrintable trees ↔ ∀ tree ∈ trees, tree.Printable := by
  induction trees with
  | nil => simp [AllPrintable]
  | cons tree trees ih => simp [AllPrintable, ih]

theorem unplacedAmong_eq (formulas : List Formula) :
    unplacedAmong formulas = formulas.map unplaced := by
  induction formulas with
  | nil => rfl
  | cons formula formulas ih => rw [unplacedAmong, ih, List.map_cons]

theorem Printable.fits (printable : tree.Printable) : tree.Fits := by
  induction tree using Formula.induct with
  | number | reference => trivial
  | call name position arguments ih =>
    obtain ⟨⟨function, rfl, accepted⟩, inner⟩ := printable
    exact ⟨⟨function, checkArity_accepts accepted⟩, allFit_iff.2 fun argument member =>
      ih argument member (allPrintable_iff.1 inner argument member)⟩
  | negation position operand ih => exact ih printable
  | binary operator position left right ihl ihr => exact ⟨ihl printable.1, ihr printable.2⟩

theorem fits_unplaced : formula.unplaced.Fits ↔ formula.Fits := by
  induction formula using induct with
  | number | reference => rfl
  | call name position arguments ih =>
    simp only [unplaced, Fits, allFit_iff, unplacedAmong_eq, List.length_map, List.forall_mem_map]
    exact and_congr_right fun _ => forall₂_congr ih
  | negation position operand ih => exact ih
  | binary operator position left right ihl ihr => exact and_congr ihl ihr

end Trees
end Formula

namespace Token

section Lexemes

variable {kind : TokenKind} {lexeme : List Char}

theorem Lexeme.scanned (shaped : Lexeme kind lexeme) :
    scan 0 lexeme = .ok [⟨kind, String.ofList lexeme, 0⟩, finish lexeme.length] := by
  have segments := Segments.token 0 kind lexeme [] _ shaped nofun (.finish _)
  rw [List.append_nil, Nat.zero_add] at segments
  exact scan_ok_iff.2 segments

theorem Lexeme.unique {other : TokenKind} (shaped : Lexeme kind lexeme)
    (also : Lexeme other lexeme) : kind = other := by
  have same := shaped.scanned.symm.trans also.scanned
  simp only [Except.ok.injEq, List.cons.injEq, Token.mk.injEq] at same
  exact same.1.1

theorem lexeme_not : Lexeme .not "not".toList :=
  .word .not _ (List.all_eq_true.1 (by decide)) (by decide)

theorem lexeme_function (function : Function) : Lexeme .function function.name.toList := by
  refine .word .function _ (List.all_eq_true.1 ?_) ?_ <;> cases function <;> decide

theorem lexeme_sign (operator : Operator) : Lexeme operator.kind operator.sign.toList := by
  cases operator <;> exact .operator _ _ rfl

theorem lexeme_opening : Lexeme .leftParen "(".toList := .operator _ _ rfl

theorem lexeme_closing : Lexeme .rightParen ")".toList := .operator _ _ rfl

theorem lexeme_comma : Lexeme .comma ",".toList := .operator _ _ rfl

/-- A lexeme that a character would extend ends in a character of the same class. -/
theorem Lexeme.extended (shaped : Lexeme kind lexeme) {d : Char} (more : extends? kind d) :
    ∃ c, lexeme.getLast? = some c ∧
      (isAsciiDigit c ∧ isAsciiDigit d ∨ isAsciiLower c ∧ isAsciiLower d) := by
  have last := List.getLast?_eq_some_getLast shaped.ne_nil
  have member := List.getLast_mem shaped.ne_nil
  refine ⟨_, last, ?_⟩
  cases shaped with
  | number digits nonempty all => exact .inl ⟨all _ member, more⟩
  | cellReference letters digits lettered allLetters numbered allDigits =>
    rw [List.getLast_append_of_ne_nil _ numbered]
    exact .inl ⟨allDigits _ (List.getLast_mem numbered), more⟩
  | word _ word all known =>
    rcases wordKind_cases known with rfl | rfl <;> exact .inr ⟨all _ member, more⟩
  | operator _ c known =>
    rw [extends_operator known] at more
    cases more

theorem Lexeme.runs_into {word next : String} (shaped : Lexeme kind word.toList) {d : Char}
    (head : next.toList.head? = some d) (more : extends? kind d) : runsInto word next := by
  obtain ⟨c, last, alike⟩ := shaped.extended more
  simpa [runsInto, last, head] using alike

theorem Lexeme.begins {c : Char} (shaped : Lexeme kind (c :: lexeme)) :
    isBlank c = false ∧ first c (lexeme ++ []) 0 = .ok ⟨kind, String.ofList (c :: lexeme), 0⟩ := by
  have ends (d : Char) (head : [].head? = some d) : extends? kind d = false := nomatch head
  obtain ⟨visible, _, found⟩ := first_lexeme shaped ends 0
  exact ⟨visible, found⟩

theorem extends_blank {c : Char} (blank : isBlank c) : extends? kind c = false := by
  have outside : isAsciiDigit c = false ∧ isAsciiLower c = false := by
    constructor <;> rw [Bool.eq_false_iff]
    · intro digit
      have range := isAsciiDigit_iff.1 digit
      rw [isBlank_eq_false (by omega) (by omega)] at blank
      cases blank
    · intro lower
      have range := isAsciiLower_iff.1 lower
      rw [isBlank_eq_false (by omega) (by omega)] at blank
      cases blank
  unfold extends?
  split <;> simp [outside]

end Lexemes

end Token

def Passage.Printable : Passage → Prop
  | .operand _ tree => tree.Printable
  | .arguments trees => Formula.AllPrintable trees

/-- The phrase of the grammar that is found where a binding is asked for. -/
def Binding.phrase : Binding → Formula → Phrase
  | .comparison => .comparison
  | .sum => .sum
  | .product => .product
  | .factor => .factor

def Passage.Derived (tokens : List Token) : Passage → Prop
  | .operand binding tree =>
    ∃ formula : Formula, formula.unplaced = tree.unplaced ∧ Derives (binding.phrase formula) tokens
  | .arguments trees =>
    ∃ formulas, Formula.unplacedAmong formulas = Formula.unplacedAmong trees ∧
      Derives (.arguments formulas) tokens

/-- Tokens with the given words, each of the kind that its word has. -/
structure Spells (tokens : List Token) (words : List String) : Prop where
  words : tokens.map Token.lexeme = words
  shaped : ∀ token ∈ tokens, Lexeme token.kind token.lexeme.toList

section Spelled

variable {tokens : List Token} {word : String} {words before after : List String}

theorem Spells.cons_inv (spelled : Spells tokens (word :: words)) :
    ∃ token others, tokens = token :: others ∧ token.lexeme = word ∧
      Lexeme token.kind word.toList ∧ Spells others words := by
  obtain ⟨same, shaped⟩ := spelled
  obtain ⟨token, others, rfl, rfl, rfl⟩ := List.map_eq_cons_iff.1 same
  obtain ⟨own, rest⟩ := List.forall_mem_cons.1 shaped
  exact ⟨token, others, rfl, rfl, own, rfl, rest⟩

theorem Spells.append_inv (spelled : Spells tokens (before ++ after)) :
    ∃ first second, tokens = first ++ second ∧ Spells first before ∧ Spells second after := by
  obtain ⟨same, shaped⟩ := spelled
  obtain ⟨first, second, rfl, rfl, rfl⟩ := List.map_eq_append_iff.1 same
  obtain ⟨own, rest⟩ := List.forall_mem_append.1 shaped
  exact ⟨first, second, rfl, ⟨rfl, own⟩, ⟨rfl, rest⟩⟩

theorem Spells.bracket_inv (spelled : Spells tokens ("(" :: (words ++ [")"]))) :
    ∃ opening inside closing, tokens = opening :: (inside ++ [closing]) ∧
      opening.kind = .leftParen ∧ Spells inside words ∧ closing.kind = .rightParen := by
  obtain ⟨opening, others, rfl, _, opens, more⟩ := spelled.cons_inv
  obtain ⟨inside, last, rfl, inner, ends⟩ := more.append_inv
  obtain ⟨closing, rest, rfl, _, closes, nothing⟩ := ends.cons_inv
  obtain rfl : rest = [] := List.map_eq_nil_iff.1 nothing.words
  exact ⟨opening, inside, closing, rfl, opens.unique lexeme_opening, inner,
    closes.unique lexeme_closing⟩

theorem derives_weaker {formula : Formula} : ∀ {weak strong : Binding},
    weak.strength ≤ strong.strength → Derives (strong.phrase formula) tokens →
      Derives (weak.phrase formula) tokens
  | .comparison, .comparison, _, derived | .sum, .sum, _, derived
  | .product, .product, _, derived | .factor, .factor, _, derived => derived
  | .product, .factor, _, factor => .ofFactor _ _ factor
  | .sum, .product, _, product => .ofProduct _ _ product
  | .sum, .factor, _, factor => .ofProduct _ _ (.ofFactor _ _ factor)
  | .comparison, .sum, _, sum => .ofSum _ _ sum
  | .comparison, .product, _, product => .ofSum _ _ (.ofProduct _ _ product)
  | .comparison, .factor, _, factor => .ofSum _ _ (.ofProduct _ _ (.ofFactor _ _ factor))
  | .sum, .comparison, weaker, _ | .product, .comparison, weaker, _
  | .factor, .comparison, weaker, _ | .product, .sum, weaker, _ | .factor, .sum, weaker, _
  | .factor, .product, weaker, _ => absurd weaker (by decide)

theorem derives_binary {operator : Operator} {left right : Formula} {first second : List Token}
    {sign : Token} (signed : sign.kind = operator.kind)
    (onLeft : Derives (operator.leftBinding.phrase left) first)
    (onRight : Derives (operator.rightBinding.phrase right) second) :
    Derives (operator.binding.phrase (.binary operator sign.position left right))
      (first ++ sign :: second) := by
  cases operator with
  | add => exact .add _ _ _ _ _ _ (by rw [signed]; rfl) onLeft onRight
  | subtract => exact .add _ _ _ _ _ _ (by rw [signed]; rfl) onLeft onRight
  | multiply => exact .multiply _ _ _ _ _ _ (by rw [signed]; rfl) onLeft onRight
  | divide => exact .multiply _ _ _ _ _ _ (by rw [signed]; rfl) onLeft onRight
  | equal => exact .compare _ _ _ _ _ _ (by rw [signed]; rfl) onLeft onRight
  | less => exact .compare _ _ _ _ _ _ (by rw [signed]; rfl) onLeft onRight
  | greater => exact .compare _ _ _ _ _ _ (by rw [signed]; rfl) onLeft onRight

theorem derives_factor {binding : Binding} {formula : Formula}
    (derived : Derives (.factor formula) tokens) : Derives (binding.phrase formula) tokens :=
  have weaker : binding.strength ≤ Binding.factor.strength := by cases binding <;> decide
  derives_weaker weaker derived

end Spelled

namespace Renders

variable {passage : Passage} {words : List String}

theorem lexemes (renders : Renders passage words) (printable : passage.Printable) :
    ∀ word ∈ words, ∃ kind, Lexeme kind word.toList := by
  induction renders with
  | number binding numeral position =>
    obtain ⟨nonempty, all⟩ := printable
    exact List.forall_mem_singleton.2 ⟨_, .number _ (by simpa using nonempty) all⟩
  | reference binding name position =>
    obtain ⟨letters, digits, split, lettered, allLetters, numbered, allDigits⟩ := printable
    refine List.forall_mem_singleton.2 ⟨.cellReference, ?_⟩
    rw [split]
    exact .cellReference letters digits lettered allLetters numbered allDigits
  | call binding name position arguments words inner ih =>
    obtain ⟨⟨function, rfl, _⟩, arguments⟩ := printable
    simp only [List.forall_mem_cons, List.forall_mem_append]
    exact ⟨⟨_, lexeme_function function⟩, ⟨_, lexeme_opening⟩, ih arguments, ⟨_, lexeme_closing⟩,
      nofun⟩
  | negation binding position operand words inner ih =>
    exact List.forall_mem_cons.2 ⟨⟨_, lexeme_not⟩, ih printable⟩
  | binary binding operator position left right before after binds first second ihl ihr =>
    simp only [List.forall_mem_append, List.forall_mem_cons]
    exact ⟨ihl printable.1, ⟨_, lexeme_sign operator⟩, ihr printable.2⟩
  | parentheses binding tree words inner ih =>
    simp only [List.forall_mem_cons, List.forall_mem_append]
    exact ⟨⟨_, lexeme_opening⟩, ih printable, ⟨_, lexeme_closing⟩, nofun⟩
  | lastArgument tree words inner ih => exact ih printable.1
  | argument tree others before after first more iht iho =>
    simp only [List.forall_mem_append, List.forall_mem_cons]
    exact ⟨iht printable.1, ⟨_, lexeme_comma⟩, iho printable.2⟩

theorem derived (renders : Renders passage words) (printable : passage.Printable)
    {tokens : List Token} (spelled : Spells tokens words) : passage.Derived tokens := by
  induction renders generalizing tokens with
  | number binding numeral position =>
    obtain ⟨token, others, rfl, rfl, shaped, nothing⟩ := spelled.cons_inv
    obtain rfl : others = [] := List.map_eq_nil_iff.1 nothing.words
    obtain ⟨nonempty, all⟩ := printable
    have kind := shaped.unique (.number _ (by simpa using nonempty) all)
    exact ⟨.number token.lexeme token.position, rfl, derives_factor (.number token kind)⟩
  | reference binding name position =>
    obtain ⟨token, others, rfl, rfl, shaped, nothing⟩ := spelled.cons_inv
    obtain rfl : others = [] := List.map_eq_nil_iff.1 nothing.words
    obtain ⟨letters, digits, split, lettered, allLetters, numbered, allDigits⟩ := printable
    rw [split] at shaped
    have kind := shaped.unique
      (.cellReference letters digits lettered allLetters numbered allDigits)
    exact ⟨.reference token.lexeme token.position, rfl, derives_factor (.reference token kind)⟩
  | call binding name position arguments words inner ih =>
    obtain ⟨⟨function, rfl, _⟩, arguments⟩ := printable
    obtain ⟨callee, others, rfl, called, shaped, more⟩ := spelled.cons_inv
    obtain ⟨opening, inside, closing, rfl, opens, spelled, closes⟩ := more.bracket_inv
    obtain ⟨formulas, same, derived⟩ := ih arguments spelled
    have kind := shaped.unique (lexeme_function function)
    refine ⟨_, ?_, derives_factor (.call callee opening closing formulas inside kind opens closes
      derived)⟩
    rw [Formula.unplaced, Formula.unplaced, same, called]
  | negation binding position operand words inner ih =>
    obtain ⟨sign, others, rfl, _, shaped, more⟩ := spelled.cons_inv
    obtain ⟨formula, same, derived⟩ := ih printable more
    have kind := shaped.unique lexeme_not
    refine ⟨_, ?_, derives_factor (.negation sign formula others kind derived)⟩
    rw [Formula.unplaced, Formula.unplaced, same]
  | binary binding operator position left right before after binds first second ihl ihr =>
    obtain ⟨lefts, others, rfl, spelledLeft, more⟩ := spelled.append_inv
    obtain ⟨sign, rights, rfl, _, shaped, spelledRight⟩ := more.cons_inv
    obtain ⟨one, sameLeft, derivedLeft⟩ := ihl printable.1 spelledLeft
    obtain ⟨other, sameRight, derivedRight⟩ := ihr printable.2 spelledRight
    have kind := shaped.unique (lexeme_sign operator)
    refine ⟨_, ?_, derives_weaker binds (derives_binary kind derivedLeft derivedRight)⟩
    rw [Formula.unplaced, Formula.unplaced, sameLeft, sameRight]
  | parentheses binding tree words inner ih =>
    obtain ⟨opening, inside, closing, rfl, opens, more, closes⟩ := spelled.bracket_inv
    obtain ⟨formula, same, derived⟩ := ih printable more
    exact ⟨formula, same, derives_factor (.group opening closing formula inside opens closes
      derived)⟩
  | lastArgument tree words inner ih =>
    obtain ⟨formula, same, derived⟩ := ih printable.1 spelled
    refine ⟨[formula], ?_, .lastArgument formula tokens derived⟩
    simp only [Formula.unplacedAmong, same]
  | argument tree others before after first more iht iho =>
    obtain ⟨firsts, rest, rfl, spelledFirst, later⟩ := spelled.append_inv
    obtain ⟨comma, lasts, rfl, _, shaped, spelledLater⟩ := later.cons_inv
    obtain ⟨formula, same, derived⟩ := iht printable.1 spelledFirst
    obtain ⟨formulas, sameLater, derivedLater⟩ := iho printable.2 spelledLater
    have kind := shaped.unique lexeme_comma
    refine ⟨formula :: formulas, ?_, .argument formula formulas firsts lasts comma kind derived
      derivedLater⟩
    rw [Formula.unplacedAmong, Formula.unplacedAmong, same, sameLater]

theorem ne_nil (renders : Renders passage words) : words ≠ [] := by
  induction renders with
  | lastArgument tree words inner ih => exact ih
  | number | reference | call | negation | binary | parentheses | argument => simp

end Renders

namespace Spaced

variable {words : List String} {cs : List Char}

theorem head_cases (spaced : Spaced words cs)
    (shaped : ∀ word ∈ words, ∃ kind, Lexeme kind word.toList) {d : Char}
    (head : cs.head? = some d) :
    isBlank d ∨ ∃ next, words.head? = some next ∧ next.toList.head? = some d := by
  cases spaced with
  | finish => cases head
  | blank c words cs blank =>
    cases head
    exact .inl blank
  | word word words cs =>
    obtain ⟨kind, own⟩ := shaped word (by simp)
    obtain ⟨c, others, split⟩ := List.exists_cons_of_ne_nil own.ne_nil
    rw [split] at head
    exact .inr ⟨word, rfl, by rw [split]; exact head⟩

theorem segments (spaced : Spaced words cs)
    (shaped : ∀ word ∈ words, ∃ kind, Lexeme kind word.toList) (position : Nat) :
    ∃ tokens mark, Segments position cs (tokens ++ [mark]) ∧ mark.kind = .endOfInput ∧
      Spells tokens words := by
  induction spaced generalizing position with
  | finish => exact ⟨[], _, .finish position, rfl, rfl, nofun⟩
  | blank c words cs blank more ih =>
    obtain ⟨tokens, mark, segments, ended, spelled⟩ := ih shaped (position + 1)
    exact ⟨tokens, mark, .blank position c cs _ blank segments, ended, spelled⟩
  | word word words cs apart more ih =>
    obtain ⟨⟨kind, own⟩, others⟩ := List.forall_mem_cons.1 shaped
    obtain ⟨tokens, mark, segments, ended, spelled⟩ := ih others (position + word.toList.length)
    have ends (d : Char) (head : cs.head? = some d) : extends? kind d = false := by
      by_contra extended
      have extended : extends? kind d := by simpa using extended
      rcases more.head_cases others head with blank | ⟨next, follows, begins⟩
      · rw [extends_blank blank] at extended
        cases extended
      · have blank := apart (by rw [follows]; exact own.runs_into begins extended)
        rw [head] at blank
        rw [extends_blank blank] at extended
        cases extended
    refine ⟨⟨kind, String.ofList word.toList, position⟩ :: tokens, mark,
      .token position kind word.toList cs _ own ends segments, ended, ?_, ?_⟩
    · simp [spelled.words]
    · exact List.forall_mem_cons.2 ⟨by simpa using own, spelled.shaped⟩

theorem visible {word : String} (spaced : Spaced (word :: words) cs)
    (shaped : ∃ kind, Lexeme kind word.toList) :
    ∃ c rest, dropBlank cs = c :: rest ∧ word.toList.head? = some c ∧
      Spaced (word :: words) (c :: rest) := by
  generalize all : word :: words = written at spaced
  induction spaced with
  | finish => cases all
  | blank c _ cs blank more ih =>
    rw [dropBlank, List.dropWhile_cons_of_pos blank]
    exact ih all
  | word _ _ cs apart more =>
    cases all
    obtain ⟨kind, own⟩ := shaped
    obtain ⟨c, others, split⟩ := List.exists_cons_of_ne_nil own.ne_nil
    obtain ⟨seen, _⟩ := (split ▸ own).begins
    have whole : word.toList ++ cs = c :: (others ++ cs) := by rw [split]; rfl
    refine ⟨c, others ++ cs, ?_, by rw [split]; rfl, whole ▸ .word word words cs apart more⟩
    rw [whole, dropBlank, List.dropWhile_cons_of_neg (by simp [seen])]

end Spaced

namespace Formula

variable {tree : Formula} {text : String}

/-- The body of a text has the words of its tree: what begins a tree is no equals sign. -/
theorem Rendering.body (printable : tree.Printable) (rendering : tree.Rendering text) :
    ∃ words, Renders (.operand .comparison tree) words ∧ Spaced words (Token.body text.toList) ∧
      Token.body text.toList ≠ [] := by
  obtain ⟨words, cs, renders, spaced, written⟩ := rendering
  have shaped := renders.lexemes printable
  obtain ⟨word, words, rfl⟩ := List.exists_cons_of_ne_nil renders.ne_nil
  obtain ⟨c, rest, visible, head, spaced⟩ := spaced.visible (shaped word (by simp))
  have noSign : c ≠ '=' := by
    rintro rfl
    obtain ⟨tokens, _, _, _, spelled⟩ := spaced.segments shaped 0
    obtain ⟨_, _, derived⟩ := renders.derived printable spelled
    obtain ⟨token, others, rfl, begins⟩ := derived.starts
    obtain ⟨_, _, same, _, own, _⟩ := spelled.cons_inv
    obtain ⟨rfl, rfl⟩ := List.cons.inj same
    obtain ⟨tail, split⟩ := List.head?_eq_some_iff.1 head
    rw [split] at own
    obtain ⟨_, found⟩ := own.begins
    obtain ⟨equal, _⟩ := Token.mk.inj (Except.ok.inj found)
    rw [← equal] at begins
    cases begins
  have bodied : Token.body text.toList = c :: rest := by
    rcases written with plain | ⟨blanks, all, signed⟩
    · rw [plain, Token.body, visible]
      split
      next shape => exact absurd (List.cons.inj shape).1 noSign
      next => rfl
    · rw [signed, Token.body, dropBlank_run all (by rintro c ⟨⟩; rfl)]
      exact visible
  exact ⟨word :: words, renders, bodied ▸ spaced, bodied ▸ List.cons_ne_nil c rest⟩

theorem exists_arguments {trees : List Formula} (nonempty : trees ≠ [])
    (each : ∀ tree ∈ trees, ∃ words, Renders (.operand .comparison tree) words) :
    ∃ words, Renders (.arguments trees) words := by
  induction trees with
  | nil => exact absurd rfl nonempty
  | cons tree others ih =>
    obtain ⟨⟨words, renders⟩, more⟩ := List.forall_mem_cons.1 each
    rcases eq_or_ne others [] with rfl | others
    · exact ⟨_, .lastArgument _ _ renders⟩
    · obtain ⟨_, inner⟩ := ih others more
      exact ⟨_, .argument _ _ _ _ renders inner⟩

theorem exists_words (printable : tree.Printable) (binding : Binding) :
    ∃ words, Renders (.operand binding tree) words := by
  induction tree using induct generalizing binding with
  | number numeral position => exact ⟨_, .number _ _ _⟩
  | reference name position => exact ⟨_, .reference _ _ _⟩
  | call name position arguments ih =>
    obtain ⟨⟨function, _, accepted⟩, inner⟩ := printable
    have nonempty : arguments ≠ [] := by
      rintro rfl
      cases function <;> cases accepted
    obtain ⟨_, renders⟩ := exists_arguments nonempty fun argument member =>
      ih argument member (allPrintable_iff.1 inner argument member) .comparison
    exact ⟨_, .call _ _ _ _ _ renders⟩
  | negation position operand ih =>
    obtain ⟨_, renders⟩ := ih printable .factor
    exact ⟨_, .negation _ _ _ _ renders⟩
  | binary operator position left right ihl ihr =>
    obtain ⟨_, first⟩ := ihl printable.1 operator.leftBinding
    obtain ⟨_, second⟩ := ihr printable.2 operator.rightBinding
    have bare := Renders.binary .comparison operator position left right _ _ (Nat.zero_le _)
      first second
    exact ⟨_, .parentheses _ _ _ bare⟩

theorem exists_spaced (words : List String) : ∃ cs, Spaced words (' ' :: cs) := by
  induction words with
  | nil => exact ⟨[], .blank _ _ _ rfl .finish⟩
  | cons word words ih =>
    obtain ⟨cs, more⟩ := ih
    exact ⟨_, .blank _ _ _ rfl (.word word words _ (fun _ => rfl) more)⟩

theorem exists_rendering (printable : tree.Printable) : ∃ text, tree.Rendering text := by
  obtain ⟨words, renders⟩ := exists_words printable .comparison
  obtain ⟨cs, spaced⟩ := exists_spaced words
  exact ⟨String.ofList (' ' :: cs), words, _, renders, spaced, .inl String.toList_ofList⟩

/-- Every printable tree can be written. However it is written, reading its text gives the tree, with
the offsets of the text. -/
theorem ofText_rendering (printable : tree.Printable) :
    (∃ text, tree.Rendering text) ∧ ∀ text, tree.Rendering text →
      ∃ formula, ofText? text = .ok (some formula) ∧ formula.unplaced = tree.unplaced := by
  refine ⟨exists_rendering printable, ?_⟩
  intro text rendering
  obtain ⟨words, renders, spaced, nonempty⟩ := rendering.body printable
  have shaped := renders.lexemes printable
  obtain ⟨lead, split, _⟩ := lead_body text.toList
  obtain ⟨tokens, mark, segments, ended, spelled⟩ := spaced.segments shaped lead.length
  obtain ⟨formula, same, derived⟩ := renders.derived printable spelled
  have lexed : tokenize text (bodyStart text) = .ok (tokens ++ [mark]) := by
    rw [tokenize_eq split]
    exact scan_ok_iff.2 segments
  have read : ofTokens (tokens ++ [mark]) = .ok formula :=
    (ofTokens_ok_iff (tokenize_marked lexed)).2 ⟨tokens, mark, rfl, ended, derived⟩
  have fits : formula.Fits := by
    rw [← fits_unplaced, same, fits_unplaced]
    exact printable.fits
  have inside : ¬ text.length ≤ bodyStart text := by
    have counted := congrArg List.length split
    have longer := List.length_pos_iff.2 nonempty
    rw [List.length_append, String.length_toList] at counted
    rw [bodyStart_eq split]
    omega
  refine ⟨formula, ?_, same⟩
  simp only [ofText?, if_neg inside, lexed, Failure.ok_bind, read, checked_ok_iff.2 ⟨fits, rfl⟩]
  rfl

/-- The difference on the right keeps its parentheses, and the signs of two negations their
distance. -/
theorem ofText_rendering_nested :
    ∃ formula, ofText? " =not not A1-((2) -1)" = .ok (some formula) ∧
      formula.unplaced = .binary .subtract 0 (.negation 0 (.negation 0 (.reference "A1" 0)))
        (.binary .subtract 0 (.number "2" 0) (.number "1" 0)) := by
  let left : Formula := .negation 0 (.negation 0 (.reference "A1" 0))
  let right : Formula := .binary .subtract 0 (.number "2" 0) (.number "1" 0)
  have leftRenders : Renders (.operand .sum left) ["not", "not", "A1"] :=
    .negation _ _ _ _ (.negation _ _ _ _ (.reference _ _ _))
  have rightRenders : Renders (.operand .product right) ["(", "(", "2", ")", "-", "1", ")"] :=
    .parentheses _ _ ["(", "2", ")", "-", "1"]
      (.binary _ .subtract _ _ _ ["(", "2", ")"] ["1"] (by decide)
        (.parentheses _ _ ["2"] (.number _ _ _)) (.number _ _ _))
  have renders : Renders (.operand .comparison (.binary .subtract 0 left right))
      ["not", "not", "A1", "-", "(", "(", "2", ")", "-", "1", ")"] :=
    .binary _ .subtract _ _ _ ["not", "not", "A1"] _ (by decide) leftRenders rightRenders
  have spaced : Spaced ["not", "not", "A1", "-", "(", "(", "2", ")", "-", "1", ")"]
      "not not A1-((2) -1)".toList := by
    refine .word "not" _ " not A1-((2) -1)".toList (by decide) (.blank _ _ _ (by decide) ?_)
    refine .word "not" _ " A1-((2) -1)".toList (by decide) (.blank _ _ _ (by decide) ?_)
    refine .word "A1" _ "-((2) -1)".toList (by decide) (.word "-" _ _ (by decide) ?_)
    refine .word "(" _ "(2) -1)".toList (by decide) (.word "(" _ _ (by decide) ?_)
    refine .word "2" _ ") -1)".toList (by decide) (.word ")" _ _ (by decide) ?_)
    refine .blank _ _ _ (by decide) (.word "-" _ "1)".toList (by decide) ?_)
    exact .word "1" _ ")".toList (by decide) (.word ")" _ _ (by decide) .finish)
  have printable : (Formula.binary .subtract 0 left right).Printable :=
    ⟨⟨['A'], ['1'], rfl, by decide, List.all_eq_true.1 rfl, by decide, List.all_eq_true.1 rfl⟩,
      ⟨by decide, List.all_eq_true.1 (by decide)⟩, by decide, List.all_eq_true.1 (by decide)⟩
  exact (ofText_rendering printable).2 _
    ⟨_, _, renders, spaced, .inr ⟨[' '], List.all_eq_true.1 rfl, by decide⟩⟩

end Formula
end FormulaGrid
