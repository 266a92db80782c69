import FormulaGrid.Proofs.Lexing

/-! The body of a formula's text, which all tokens come from, and what is left of it where the text
is cut off in front of one of them. -/
namespace FormulaGrid.Token

open FormulaGrid.Text

/-- What follows whitespace, one optional equals sign and the whitespace after it. -/
def body (cs : List Char) : List Char :=
  match dropBlank cs with
  | '=' :: rest => dropBlank rest
  | rest => rest

theorem dropBlank_run {blanks rest : List Char} (all : ∀ c ∈ blanks, isBlank c)
    (ends : ∀ c, rest.head? = some c → isBlank c = false) : dropBlank (blanks ++ rest) = rest :=
  dropWhile_run all ends

theorem head_dropBlank {cs : List Char} {c : Char} (head : (dropBlank cs).head? = some c) :
    isBlank c = false :=
  head_dropWhile c head

theorem blanks_dropBlank (cs : List Char) :
    ∃ blanks, cs = blanks ++ dropBlank cs ∧ ∀ c ∈ blanks, isBlank c :=
  ⟨cs.takeWhile isBlank, List.takeWhile_append_dropWhile.symm, all_takeWhile⟩

theorem head_body {cs : List Char} {c : Char} (head : (body cs).head? = some c) :
    isBlank c = false := by
  unfold body at head
  split at head
  · exact head_dropBlank head
  · exact head_dropBlank head

theorem lead_body (cs : List Char) :
    ∃ lead, cs = lead ++ body cs ∧
      ∀ more, (∀ c, more.head? = some c →
          isBlank c = false ∧ (c = '=' → (body cs).head? = some '=')) →
        body (lead ++ more) = more := by
  obtain ⟨blanks, split, all⟩ := blanks_dropBlank cs
  unfold body
  split
  next rest shape =>
    obtain ⟨spaces, inner, alls⟩ := blanks_dropBlank rest
    refine ⟨blanks ++ '=' :: spaces, ?_, fun more begins => ?_⟩
    · rw [List.append_assoc, List.cons_append, ← inner, ← shape]
      exact split
    · have sign (c : Char) (head : ('=' :: (spaces ++ more)).head? = some c) :
          isBlank c = false := by
        cases head
        rfl
      rw [List.append_assoc, List.cons_append, dropBlank_run all sign]
      exact dropBlank_run alls fun c head => (begins c head).1
  next rest other =>
    refine ⟨blanks, split, fun more begins => ?_⟩
    rw [dropBlank_run all fun c head => (begins c head).1]
    split
    next tail =>
      obtain ⟨others, shape⟩ := List.head?_eq_some_iff.1 ((begins '=' rfl).2 rfl)
      exact absurd shape (other others)
    next => rfl

theorem bodyStart_eq {text : String} {lead : List Char}
    (split : text.toList = lead ++ body text.toList) : bodyStart text = lead.length := by
  have counted : text.length = lead.length + (body text.toList).length := by
    rw [← String.length_toList, ← List.length_append, ← split]
  change text.length - (body text.toList).length = lead.length
  omega

theorem bodyStart_of_upper {text : String} {c : Char} (head : text.toList.head? = some c)
    (upper : isAsciiUpper c) : bodyStart text = 0 := by
  obtain ⟨cs, shape⟩ := List.head?_eq_some_iff.1 head
  have kept : dropBlank text.toList = text.toList := by
    rw [shape]
    exact List.dropWhile_cons_of_neg (by simp [isBlank_of_upper upper])
  have split : text.toList = [] ++ body text.toList := by
    rw [List.nil_append, body, kept]
    split
    next rest equals =>
      rw [shape] at equals
      cases equals
      cases upper
    next => rfl
  exact bodyStart_eq split

theorem drop_bodyStart (text : String) : text.toList.drop (bodyStart text) = body text.toList := by
  obtain ⟨lead, split, _⟩ := lead_body text.toList
  rw [bodyStart_eq split]
  exact (congrArg (List.drop lead.length) split).trans List.drop_left

theorem tokenize_eq {text : String} {lead : List Char}
    (split : text.toList = lead ++ body text.toList) :
    tokenize text (bodyStart text) = scan lead.length (body text.toList) := by
  have counted : lead.length ≤ text.length := by
    rw [← String.length_toList, split, List.length_append]
    omega
  rw [tokenize, drop_bodyStart, bodyStart_eq split, Nat.min_eq_left counted]

theorem blank_iff {text : String} {tokens : List Token}
    (lexed : tokenize text (bodyStart text) = .ok tokens) :
    text.length ≤ bodyStart text ↔ tokens.length = 1 := by
  obtain ⟨lead, split, _⟩ := lead_body text.toList
  have counted : text.length = lead.length + (body text.toList).length := by
    rw [← String.length_toList, ← List.length_append, ← split]
  have visible (c : Char) (head : (body text.toList).head? = some c) :
      Text.isBlank c = false := head_body head
  rw [tokenize_eq split] at lexed
  rw [bodyStart_eq split, counted]
  have segments := scan_ok_iff.1 lexed
  generalize body text.toList = cs at segments visible
  cases segments with
  | finish => simp
  | blank _ c cs tokens blank => exact absurd blank (by simp [visible c rfl])
  | token _ kind lexeme rest tokens shaped ends more =>
    have nonempty := List.length_pos_iff.2 shaped.ne_nil
    obtain ⟨front, rfl, _⟩ := more.marked
    simp only [List.length_append, List.length_cons, List.length_nil]
    omega

theorem tokenize_cut {text : String} {before rest : List Token} {found : Token}
    (nonempty : before ≠ [])
    (lexed : tokenize text (bodyStart text) = .ok (before ++ found :: rest)) :
    let cut := String.ofList (text.toList.take found.position)
    bodyStart cut < cut.length ∧
      tokenize cut (bodyStart cut) = .ok (before ++ [finish found.position]) := by
  intro cut
  obtain ⟨lead, split, leads⟩ := lead_body text.toList
  rw [tokenize_eq split] at lexed
  have segments := scan_ok_iff.1 lexed
  have later := segments.position_lt nonempty
  have inside := segments.position_le_end (show found ∈ before ++ found :: rest by simp)
  have begins (c : Char)
      (head : ((body text.toList).take (found.position - lead.length)).head? = some c) :
      isBlank c = false ∧ (c = '=' → (body text.toList).head? = some '=') := by
    rw [List.head?_take] at head
    split at head
    · cases head
    · exact ⟨head_body head, fun sign => sign ▸ head⟩
  have same : cut.toList = lead ++ (body text.toList).take (found.position - lead.length) := by
    have cut_off : cut.toList = text.toList.take found.position := String.toList_ofList
    rw [cut_off, congrArg (List.take found.position) split, List.take_append,
      List.take_of_length_le (by omega)]
  have rest_body : body cut.toList = (body text.toList).take (found.position - lead.length) := by
    rw [same]
    exact leads _ begins
  have cut_split : cut.toList = lead ++ body cut.toList := by rw [rest_body, same]
  constructor
  · rw [bodyStart_eq cut_split, ← String.length_toList, same, List.length_append, List.length_take]
    omega
  · rw [tokenize_eq cut_split, rest_body]
    exact scan_ok_iff.2 segments.cut

end FormulaGrid.Token
