import FormulaGrid.Data.Display
import FormulaGrid.Proofs.Json.Text

/-! JSON text of data, written and read: reading gives the data back, unless it is nested too
deeply. -/
namespace FormulaGrid.Json

open FormulaGrid.Text FormulaGrid.Decimal

section Steps

variable {depth : Nat} {cs keyed valued key rest after later : List Char} {c : Char}
  {item value : Data} {items : List Data} {entries before : Data.Entries}

theorem skipSpace_cons (c : Char) (cs : List Char) (shown : isSpace c = false) :
    skipSpace (c :: cs) = c :: cs := by
  simp [skipSpace, shown]

theorem skipSpace_space (cs : List Char) : skipSpace (' ' :: cs) = skipSpace cs :=
  rfl

theorem readValue_leaf (quote : c ≠ '"') (bracket : c ≠ '[') (brace : c ≠ '\x7b') :
    readValue depth (c :: cs) = readLeaf (c :: cs) := by
  rw [readValue]
  · exact fun _ same => quote (List.cons.inj same).1
  · exact fun _ same => bracket (List.cons.inj same).1
  · exact fun _ same => brace (List.cons.inj same).1

theorem readValue_text (text : String) (rest : List Char) :
    Yields (readValue depth (stringChars text ++ rest)) (.text text) rest := by
  have read := (readString_stringChars text.toList rest).map
    (fun chars => Data.text (String.ofList chars)) (Nat.le_add_right _ 1)
  rw [String.ofList_toList] at read
  rw [stringChars, List.cons_append, List.cons_append, List.append_assoc, readValue]
  exact read

theorem Yields.lastItem (read : Yields (readValue depth (skipSpace cs)) item (']' :: after)) :
    Yields (readItems depth cs) [item] after := by
  obtain ⟨_, read⟩ := read
  rw [readItems, read]
  exact ⟨_, rfl⟩

theorem Yields.moreItems (read : Yields (readValue depth (skipSpace cs)) item (',' :: after))
    (others : Yields (readItems depth after) items later) :
    Yields (readItems depth cs) (item :: items) later := by
  obtain ⟨_, read⟩ := read
  obtain ⟨_, others⟩ := others
  rw [readItems, read]
  change Yields (Except.bind (readItems depth after) _) _ _
  rw [others]
  exact ⟨_, rfl⟩

theorem Yields.lastEntry (named : Yields (readString keyed) key (':' :: valued))
    (read : Yields (readValue depth (skipSpace valued)) value ('\x7d' :: after))
    (quoted : skipSpace cs = '"' :: keyed) :
    Yields (readEntries depth before cs) (Data.put (String.ofList key) value before) after := by
  obtain ⟨_, named⟩ := named
  obtain ⟨_, read⟩ := read
  rw [readEntries]
  split
  next same =>
    obtain ⟨_, rfl⟩ := List.cons.inj (quoted.symm.trans same)
    rw [named]
    change Yields (Except.bind (readValue depth (skipSpace valued)) _) _ _
    rw [read]
    exact ⟨_, rfl⟩
  next other => exact absurd quoted (other _)

theorem Yields.moreEntries (named : Yields (readString keyed) key (':' :: valued))
    (read : Yields (readValue depth (skipSpace valued)) value (',' :: after))
    (others : Yields (readEntries depth (Data.put (String.ofList key) value before) after) entries
      later)
    (quoted : skipSpace cs = '"' :: keyed) : Yields (readEntries depth before cs) entries later := by
  obtain ⟨_, named⟩ := named
  obtain ⟨_, read⟩ := read
  obtain ⟨_, others⟩ := others
  rw [readEntries]
  split
  next same =>
    obtain ⟨_, rfl⟩ := List.cons.inj (quoted.symm.trans same)
    rw [named]
    change Yields (Except.bind (readValue depth (skipSpace valued)) _) _ _
    rw [read]
    change Yields (Except.bind (readEntries depth (Data.put (String.ofList key) value before) after) _)
      _ _
    rw [others]
    exact ⟨_, rfl⟩
  next other => exact absurd quoted (other _)

end Steps

/-- A numeral of double precision, behind its sign. -/
def IsNumeral (numeral : String) : Prop :=
  ∃ (negative : Bool) (x : Double), x.Regular ∧
    numeral = String.ofList ((if negative then ['-'] else []) ++ x.chars)

/-- Data that JSON text can hold: no integer has too many digits, every other number is finite, and
the keys of a mapping are distinct. -/
inductive IsJson : Data → Prop
  | null : IsJson .null
  | boolean (value : Bool) : IsJson (.boolean value)
  | integer {value : Int} (short : value.natAbs < 10 ^ maxNumeralDigits) : IsJson (.integer value)
  | float {numeral : String} (finite : IsNumeral numeral) : IsJson (.float numeral)
  | text (value : String) : IsJson (.text value)
  | list {items : List Data} (all : ∀ item ∈ items, IsJson item) : IsJson (.list items)
  | mapping {entries : Data.Entries} (distinct : (entries.map Prod.fst).Nodup)
      (all : ∀ entry ∈ entries, IsJson entry.2) : IsJson (.mapping entries)

def IsName (numeral : String) : Prop :=
  numeral = "nan" ∨ numeral = "inf" ∨ numeral = "-inf"

/-- Data that JSON text gives back: as above, but a number may also be infinite or NaN. -/
inductive IsWritten : Data → Prop
  | null : IsWritten .null
  | boolean (value : Bool) : IsWritten (.boolean value)
  | integer {value : Int} (short : value.natAbs < 10 ^ maxNumeralDigits) :
      IsWritten (.integer value)
  | float {numeral : String} (known : IsNumeral numeral ∨ IsName numeral) :
      IsWritten (.float numeral)
  | text (value : String) : IsWritten (.text value)
  | list {items : List Data} (all : ∀ item ∈ items, IsWritten item) : IsWritten (.list items)
  | mapping {entries : Data.Entries} (distinct : (entries.map Prod.fst).Nodup)
      (all : ∀ entry ∈ entries, IsWritten entry.2) : IsWritten (.mapping entries)

theorem IsJson.isWritten {data : Data} (json : IsJson data) : IsWritten data := by
  induction json with
  | null => exact .null
  | boolean value => exact .boolean value
  | integer short => exact .integer short
  | float finite => exact .float (.inl finite)
  | text value => exact .text value
  | list _ ih => exact .list ih
  | mapping distinct _ ih => exact .mapping distinct ih

section Leaves

variable {depth : Nat} {data : Data} {rest : List Char} {numeral : String}

def IsNumber (cs : List Char) : Prop :=
  ∃ (negative : Bool) (c : Char) (digits : List Char), isAsciiDigit c ∧
    cs = (if negative then ['-'] else []) ++ c :: digits

theorem IsNumber.head {cs : List Char} (number : IsNumber cs) :
    ∃ c rest, cs = c :: rest ∧ (c = '-' ∨ isAsciiDigit c) := by
  obtain ⟨negative, c, digits, digit, rfl⟩ := number
  cases negative with
  | false => exact ⟨c, digits, rfl, .inr digit⟩
  | true => exact ⟨'-', c :: digits, rfl, .inl rfl⟩

theorem toList_integer (value : Int) :
    (toString value).toList =
      (if decide (value < 0) then ['-'] else []) ++ Nat.toDigits 10 value.natAbs := by
  cases value with
  | ofNat n => exact toList_toString n
  | negSucc n =>
    change ("-" ++ toString (n + 1)).toList = _
    rw [String.toList_append, toList_toString, decide_eq_true (Int.negSucc_lt_zero n)]
    rfl

theorem isNumber_integer (value : Int) : IsNumber (toString value).toList := by
  obtain ⟨c, digits, split⟩ := List.exists_cons_of_ne_nil
    (Nat.toDigits_ne_nil (n := value.natAbs) (b := 10))
  refine ⟨decide (value < 0), c, digits, ?_, ?_⟩
  · exact isAsciiDigit_of_mem_toDigits (split ▸ List.mem_cons_self)
  · rw [toList_integer, split]

theorem IsNumeral.layout (finite : IsNumeral numeral) :
    ∃ (negative : Bool) (layout : Layout),
      numeral = String.ofList ((if negative then ['-'] else []) ++ layout.chars) ∧
      floatNumeral negative layout.chars = numeral := by
  obtain ⟨negative, x, regular, rfl⟩ := finite
  obtain ⟨layout, written, read⟩ := exists_layout regular
  rw [written]
  exact ⟨negative, layout, rfl, floatNumeral_of_layout written read negative⟩

theorem isNumber_layout (negative : Bool) (layout : Layout) :
    IsNumber ((if negative then ['-'] else []) ++ layout.chars) := by
  obtain ⟨c, cs, split, digit⟩ := layout.begins
  exact ⟨negative, c, cs, digit, by rw [split]⟩

theorem IsNumeral.number (finite : IsNumeral numeral) : IsNumber numeral.toList := by
  obtain ⟨negative, layout, written, _⟩ := finite.layout
  rw [written, String.toList_ofList]
  exact isNumber_layout negative layout

theorem not_isNumber {c d : Char} {cs : List Char} (first : isAsciiDigit c = false)
    (second : isAsciiDigit d = false) : ¬IsNumber (c :: d :: cs) := by
  rintro ⟨_ | _, _, _, digit, ⟨⟩⟩
  · exact absurd digit (Bool.eq_false_iff.1 first)
  · exact absurd digit (Bool.eq_false_iff.1 second)

theorem IsNumeral.numeralChars (finite : IsNumeral numeral) :
    numeralChars numeral = numeral.toList := by
  have number := finite.number
  unfold Json.numeralChars
  rw [if_neg, if_neg, if_neg]
  · rintro rfl
    exact not_isNumber rfl rfl number
  · rintro rfl
    exact not_isNumber rfl rfl number
  · rintro rfl
    exact not_isNumber rfl rfl number

theorem readLeaf_integer {value : Int} (short : value.natAbs < 10 ^ maxNumeralDigits)
    (ends : Ends rest) :
    Yields (readLeaf ((toString value).toList ++ rest)) (.integer value) rest := by
  have nonempty := Nat.toDigits_ne_nil (n := value.natAbs) (b := 10)
  have all := toDigits_all value.natAbs
  have unpadded (zero : (Nat.toDigits 10 value.natAbs).head? = some '0') :
      Nat.toDigits 10 value.natAbs = ['0'] := by
    rcases Nat.eq_zero_or_pos value.natAbs with none | some
    · rw [none]
      rfl
    · exact absurd zero (head_toDigits some)
  have counted : (Nat.toDigits 10 value.natAbs).length ≤ maxNumeralDigits :=
    (Nat.length_toDigits_le_iff (by decide) (by decide)).2 short
  have read : Yields (readNumber (decide (value < 0)) (Nat.toDigits 10 value.natAbs ++ rest)) _ rest :=
    readNumber_whole nonempty all unpadded counted ends
  rw [Nat.ofDigitChars_ten_toDigits, signed_natAbs] at read
  obtain ⟨c, digits, split⟩ := List.exists_cons_of_ne_nil nonempty
  rw [toList_integer, List.append_assoc]
  rw [split] at read ⊢
  exact read.signed (all c (split ▸ List.mem_cons_self))

theorem readLeaf_float (finite : IsNumeral numeral) (ends : Ends rest) :
    Yields (readLeaf (numeral.toList ++ rest)) (.float numeral) rest := by
  obtain ⟨negative, layout, written, read⟩ := finite.layout
  have yields : Yields (readNumber negative (layout.chars ++ rest)) _ rest := readNumber_layout ends
  rw [read] at yields
  obtain ⟨c, cs, split, digit⟩ := layout.begins
  rw [written, String.toList_ofList, List.append_assoc, ← written]
  rw [split] at yields ⊢
  exact yields.signed digit

end Leaves

section Documents

variable {depth : Nat} {data : Data} {cs rest : List Char} {items : List Data}
  {entries before : Data.Entries}

theorem readValue_empty_list (inside : depth < maxNesting) :
    Yields (readValue depth ('[' :: ']' :: rest)) (.list []) rest := by
  rw [readValue, if_neg (Nat.not_le.2 inside)]
  exact ⟨_, rfl⟩

theorem readValue_empty_mapping (inside : depth < maxNesting) :
    Yields (readValue depth ('\x7b' :: '\x7d' :: rest)) (.mapping []) rest := by
  rw [readValue, if_neg (Nat.not_le.2 inside)]
  exact ⟨_, rfl⟩

theorem Yields.list (inside : depth < maxNesting) (filled : ∀ after, skipSpace cs ≠ ']' :: after)
    (read : Yields (readItems (depth + 1) cs) items rest) :
    Yields (readValue depth ('[' :: cs)) (.list items) rest := by
  rw [readValue, if_neg (Nat.not_le.2 inside)]
  split
  next same => exact absurd same (filled _)
  next => exact read.map _ _

theorem Yields.mapping (inside : depth < maxNesting)
    (filled : ∀ after, skipSpace cs ≠ '\x7d' :: after)
    (read : Yields (readEntries (depth + 1) [] cs) entries rest) :
    Yields (readValue depth ('\x7b' :: cs)) (.mapping entries) rest := by
  rw [readValue, if_neg (Nat.not_le.2 inside)]
  split
  next same => exact absurd same (filled _)
  next => exact read.map _ _

theorem isSpace_number {c : Char} (known : c = '-' ∨ isAsciiDigit c) :
    isSpace c = false ∧ c ≠ ']' ∧ c ≠ '"' ∧ c ≠ '[' ∧ c ≠ '\x7b' := by
  have code : 45 ≤ c.toNat ∧ c.toNat ≤ 57 := by
    rcases known with rfl | digit
    · decide
    · have := isAsciiDigit_iff.1 digit
      omega
  have apart (d : Char) (far : d.toNat < 45 ∨ 57 < d.toNat) : c ≠ d := by
    rintro rfl
    omega
  refine ⟨?_, apart _ (by decide), apart _ (by decide), apart _ (by decide), apart _ (by decide)⟩
  simp only [isSpace, Bool.or_eq_false_iff, beq_eq_false_iff_ne]
  exact ⟨⟨⟨apart _ (by decide), apart _ (by decide)⟩, apart _ (by decide)⟩, apart _ (by decide)⟩

theorem begins_chars (json : IsWritten data) :
    ∃ c cs, chars data = c :: cs ∧ isSpace c = false ∧ c ≠ ']' := by
  cases json with
  | null => exact ⟨'n', _, rfl, rfl, by decide⟩
  | boolean value => cases value <;> exact ⟨_, _, rfl, rfl, by decide⟩
  | integer _ =>
    obtain ⟨c, cs, split, known⟩ := (isNumber_integer _).head
    exact ⟨c, cs, split, (isSpace_number known).1, (isSpace_number known).2.1⟩
  | float known =>
    rcases known with finite | rfl | rfl | rfl
    · obtain ⟨c, cs, split, known⟩ := finite.number.head
      exact ⟨c, cs, finite.numeralChars.trans split, (isSpace_number known).1,
        (isSpace_number known).2.1⟩
    · exact ⟨'N', _, rfl, rfl, by decide⟩
    · exact ⟨'I', _, rfl, rfl, by decide⟩
    · exact ⟨'-', _, rfl, rfl, by decide⟩
  | text value => exact ⟨'"', _, rfl, rfl, by decide⟩
  | list _ => exact ⟨'[', _, rfl, rfl, by decide⟩
  | mapping _ _ => exact ⟨'\x7b', _, rfl, rfl, by decide⟩

theorem skipSpace_chars (json : IsWritten data) (rest : List Char) :
    skipSpace (chars data ++ rest) = chars data ++ rest := by
  obtain ⟨c, cs, split, shown, _⟩ := begins_chars json
  rw [split]
  exact skipSpace_cons c (cs ++ rest) shown

/-- That data is read back at a depth, in front of whatever may follow a value. -/
def ReadsBack (depth : Nat) (data : Data) : Prop :=
  ∀ rest, Ends rest → Yields (readValue depth (chars data ++ rest)) data rest

theorem itemChars_cons (item next : Data) (items : List Data) :
    itemChars (item :: next :: items) = chars item ++ ',' :: ' ' :: itemChars (next :: items) := by
  rw [itemChars]
  exact nofun

theorem begins_itemChars {item : Data} (json : IsWritten item) (items : List Data) :
    ∃ c cs, itemChars (item :: items) = c :: cs ∧ isSpace c = false ∧ c ≠ ']' := by
  obtain ⟨c, cs, split, shown⟩ := begins_chars json
  cases items with
  | nil => exact ⟨c, cs, split, shown⟩
  | cons next items =>
    refine ⟨c, cs ++ ',' :: ' ' :: itemChars (next :: items), ?_, shown⟩
    rw [itemChars_cons, split]
    rfl

theorem skipSpace_itemChars {item : Data} (json : IsWritten item) (items : List Data)
    (rest : List Char) :
    skipSpace (itemChars (item :: items) ++ rest) = itemChars (item :: items) ++ rest := by
  obtain ⟨c, cs, split, shown, _⟩ := begins_itemChars json items
  rw [split]
  exact skipSpace_cons c (cs ++ rest) shown

theorem readItems_itemChars {item : Data} (json : ∀ data ∈ item :: items, IsWritten data)
    (back : ∀ data ∈ item :: items, ReadsBack depth data)
    (skipped : skipSpace cs = itemChars (item :: items) ++ ']' :: rest) :
    Yields (readItems depth cs) (item :: items) rest := by
  induction items generalizing item cs with
  | nil =>
    refine Yields.lastItem ?_
    rw [skipped]
    exact back item (by simp) _ (ends_cons rest (by simp))
  | cons next items ih =>
    obtain ⟨_, jsons⟩ := List.forall_mem_cons.1 json
    obtain ⟨first, others⟩ := List.forall_mem_cons.1 back
    have split : itemChars (item :: next :: items) ++ ']' :: rest =
        chars item ++ ',' :: ' ' :: (itemChars (next :: items) ++ ']' :: rest) := by
      simp [itemChars_cons]
    have read : Yields (readValue depth (skipSpace cs)) item
        (',' :: ' ' :: (itemChars (next :: items) ++ ']' :: rest)) := by
      rw [skipped, split]
      exact first _ (ends_cons _ (by simp))
    refine read.moreItems (ih jsons others ?_)
    rw [skipSpace_space, skipSpace_itemChars (jsons next (by simp))]

theorem put_of_not_mem {key : String} {value : Data} (fresh : key ∉ before.map Prod.fst) :
    Data.put key value before = before ++ [(key, value)] := by
  induction before with
  | nil => rfl
  | cons entry before ih =>
    obtain ⟨apart, fresh⟩ := not_or.1 (mt List.mem_cons.2 fresh)
    rw [Data.put, if_neg (by simpa using Ne.symm apart), ih fresh]
    rfl

theorem entryChars_cons (key : String) (value : Data) (entry : String × Data)
    (entries : Data.Entries) :
    entryChars ((key, value) :: entry :: entries) =
      stringChars key ++ ':' :: ' ' :: chars value ++ ',' :: ' ' :: entryChars (entry :: entries) := by
  rw [entryChars]
  exact nofun

theorem exists_entryChars (entry : String × Data) (entries : Data.Entries) :
    ∃ cs, entryChars (entry :: entries) = '"' :: cs := by
  obtain ⟨key, value⟩ := entry
  cases entries with
  | nil => exact ⟨_, rfl⟩
  | cons next entries => exact ⟨_, entryChars_cons key value next entries⟩

theorem not_mem_of_distinct {key : String} {value : Data}
    (distinct : ((before ++ (key, value) :: entries).map Prod.fst).Nodup) :
    key ∉ before.map Prod.fst := by
  rw [List.map_append] at distinct
  exact fun member => (List.nodup_append.1 distinct).2.2 key member key List.mem_cons_self rfl

theorem readValue_spaced (json : IsWritten data) (back : ReadsBack depth data) (ends : Ends rest) :
    Yields (readValue depth (skipSpace (' ' :: (chars data ++ rest)))) data rest := by
  rw [skipSpace_space, skipSpace_chars json]
  exact back rest ends

theorem readEntries_entryChars {entry : String × Data}
    (json : ∀ other ∈ entry :: entries, IsWritten other.2)
    (back : ∀ other ∈ entry :: entries, ReadsBack depth other.2)
    (distinct : ((before ++ entry :: entries).map Prod.fst).Nodup)
    (skipped : skipSpace cs = entryChars (entry :: entries) ++ '\x7d' :: rest) :
    Yields (readEntries depth before cs) (before ++ entry :: entries) rest := by
  induction entries generalizing entry before cs with
  | nil =>
    obtain ⟨key, value⟩ := entry
    have split : entryChars [(key, value)] ++ '\x7d' :: rest =
        '"' :: (key.toList.flatMap stringChar ++
          '"' :: ':' :: ' ' :: (chars value ++ '\x7d' :: rest)) := by
      simp [entryChars, stringChars]
    have last : Yields (readEntries depth before cs) _ rest :=
      (readString_stringChars key.toList _).lastEntry
        (readValue_spaced (json _ List.mem_cons_self) (back _ List.mem_cons_self)
          (ends_cons rest (by simp)))
        (skipped.trans split)
    rwa [String.ofList_toList, put_of_not_mem (not_mem_of_distinct distinct)] at last
  | cons next entries ih =>
    obtain ⟨key, value⟩ := entry
    have split : entryChars ((key, value) :: next :: entries) ++ '\x7d' :: rest =
        '"' :: (key.toList.flatMap stringChar ++ '"' :: ':' :: ' ' ::
          (chars value ++ ',' :: ' ' :: (entryChars (next :: entries) ++ '\x7d' :: rest))) := by
      simp [entryChars_cons, stringChars]
    have later : Yields (readEntries depth (before ++ [(key, value)])
        (' ' :: (entryChars (next :: entries) ++ '\x7d' :: rest)))
        (before ++ [(key, value)] ++ next :: entries) rest := by
      refine ih (List.forall_mem_cons.1 json).2 (List.forall_mem_cons.1 back).2 ?_ ?_
      · rwa [List.append_assoc]
      · obtain ⟨tail, begins⟩ := exists_entryChars next entries
        rw [skipSpace_space, begins]
        exact skipSpace_cons _ _ rfl
    rw [List.append_cons]
    refine (readString_stringChars key.toList _).moreEntries
      (readValue_spaced (json _ List.mem_cons_self) (back _ List.mem_cons_self)
        (ends_cons _ (by simp))) ?_ (skipped.trans split)
    rwa [String.ofList_toList, put_of_not_mem (not_mem_of_distinct distinct)]

theorem height_le_of_mem {items : List Data} (member : data ∈ items) :
    data.height ≤ Data.heightOfItems items := by
  induction member with
  | head => exact Nat.le_max_left _ _
  | tail _ _ ih => exact ih.trans (Nat.le_max_right _ _)

theorem height_le_of_mem_entries {entry : String × Data} (member : entry ∈ entries) :
    entry.2.height ≤ Data.heightOfEntries entries := by
  induction member with
  | head => exact Nat.le_max_left _ _
  | tail _ _ ih => exact ih.trans (Nat.le_max_right _ _)

theorem readsBack_leaf {c : Char} (written : chars data = c :: cs) (quote : c ≠ '"')
    (bracket : c ≠ '[') (brace : c ≠ '\x7b')
    (read : ∀ rest, Ends rest → Yields (readLeaf (chars data ++ rest)) data rest) :
    ReadsBack depth data := by
  intro rest ends
  have leaf := read rest ends
  rw [written] at leaf ⊢
  rw [List.cons_append, readValue_leaf quote bracket brace]
  exact leaf

theorem readsBack_number (number : IsNumber (chars data))
    (read : ∀ rest, Ends rest → Yields (readLeaf (chars data ++ rest)) data rest) :
    ReadsBack depth data := by
  obtain ⟨c, cs, written, known⟩ := number.head
  obtain ⟨_, _, quote, bracket, brace⟩ := isSpace_number known
  exact readsBack_leaf written quote bracket brace read

theorem readsBack_list (json : ∀ item ∈ items, IsWritten item)
    (back : ∀ item ∈ items, ReadsBack (depth + 1) item) (inside : depth < maxNesting) :
    ReadsBack depth (.list items) := by
  intro rest ends
  cases items with
  | nil => exact readValue_empty_list inside
  | cons item items =>
    have begins := skipSpace_itemChars (json item List.mem_cons_self) items (']' :: rest)
    have filled (after : List Char) :
        skipSpace (itemChars (item :: items) ++ ']' :: rest) ≠ ']' :: after := by
      obtain ⟨c, cs, split, _, filled⟩ := begins_itemChars (json item List.mem_cons_self) items
      rw [begins, split]
      exact fun same => filled (List.cons.inj same).1
    change Yields (readValue depth ('[' :: (itemChars (item :: items) ++ [']'] ++ rest))) _ _
    rw [List.append_assoc]
    exact (readItems_itemChars json back begins).list inside filled

theorem readsBack_mapping (distinct : (entries.map Prod.fst).Nodup)
    (json : ∀ entry ∈ entries, IsWritten entry.2)
    (back : ∀ entry ∈ entries, ReadsBack (depth + 1) entry.2) (inside : depth < maxNesting) :
    ReadsBack depth (.mapping entries) := by
  intro rest ends
  cases entries with
  | nil => exact readValue_empty_mapping inside
  | cons entry entries =>
    obtain ⟨cs, split⟩ := exists_entryChars entry entries
    have begins : skipSpace (entryChars (entry :: entries) ++ '\x7d' :: rest) =
        entryChars (entry :: entries) ++ '\x7d' :: rest := by
      rw [split]
      exact skipSpace_cons _ _ rfl
    have filled (after : List Char) :
        skipSpace (entryChars (entry :: entries) ++ '\x7d' :: rest) ≠ '\x7d' :: after := by
      rw [begins, split]
      exact fun same => absurd (List.cons.inj same).1 (by decide)
    change Yields (readValue depth ('\x7b' :: (entryChars (entry :: entries) ++ ['\x7d'] ++ rest)))
      _ _
    rw [List.append_assoc]
    exact (readEntries_entryChars json back distinct begins).mapping inside filled

theorem readsBack (json : IsWritten data) (shallow : depth + data.height ≤ maxNesting) :
    ReadsBack depth data := by
  induction json generalizing depth with
  | null =>
    exact readsBack_leaf rfl (by decide) (by decide) (by decide) fun _ _ => ⟨_, rfl⟩
  | boolean value =>
    cases value <;>
      exact readsBack_leaf rfl (by decide) (by decide) (by decide) fun _ _ => ⟨_, rfl⟩
  | @integer value short =>
    exact readsBack_number (isNumber_integer value) fun _ ends => readLeaf_integer short ends
  | @float numeral known =>
    rcases known with finite | named
    · have written : chars (.float numeral) = numeral.toList := finite.numeralChars
      refine readsBack_number ?_ fun rest ends => ?_
      · rw [written]
        exact finite.number
      · rw [written]
        exact readLeaf_float finite ends
    · rcases named with rfl | rfl | rfl <;>
        exact readsBack_leaf rfl (by decide) (by decide) (by decide) fun _ _ => ⟨_, rfl⟩
  | text value => exact fun rest _ => readValue_text value rest
  | list all ih =>
    rw [Data.height] at shallow
    refine readsBack_list all (fun item member => ih item member ?_) (by omega)
    have := height_le_of_mem member
    omega
  | mapping distinct all ih =>
    rw [Data.height] at shallow
    refine readsBack_mapping distinct all (fun entry member => ih entry member ?_) (by omega)
    have := height_le_of_mem_entries member
    omega

theorem read_chars (json : IsWritten data) (shallow : data.height ≤ maxNesting) :
    read (chars data) = .ok data := by
  have back : ReadsBack 0 data := readsBack json (by omega)
  have yields := back [] ends_nil
  have shown := skipSpace_chars json []
  rw [List.append_nil] at yields shown
  rw [← shown] at yields
  obtain ⟨_, read⟩ := yields
  rw [Json.read, read]
  rfl

end Documents

section Writable

open FormulaGrid.Data

variable {data : Data} {items : List Data} {entries : Data.Entries}

theorem isWritable_integer {value : Int} :
    isWritable (.integer value) ↔ value.natAbs < 10 ^ maxNumeralDigits := by
  rw [isWritable, decide_eq_true_iff, Nat.pow_eq]

theorem areWritableItems_iff : areWritableItems items ↔ ∀ item ∈ items, isWritable item := by
  induction items with
  | nil => simp [areWritableItems]
  | cons item items ih => rw [areWritableItems, Bool.and_eq_true, ih, List.forall_mem_cons]

theorem areWritableEntries_iff :
    areWritableEntries entries ↔ ∀ entry ∈ entries, isWritable entry.2 := by
  induction entries with
  | nil => simp [areWritableEntries]
  | cons entry entries ih => rw [areWritableEntries, Bool.and_eq_true, ih, List.forall_mem_cons]

theorem isWritable_mapping :
    isWritable (.mapping entries) ↔ ∀ entry ∈ entries, isWritable entry.2 := by
  rw [isWritable, areWritableEntries_iff]

theorem IsWritten.writable (json : IsWritten data) : isWritable data := by
  induction json with
  | null | boolean | float | text => rfl
  | integer short => exact isWritable_integer.2 short
  | list _ ih =>
    rw [isWritable, areWritableItems_iff]
    exact ih
  | mapping _ _ ih => exact isWritable_mapping.2 ih

end Writable

end FormulaGrid.Json
