import FormulaGrid.Log.Store
import Mathlib.Data.List.Basic
import Mathlib.Data.List.Flatten

/-! Lines in the bytes of a log. Where each line consists of other ASCII characters, splitting the
bytes gives the lines back, and what is left of the bytes after a cut anywhere is whole lines. -/
namespace FormulaGrid.Log

open FormulaGrid.Text

section Encoding

variable {c : Char} {cs : List Char}

theorem toList_loop (bytes : ByteArray) (i : Nat) (read : List UInt8) :
    ByteArray.toList.loop bytes i read = read.reverse ++ bytes.data.toList.drop i := by
  fun_induction ByteArray.toList.loop bytes i read with
  | case1 i read inside ih =>
    have inside : i < bytes.data.toList.length := inside
    have byte : bytes.get! i = bytes.data.toList[i] := by
      change bytes.data[i]! = _
      simp at inside
      simp [inside]
    rw [ih, List.drop_eq_getElem_cons inside, byte]
    simp
  | case2 i read outside =>
    have outside : bytes.data.toList.length ≤ i := Nat.le_of_not_lt outside
    rw [List.drop_eq_nil_of_le outside, List.append_nil]

theorem encodeUtf8_ofList (cs : List Char) :
    encodeUtf8 (String.ofList cs) = cs.flatMap String.utf8EncodeChar := by
  rw [encodeUtf8, String.toUTF8_eq_toByteArray, String.toByteArray_ofList, List.utf8Encode,
    ByteArray.toList, toList_loop, List.toList_data_toByteArray]
  rfl

def asciiByte (c : Char) : UInt8 :=
  UInt8.ofNat c.toNat

theorem toNat_asciiByte (ascii : c.toNat < 0x80) : (asciiByte c).toNat = c.toNat :=
  Nat.mod_eq_of_lt (by omega)

theorem encodeUtf8_ascii (ascii : ∀ c ∈ cs, c.toNat < 0x80) :
    encodeUtf8 (String.ofList cs) = cs.map asciiByte := by
  rw [encodeUtf8_ofList, List.map_eq_flatMap]
  refine List.flatMap_congr fun c member => ?_
  have short : c.val.toNat ≤ 0x7F := Nat.le_of_lt_succ (ascii c member)
  exact if_pos short

theorem decodeUtf8_ascii (ascii : ∀ c ∈ cs, c.toNat < 0x80) :
    decodeUtf8 (cs.map asciiByte) = cs := by
  induction cs with
  | nil => rfl
  | cons c cs ih =>
    obtain ⟨short, others⟩ := List.forall_mem_cons.1 ascii
    have lead : leadByte (asciiByte c).toNat = ([c], none) := by
      rw [toNat_asciiByte short, leadByte, if_pos short, Char.ofNat_toNat]
    have rest : decodeFrom none (cs.map asciiByte) = cs := ih others
    rw [List.map_cons, decodeUtf8, decodeFrom, lead]
    dsimp only
    rw [rest]
    rfl

end Encoding

section Cutting

variable {frames : List (List UInt8)} {tailBytes : Int}

/-- The bytes of one line, whose end is the only line feed in them. -/
def IsFrame (bytes : List UInt8) : Prop :=
  ∃ body, 10 ∉ body ∧ bytes = body ++ [10]

theorem afterFirstLine_frame {body : List UInt8} (inside : 10 ∉ body) (rest : List UInt8) :
    afterFirstLine (body ++ 10 :: rest) = rest := by
  have all : ∀ byte ∈ body, (byte != 10) = true := fun byte member =>
    bne_iff_ne.2 fun same => inside (same ▸ member)
  rw [afterFirstLine, List.dropWhile_append_of_pos all]
  rfl

theorem afterFirstLine_drop (each : ∀ frame ∈ frames, IsFrame frame) (n : Nat) :
    ∃ m ≤ frames.length, afterFirstLine (frames.flatten.drop n) = (frames.drop m).flatten ∧
      ∀ j < m, (frames.take j).flatten.length ≤ n := by
  induction frames generalizing n with
  | nil => exact ⟨0, Nat.le_refl _, by simp [afterFirstLine], nofun⟩
  | cons frame frames ih =>
    obtain ⟨⟨body, inside, rfl⟩, others⟩ := List.forall_mem_cons.1 each
    rw [List.flatten_cons]
    by_cases early : n < (body ++ [10]).length
    · have within : n ≤ body.length := by
        rw [List.length_append] at early
        exact Nat.le_of_lt_succ early
      refine ⟨1, by simp, ?_, fun j first => ?_⟩
      · rw [List.append_assoc, List.drop_append_of_le_length within]
        exact afterFirstLine_frame (fun member => inside (List.mem_of_mem_drop member)) _
      · rw [Nat.lt_one_iff.1 first]
        exact Nat.zero_le n
    · have late := Nat.le_of_not_lt early
      obtain ⟨m, most, after, begun⟩ := ih others (n - (body ++ [10]).length)
      refine ⟨m + 1, Nat.succ_le_succ most, ?_, fun j before => ?_⟩
      · rw [List.drop_append, List.drop_eq_nil_of_le late]
        exact after
      · cases j with
        | zero => exact Nat.zero_le n
        | succ j =>
          have := begun j (Nat.lt_of_succ_lt_succ before)
          rw [List.take_succ_cons, List.flatten_cons, List.length_append]
          omega

theorem length_afterFirstLine_lt {bytes : List UInt8} (filled : bytes ≠ []) :
    (afterFirstLine bytes).length < bytes.length := by
  obtain ⟨byte, bytes, rfl⟩ := List.exists_cons_of_ne_nil filled
  have dropped := (List.dropWhile_sublist (l := byte :: bytes) (· != 10)).length_le
  rw [afterFirstLine, List.length_drop]
  simp only [List.length_cons] at *
  omega

/-- Of a log that is longer than what is looked at, the byte behind the cut is dropped in any case,
even where a line begins with it. -/
theorem length_tail_lt {bytes : List UInt8} (positive : 0 < tailBytes)
    (long : ¬(bytes.length : Int) ≤ tailBytes) : ((tail tailBytes bytes).length : Int) < tailBytes := by
  have filled : bytes.drop (bytes.length - tailBytes.toNat) ≠ [] := by
    rw [Ne, List.drop_eq_nil_iff]
    omega
  have shorter := length_afterFirstLine_lt filled
  rw [List.length_drop] at shorter
  rw [tail, if_neg long]
  omega

/-- Reading looks at the last lines, at each of them whole: at all where they fit, and otherwise at
those that take fewer bytes than are looked at. -/
theorem tail_frames (each : ∀ frame ∈ frames, IsFrame frame) (positive : 0 < tailBytes) :
    ∃ m ≤ frames.length, tail tailBytes frames.flatten = (frames.drop m).flatten ∧
      ∀ j ≤ frames.length, m ≤ j ↔ (frames.flatten.length : Int) ≤ tailBytes ∨
        ((frames.drop j).flatten.length : Int) < tailBytes := by
  by_cases fits : (frames.flatten.length : Int) ≤ tailBytes
  · exact ⟨0, Nat.zero_le _, if_pos fits, fun j _ => iff_of_true (Nat.zero_le j) (.inl fits)⟩
  · obtain ⟨m, most, after, begun⟩ :=
      afterFirstLine_drop each (frames.flatten.length - tailBytes.toNat)
    have cut : tail tailBytes frames.flatten = (frames.drop m).flatten := (if_neg fits).trans after
    refine ⟨m, most, cut, fun j inside => ⟨fun later => .inr ?_, fun short => ?_⟩⟩
    · have dropped := length_tail_lt positive fits
      have fewer := (frames.drop_sublist_drop_left later).flatten.length_le
      rw [cut] at dropped
      omega
    · have short := short.resolve_left fits
      refine Nat.le_of_not_lt fun before => ?_
      have early := begun j before
      have whole := congrArg List.length (congrArg List.flatten (List.take_append_drop j frames))
      rw [List.flatten_append, List.length_append] at whole
      omega

end Cutting

section Splitting

theorem lines_run {run rest : List Char} {e : Char} (plain : ∀ c ∈ run, isLineEnd c = false)
    (ends : isLineEnd e) : lines (run ++ e :: rest) = run :: lines (afterLineEnd (e :: rest)) := by
  have all : ∀ c ∈ run, (!isLineEnd c) = true := fun c member => by rw [plain c member]; rfl
  have taken : (run ++ e :: rest).takeWhile (!isLineEnd ·) = run := by
    rw [List.takeWhile_append_of_pos all, List.takeWhile_cons_of_neg (by simp [ends]),
      List.append_nil]
  have dropped : (run ++ e :: rest).dropWhile (!isLineEnd ·) = e :: rest := by
    rw [List.dropWhile_append_of_pos all, List.dropWhile_cons_of_neg (by simp [ends])]
  obtain ⟨c, cs, split⟩ := List.exists_cons_of_ne_nil (show run ++ e :: rest ≠ [] by simp)
  rw [split, lines, ← split, taken, dropped]

theorem lines_cons {line rest : List Char} (plain : ∀ c ∈ line, isLineEnd c = false) :
    lines (line ++ '\n' :: rest) = line :: lines rest :=
  lines_run plain rfl

theorem lines_framed {texts : List (List Char)}
    (plain : ∀ line ∈ texts, ∀ c ∈ line, isLineEnd c = false) :
    lines (texts.flatMap (· ++ ['\n'])) = texts := by
  induction texts with
  | nil => rw [List.flatMap_nil, lines]
  | cons line texts ih =>
    obtain ⟨first, others⟩ := List.forall_mem_cons.1 plain
    rw [List.flatMap_cons, List.append_assoc, List.singleton_append, lines_cons first, ih others]

end Splitting

end FormulaGrid.Log
