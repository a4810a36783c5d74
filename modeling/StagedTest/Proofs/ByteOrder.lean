import Mathlib.Tactic.SplitIfs

/-!
# The order of texts and the order of bytes

Maps are listed in the order of their keys, which is taken character by character. Other programs
compare texts by the bytes that they are written with. The main statement is that a text which
comes before another one does so in its bytes, too, so both list the same keys in the same order.
-/
namespace StagedTest.Text

/-- The bytes that a text is written with. -/
def bytes (text : String) : List UInt8 := text.toUTF8.data.toList

/-- The bytes of a text are those of its characters, one after the other. -/
theorem bytes_eq (text : String) : bytes text = text.toList.flatMap String.utf8EncodeChar := by
  have whole : text.toUTF8 = text.toList.utf8Encode := String.utf8Encode_toList.symm
  rw [bytes, whole, List.utf8Encode, List.toList_data_toByteArray]

/-- Of two numbers that fit into a byte, the bytes are the same exactly if the numbers are. -/
theorem byte_eq_iff {first second : Nat} (small : first < UInt8.size)
    (other : second < UInt8.size) :
    UInt8.ofNat first = UInt8.ofNat second ↔ first = second := by
  rw [← UInt8.toNat_inj, UInt8.toNat_ofNat_of_lt' small, UInt8.toNat_ofNat_of_lt' other]

/-- A character that comes before another one does so in its bytes, whatever follows. -/
theorem utf8EncodeChar_lt {first second : Char} (before : first < second)
    (rest rest' : List UInt8) :
    String.utf8EncodeChar first ++ rest < String.utf8EncodeChar second ++ rest' := by
  have lower : first.val.toNat < second.val.toNat := before
  have bound : second.val.toNat < 0x110000 := by
    rcases second.valid with low | ⟨_, high⟩
    · exact Nat.lt_trans low (by decide)
    · exact high
  have size : UInt8.size = 256 := rfl
  rw [String.utf8EncodeChar, String.utf8EncodeChar]
  generalize first.val.toNat = low at *
  generalize second.val.toNat = high at *
  -- The first two of four bytes hold what is left of a number without its last twelve bits.
  have halves : low / 4096 < high / 4096 ∨
      low / 4096 = high / 4096 ∧ low % 4096 < high % 4096 := by omega
  split_ifs <;>
    simp (disch := omega) only [List.cons_append, List.nil_append, List.cons_lt_cons_iff,
      UInt8.ofNat_lt_iff_lt, byte_eq_iff] <;>
    rcases halves with leading | trailing <;> omega

/-- A text that comes before another one does so in its bytes. -/
theorem bytes_lt {first second : String} (before : first < second) :
    bytes first < bytes second := by
  rw [bytes_eq, bytes_eq]
  have before : first.toList < second.toList := before
  generalize first.toList = first, second.toList = second at before
  -- Either one is a beginning of the other, or both have a beginning in common and then differ.
  induction before with
  | nil =>
    rename_i character rest
    obtain ⟨byte, others, written⟩ :=
      List.exists_cons_of_ne_nil (String.utf8EncodeChar_ne_nil (c := character))
    rw [List.flatMap_nil, List.flatMap_cons, written]
    exact List.nil_lt_cons ..
  | cons _ ih =>
    rw [List.flatMap_cons, List.flatMap_cons]
    exact List.append_left_lt ih
  | rel below =>
    rw [List.flatMap_cons, List.flatMap_cons]
    exact utf8EncodeChar_lt below _ _

end StagedTest.Text
