import Mathlib.Algebra.Order.BigOperators.Group.List
import StubMachine.Proofs.Bytecode.Writing

/-!
# Walking through texts

The reader of texts looks at leading bytes only.  Each of them tells how many bytes there are before
the next one, and whatever they are, they are taken for its continuation; at the end of a file some
of them may be missing.  So **bytes fall into sequences of one to four** (`sequences`), and to read
a text of `n` characters is to take the first `n` of these (`readText_eq`).

That fails if there are fewer, and for no other reason.  In particular the reader never leaves the
file, and **a text that stands there as UTF-8 is read from its bytes and no others**
(`text_reader_walks`).
-/

namespace StubMachine.Record

/-! ## The sequences that bytes fall into -/

/-- A leading byte, and what is there of the bytes that it asks for. -/
structure Sequence where
  lead : UInt8
  more : List UInt8

namespace Sequence

def bytes (s : Sequence) : List UInt8 := s.lead :: s.more

/-- The character that is read from the bytes, with zeros in place of those that are missing. -/
def char (s : Sequence) : Char :=
  charOf (CharSpelling.extend (leadPart s.lead).1
    (s.more ++ List.replicate ((leadPart s.lead).2 - s.more.length) 0))

end Sequence

/-- **The sequences that bytes fall into**, each as long as its leading byte asks for. -/
def sequences : List UInt8 → List Sequence
  | [] => []
  | lead :: rest =>
    ⟨lead, rest.take (leadPart lead).2⟩ :: sequences (rest.drop (leadPart lead).2)
termination_by bytes => bytes.length
decreasing_by
  rw [List.length_drop, List.length_cons]
  omega

/-- The first `n` sequences. -/
def front (n : Nat) (bytes : List UInt8) : List Sequence := (sequences bytes).take n

/-- The bytes of the first `n` sequences. -/
def frontBytes (n : Nat) (bytes : List UInt8) : List UInt8 := (front n bytes).flatMap Sequence.bytes

/-- No leading byte asks for more than three others. -/
theorem leadPart_le (lead : UInt8) : (leadPart lead).2 ≤ 3 := by
  unfold leadPart
  repeat' split
  all_goals simp

/-- A sequence has one to four bytes. -/
theorem length_of_mem_sequences {bytes : List UInt8} {s : Sequence} (mem : s ∈ sequences bytes) :
    1 ≤ s.bytes.length ∧ s.bytes.length ≤ 4 := by
  fun_induction sequences bytes with
  | case1 => cases mem
  | case2 lead rest ih =>
    rcases List.mem_cons.mp mem with rfl | later
    · have asked := leadPart_le lead
      simp only [Sequence.bytes, List.length_cons, List.length_take]
      omega
    · exact ih later

/-- The sequences have all of the bytes, in order. -/
theorem flatMap_sequences (bytes : List UInt8) : (sequences bytes).flatMap Sequence.bytes = bytes := by
  fun_induction sequences bytes with
  | case1 => rfl
  | case2 lead rest ih =>
    rw [List.flatMap_cons, ih, Sequence.bytes, List.cons_append, List.take_append_drop]

theorem frontBytes_leading (n : Nat) (bytes : List UInt8) : frontBytes n bytes <+: bytes := by
  conv => rhs; rw [← flatMap_sequences bytes, ← List.take_append_drop n (sequences bytes)]
  rw [List.flatMap_append]
  exact List.prefix_append _ _

/-- **`n` sequences have `n` to `4 * n` bytes.** -/
theorem length_frontBytes {n : Nat} {bytes : List UInt8} (enough : n ≤ (sequences bytes).length) :
    n ≤ (frontBytes n bytes).length ∧ (frontBytes n bytes).length ≤ 4 * n := by
  have each : ∀ k ∈ (front n bytes).map fun s => s.bytes.length, 1 ≤ k ∧ k ≤ 4 := by
    intro k mem
    obtain ⟨s, taken, rfl⟩ := List.mem_map.mp mem
    exact length_of_mem_sequences (List.mem_of_mem_take taken)
  have number : ((front n bytes).map fun s => s.bytes.length).length = n := by
    rw [List.length_map]
    exact List.length_take_of_le enough
  have least := List.card_nsmul_le_sum _ 1 fun k mem => (each k mem).1
  have most := List.sum_le_card_nsmul _ 4 fun k mem => (each k mem).2
  rw [number, smul_eq_mul] at least most
  rw [frontBytes, List.length_flatMap]
  omega

theorem front_succ {bytes later : List UInt8} {s : Sequence} (n : Nat)
    (cut : sequences bytes = s :: sequences later) :
    front (n + 1) bytes = s :: front n later ∧
      frontBytes (n + 1) bytes = s.bytes ++ frontBytes n later := by
  have first : front (n + 1) bytes = s :: front n later := by
    rw [front, cut, List.take_succ_cons, front]
  refine ⟨first, ?_⟩
  rw [frontBytes, first, List.flatMap_cons, frontBytes]

/-! ## Reading sequences -/

/-- **What is left of a file starts with a sequence, and one character is read from it.** -/
theorem exists_sequence (lead : UInt8) (rest : List UInt8) :
    ∃ s later, sequences (lead :: rest) = s :: sequences later ∧ lead :: rest = s.bytes ++ later ∧
      ∀ offset, readChar ⟨offset, lead :: rest⟩ =
        .ok (s.char, ⟨offset + s.bytes.length, later⟩) := by
  refine ⟨⟨lead, rest.take (leadPart lead).2⟩, rest.drop (leadPart lead).2, by rw [sequences], ?_, ?_⟩
  · rw [Sequence.bytes, List.cons_append, List.take_append_drop]
  · intro offset
    rw [readChar_eq, Sequence.bytes, List.length_cons, Nat.add_assoc, Nat.add_comm 1]
    rfl

/-- **`n` characters are `n` sequences.**  If there are fewer, the reader fails at the end of the
file. -/
theorem readTimes_readChar (n : Nat) (done : Array Char) (offset : Nat) (bytes : List UInt8) :
    readTimes readChar n done ⟨offset, bytes⟩ =
      if n ≤ (sequences bytes).length then
        .ok (done ++ ((front n bytes).map Sequence.char).toArray,
          ⟨offset + (frontBytes n bytes).length, bytes.drop (frontBytes n bytes).length⟩)
      else .error (.missingByte (offset + bytes.length)) := by
  induction n generalizing done offset bytes with
  | zero => simp [readTimes, front, frontBytes]
  | succ n ih =>
    cases bytes with
    | nil => simp [readTimes, readChar, readByte, sequences]
    | cons lead rest =>
      obtain ⟨s, later, cut, whole, first⟩ := exists_sequence lead rest
      obtain ⟨front, frontBytes⟩ := front_succ n cut
      -- one character takes the first sequence off, and the others are those of what is left
      have step : readTimes readChar (n + 1) done ⟨offset, lead :: rest⟩ =
          readTimes readChar n (done.push s.char) ⟨offset + s.bytes.length, later⟩ := by
        simp only [readTimes, first]
      rw [step, ih, cut, front, frontBytes, whole, List.length_append, List.drop_length_add_append]
      simp [Nat.add_assoc]

/-! ## Texts -/

/-- A place in a file. -/
def place (bytes : List UInt8) (offset : Nat) : Cursor := ⟨offset, bytes.drop offset⟩

/-- What is read as a count of four bytes. -/
theorem readNumber_place {bytes : List UInt8} {start n : Nat} {c : Cursor}
    (counted : readNumber 4 (place bytes start) = .ok (n, c)) :
    c = place bytes (start + 4) ∧ start + 4 ≤ bytes.length ∧ n < capacity 4 ∧
      bytes.drop start = bytesOf 4 n ++ bytes.drop (start + 4) := by
  obtain ⟨small, spelled⟩ := readNumber_eq_ok counted
  simp only [readNumber] at counted
  split at counted
  next full =>
    obtain ⟨-, rfl⟩ := Prod.mk.inj (Except.ok.inj counted)
    have inside : start + 4 ≤ bytes.length := by
      rw [place, List.length_take, List.length_drop] at full
      omega
    have rest : (bytes.drop start).drop 4 = bytes.drop (start + 4) := List.drop_drop
    refine ⟨congrArg (Cursor.mk (start + 4)) rest, inside, small, ?_⟩
    rw [← rest]
    exact spelled
  next => cases counted

section
variable {bytes : List UInt8} {start n : Nat} {c : Cursor}

/-- **Reading a text takes as many sequences as it counts characters.** -/
theorem readText_eq (counted : readNumber 4 (place bytes start) = .ok (n, c)) :
    readText (place bytes start) =
      if n ≤ (sequences (bytes.drop (start + 4))).length then
        .ok (String.ofList ((front n (bytes.drop (start + 4))).map Sequence.char),
          place bytes (start + 4 + (frontBytes n (bytes.drop (start + 4))).length))
      else .error (.missingByte bytes.length) := by
  obtain ⟨rfl, inside, -⟩ := readNumber_place counted
  have chars := readTimes_readChar n #[] (start + 4) (bytes.drop (start + 4))
  have last : start + 4 + (bytes.drop (start + 4)).length = bytes.length := by
    rw [List.length_drop]
    omega
  rw [last, List.drop_drop] at chars
  show Except.bind (readNumber 4 (place bytes start)) _ = _
  rw [counted]
  show Except.bind (readTimes readChar n #[] (place bytes (start + 4))) _ = _
  rw [place, chars]
  split
  next => simp [Except.bind, place, pure, StateT.pure, Except.pure]
  next => rfl

/-- **UTF-8 is read back**, and nothing after it is looked at. -/
theorem readText_utf8 (counted : readNumber 4 (place bytes start) = .ok (n, c)) {s : String}
    (length : s.length = n) (stands : s.toUTF8.data.toList <+: bytes.drop (start + 4)) :
    readText (place bytes start) = .ok (s, place bytes (start + 4 + s.utf8ByteSize)) := by
  obtain ⟨rfl, inside, small, spelled⟩ := readNumber_place counted
  obtain ⟨rest, follows⟩ := stands
  have written : textBytes s = .ok (bytesOf 4 n ++ s.toUTF8.data.toList) := by
    have count : countBytes 4 s.length .countTooLarge = .ok (bytesOf 4 n) :=
      countBytes_eq_ok.mpr ⟨length ▸ small, by rw [length]⟩
    exact bind_written.mpr ⟨_, count, rfl⟩
  obtain ⟨t, standard, rfl, -⟩ := textBytes_spelled written
  have size : t.bytes.length = 4 + t.text.utf8ByteSize := by
    rw [standard, List.length_append, length_bytesOf]
    rfl
  have read := readText_reads t start rest
  rw [standard, List.append_assoc, follows, ← spelled, ← standard, size, ← Nat.add_assoc] at read
  have left : rest = bytes.drop (start + 4 + t.text.utf8ByteSize) := by
    rw [← List.drop_drop, ← follows]
    exact (List.drop_left' rfl).symm
  rw [left] at read
  exact read

end

/-- **The reader of texts is well behaved on all bytes.**  Wherever a count can be read, it fails
exactly if fewer sequences follow than are counted, at the end of the file.  Otherwise it gives the
characters of as many sequences, and stops after their bytes, one to four for each, within the file.
If UTF-8 of a text of that many characters follows, it gives that text and stops right after it,
whatever comes next. -/
theorem text_reader_walks {bytes : List UInt8} {start n : Nat} {c : Cursor}
    (counted : readNumber 4 (place bytes start) = .ok (n, c)) :
    ((∃ fault, readText (place bytes start) = .error fault) ↔
      (sequences (bytes.drop (start + 4))).length < n) ∧
    ((sequences (bytes.drop (start + 4))).length < n →
      readText (place bytes start) = .error (.missingByte bytes.length)) ∧
    (n ≤ (sequences (bytes.drop (start + 4))).length → ∃ s k,
      readText (place bytes start) = .ok (s, place bytes (start + 4 + k)) ∧ s.length = n ∧
      s.toList = (front n (bytes.drop (start + 4))).map Sequence.char ∧
      k = (frontBytes n (bytes.drop (start + 4))).length ∧
      n ≤ k ∧ k ≤ 4 * n ∧ start + 4 + k ≤ bytes.length) ∧
    ∀ s : String, s.length = n → s.toUTF8.data.toList <+: bytes.drop (start + 4) →
      readText (place bytes start) = .ok (s, place bytes (start + 4 + s.utf8ByteSize)) := by
  have read := readText_eq counted
  obtain ⟨-, inside, -⟩ := readNumber_place counted
  refine ⟨⟨?fewer, ?fails⟩, ?last, ?enough, fun s length stands => readText_utf8 counted length stands⟩
  case fewer =>
    rintro ⟨fault, failed⟩
    by_contra all
    rw [read, if_pos (Nat.le_of_not_lt all)] at failed
    cases failed
  case fails => exact fun few => ⟨_, by rw [read, if_neg (Nat.not_le_of_lt few)]⟩
  case last => exact fun few => by rw [read, if_neg (Nat.not_le_of_lt few)]
  case enough =>
    intro enough
    obtain ⟨least, most⟩ := length_frontBytes enough
    have within := (frontBytes_leading n (bytes.drop (start + 4))).length_le
    rw [List.length_drop] at within
    refine ⟨_, _, by rw [read, if_pos enough], ?_, String.toList_ofList, rfl, least, most, by omega⟩
    rw [String.length_ofList, List.length_map]
    exact List.length_take_of_le enough

/-- Behind a byte that is not looked at, a count of five and a stray continuation byte, an overlong
`A`, a surrogate, a code point past the last, and a character that the end of the file cuts short. -/
def battered : List UInt8 :=
  [0x07, 5, 0, 0, 0, 0x80, 0xc1, 0x81, 0xed, 0xa0, 0x80, 0xf7, 0xbf, 0xbf, 0xbf, 0xe2, 0x82]

/-- All of it is read, and a sixth character is not. -/
theorem text_reader_walks_battered :
    (∃ s, readText (place battered 1) = .ok (s, place battered 17) ∧
      s.toList = ['\u0080', 'A', '\ufffd', '\ufffd', '₀']) ∧
    readText (place (battered.set 1 6) 1) = .error (.missingByte 17) := by
  have counted : readNumber 4 (place battered 1) = .ok (5, place battered 5) := rfl
  have counted' : readNumber 4 (place (battered.set 1 6) 1) =
    .ok (6, place (battered.set 1 6) 5) := rfl
  have five : (sequences (battered.drop 5)).length = 5 := by decide +kernel
  obtain ⟨-, -, enough, -⟩ := text_reader_walks counted
  obtain ⟨-, fewer, -⟩ := text_reader_walks counted'
  obtain ⟨s, k, read, -, chars, taken, -⟩ := enough five.ge
  have all : (frontBytes 5 (battered.drop 5)).length = 12 := by decide +kernel
  have characters : (front 5 (battered.drop 5)).map Sequence.char =
    ['\u0080', 'A', '\ufffd', '\ufffd', '₀'] := by decide +kernel
  rw [taken, all] at read
  refine ⟨⟨s, read, chars.trans characters⟩, fewer ?_⟩
  have same : (battered.set 1 6).drop 5 = battered.drop 5 := rfl
  show (sequences ((battered.set 1 6).drop 5)).length < 6
  rw [same, five]
  decide

end StubMachine.Record
