import StubMachine.Proofs.Bytecode.Reading

/-!
# Where records end

A record tells by itself where it ends, and what comes after it plays no part in how it
is read.  So **files can be put together and taken apart at the ends of records**, and
nowhere else: a file that is cut anywhere within a record is refused.

The reader of characters is lenient at the end of a file, where it takes continuation
bytes that are missing for zeros.  A record that is cut within a text could therefore get
past its texts.  It does not get past what has to follow them.
-/

namespace StubMachine.Record

/-- Records that are read one after the other, from one place in a file to another. -/
inductive ReadsAlong (file : UInt32) : Cursor → List Stub → Cursor → Prop
  | nil (c : Cursor) : ReadsAlong file c [] c
  | cons {c c₁ c' : Cursor} {s : Stub} {ss : List Stub} :
      readStub file c = .ok (s, c₁) → ReadsAlong file c₁ ss c' → ReadsAlong file c (s :: ss) c'

section Files
variable {file : UInt32}

/-- **What reading along comes to.** -/
theorem readsAlong_iff {c c' : Cursor} {ss : List Stub} :
    ReadsAlong file c ss c' ↔
      ∃ rs : List Spelling, c.rest = rs.flatMap Spelling.bytes ++ c'.rest ∧
        c'.offset = c.offset + (rs.flatMap Spelling.bytes).length ∧
        ss = rs.map (Spelling.stub file) := by
  constructor
  · intro along
    induction along with
    | nil c => exact ⟨[], rfl, rfl, rfl⟩
    | cons first _ ih =>
      obtain ⟨r, front, offset, rfl⟩ := readStub_eq_ok_iff.mp first
      obtain ⟨rs, rest, offset', rfl⟩ := ih
      refine ⟨r :: rs, ?_, ?_, rfl⟩
      · rw [front, rest, List.flatMap_cons, List.append_assoc]
      · rw [offset', offset, List.flatMap_cons, List.length_append, Nat.add_assoc]
  · rintro ⟨rs, front, offset, rfl⟩
    induction rs generalizing c with
    | nil =>
      obtain ⟨at_, rest⟩ := c
      obtain ⟨at', rest'⟩ := c'
      cases front
      cases offset
      exact .nil _
    | cons r rs ih =>
      rw [List.flatMap_cons, List.append_assoc] at front
      rw [List.flatMap_cons, List.length_append, ← Nat.add_assoc] at offset
      have first : readStub file c = .ok (r.stub file,
          ⟨c.offset + r.bytes.length, rs.flatMap Spelling.bytes ++ c'.rest⟩) :=
        readStub_eq_ok_iff.mpr ⟨r, front, rfl, rfl⟩
      exact .cons first (ih rfl offset)

/-- A file that starts with the bytes of some records goes on with those of others. -/
theorem Spelling.files_prefix {rs ss : List Spelling} {rest : List UInt8}
    (h : rs.flatMap bytes = ss.flatMap bytes ++ rest) :
    ∃ ts, rs = ss ++ ts ∧ rest = ts.flatMap bytes := by
  induction ss generalizing rs with
  | nil => exact ⟨rs, rfl, h.symm⟩
  | cons s ss ih =>
    rw [List.flatMap_cons, List.append_assoc] at h
    cases rs with
    | nil =>
      have none := (List.append_eq_nil_iff.mp h.symm).1
      exact absurd none s.bytes_ne_nil
    | cons r rs =>
      rw [List.flatMap_cons] at h
      obtain ⟨rfl, tails⟩ := bytes_delimited h
      obtain ⟨ts, rfl, rests⟩ := ih tails
      exact ⟨ts, rfl, rests⟩

/-- What is not read as the stubs of some spellings is refused. -/
theorem readAll_eq_error {bytes : List UInt8}
    (h : ∀ rs : List Spelling, rs.flatMap Spelling.bytes ≠ bytes) :
    ∃ fault, readAll file bytes = .error fault := by
  cases read : readAll file bytes with
  | error fault => exact ⟨fault, rfl⟩
  | ok stubs =>
    obtain ⟨rs, spelled, -⟩ := readAll_eq_ok_iff.mp read
    exact absurd spelled (h rs)

/-- **Files are put together by putting their bytes together.** -/
theorem readAll_append_iff {a : List UInt8} {stubs : Array Stub}
    (accepted : readAll file a = .ok stubs) (b : List UInt8) (all : Array Stub) :
    readAll file (a ++ b) = .ok all ↔
      ∃ more, readAll file b = .ok more ∧ all = stubs ++ more := by
  obtain ⟨rs, spelled, rfl⟩ := readAll_eq_ok_iff.mp accepted
  constructor
  · intro read
    obtain ⟨qs, whole, rfl⟩ := readAll_eq_ok_iff.mp read
    rw [← spelled] at whole
    obtain ⟨ts, rfl, rest⟩ := Spelling.files_prefix whole
    refine ⟨_, readAll_eq_ok_iff.mpr ⟨ts, rest.symm, rfl⟩, ?_⟩
    rw [List.map_append, List.append_toArray]
  · rintro ⟨more, read, rfl⟩
    obtain ⟨ts, rest, rfl⟩ := readAll_eq_ok_iff.mp read
    refine readAll_eq_ok_iff.mpr ⟨rs ++ ts, ?_, ?_⟩
    · rw [List.flatMap_append, spelled, rest]
    · rw [List.map_append, List.append_toArray]

/-- **A file that is cut at the end of a record** holds the records before the cut. -/
theorem readAll_take {a : List UInt8} {stubs : Array Stub} (accepted : readAll file a = .ok stubs)
    {before : List Stub} {c : Cursor} (along : ReadsAlong file ⟨0, a⟩ before c) :
    readAll file (a.take c.offset) = .ok before.toArray ∧ before <+: stubs.toList := by
  obtain ⟨rs, spelled, rfl⟩ := readAll_eq_ok_iff.mp accepted
  obtain ⟨qs, front, offset, rfl⟩ := readsAlong_iff.mp along
  rw [Nat.zero_add] at offset
  have front : a = qs.flatMap Spelling.bytes ++ c.rest := front
  constructor
  · refine readAll_eq_ok_iff.mpr ⟨qs, ?_, rfl⟩
    rw [front, List.take_left' offset.symm]
  · obtain ⟨ts, rfl, -⟩ := Spelling.files_prefix (spelled.trans front)
    rw [List.map_append]
    exact List.prefix_append _ _

/-- **A file that is cut elsewhere is refused.** -/
theorem readAll_take_error {a : List UInt8} {n : Nat} (inside : n ≤ a.length)
    (cut : ∀ before c, ReadsAlong file ⟨0, a⟩ before c → c.offset ≠ n) :
    ∃ fault, readAll file (a.take n) = .error fault := by
  refine readAll_eq_error fun rs spelled => ?_
  have along : ReadsAlong file ⟨0, a⟩ (rs.map (Spelling.stub file)) ⟨n, a.drop n⟩ := by
    refine readsAlong_iff.mpr ⟨rs, ?_, ?_, rfl⟩
    · rw [spelled]
      exact (List.take_append_drop n a).symm
    · rw [spelled, List.length_take, Nat.min_eq_left inside, Nat.zero_add]
  exact cut _ _ along rfl

/-- **A record that is cut short is refused**, whatever comes after it in its file. -/
theorem readAll_cut_record {c c' : Cursor} {s : Stub} (read : readStub file c = .ok (s, c'))
    {n : Nat} (some_ : 0 < n) (short : c.offset + n < c'.offset) :
    ∃ fault, readAll file (c.rest.take n) = .error fault := by
  obtain ⟨r, front, offset, -⟩ := readStub_eq_ok_iff.mp read
  refine readAll_eq_error fun rs spelled => ?_
  rw [front, List.take_append_of_le_length (by omega)] at spelled
  have length : (rs.flatMap Spelling.bytes).length = n := by
    rw [spelled, List.length_take]
    omega
  cases rs with
  | nil =>
    rw [List.flatMap_nil, List.length_nil] at length
    omega
  | cons q qs =>
    rw [List.flatMap_cons] at spelled length
    -- The bytes of the record start with those of another one, which is shorter.
    have start : q.bytes ++ (qs.flatMap Spelling.bytes ++ r.bytes.drop n) = r.bytes ++ [] := by
      rw [← List.append_assoc, spelled, List.take_append_drop, List.append_nil]
    obtain ⟨rfl, -⟩ := Spelling.bytes_delimited start
    rw [List.length_append] at length
    omega

end Files

/-! ## The end of a file -/

/-- **The last character of a file is read even if it is cut short.** -/
theorem readChar_missing {lead : UInt8} {more : List UInt8}
    (short : more.length ≤ (leadPart lead).2) (offset : Nat) :
    readChar ⟨offset, lead :: more⟩ =
      .ok (charOf (CharSpelling.extend (leadPart lead).1
          (more ++ List.replicate ((leadPart lead).2 - more.length) 0)),
        ⟨offset + 1 + more.length, []⟩) := by
  rw [readChar_eq, List.take_of_length_le short, List.drop_eq_nil_of_le short]

/-! ## Records are self-delimiting -/

/-- **Records delimit themselves.**  Behind a file that is accepted another one can stand exactly
if it is accepted by itself, and then the stubs of both are read.  A file that is accepted can be
cut at the ends of its records and nowhere else; so no record that is cut short is accepted, even
though a character that is cut short at the end of a file is read with zeros in place of the bytes
that are missing. -/
theorem records_self_delimiting {file : UInt32} {a : List UInt8} {stubs : Array Stub}
    (accepted : readAll file a = .ok stubs) :
    (∀ b all, readAll file (a ++ b) = .ok all ↔
      ∃ more, readAll file b = .ok more ∧ all = stubs ++ more) ∧
    (∀ before c, ReadsAlong file ⟨0, a⟩ before c →
      readAll file (a.take c.offset) = .ok before.toArray ∧ before <+: stubs.toList) ∧
    (∀ n ≤ a.length, (∀ before c, ReadsAlong file ⟨0, a⟩ before c → c.offset ≠ n) →
      ∃ fault, readAll file (a.take n) = .error fault) ∧
    (∀ c c' s n, readStub file c = .ok (s, c') → 0 < n → c.offset + n < c'.offset →
      ∃ fault, readAll file (c.rest.take n) = .error fault) ∧
    ∀ offset lead (more : List UInt8), more.length ≤ (leadPart lead).2 →
      readChar ⟨offset, lead :: more⟩ =
        .ok (charOf (CharSpelling.extend (leadPart lead).1
            (more ++ List.replicate ((leadPart lead).2 - more.length) 0)),
          ⟨offset + 1 + more.length, []⟩) := by
  refine ⟨readAll_append_iff accepted, fun before c along => readAll_take accepted along,
    fun n inside cut => readAll_take_error inside cut, ?_, ?_⟩
  · exact fun c c' s n read some_ short => readAll_cut_record read some_ short
  · exact fun offset lead more short => readChar_missing short offset

/-- The name `é`, a character of two bytes. -/
def accent : TextSpelling := ⟨[⟨0xc3, [0xa9], rfl⟩], by decide⟩

/-- The record of a stub with something of everything, and such a name wherever one stands. -/
def accented : Spelling where
  id := 1
  vararg := 0
  parameters := [accent]
  locals := [accent]
  strings := [accent]
  captures := [⟨0, 0⟩]
  base := 0
  code := [⟨0, 1, .number 0, rfl⟩]
  parametersCounted := by decide
  localsCounted := by decide
  stringsCounted := by decide
  capturesCounted := by decide
  codeCounted := by decide

/-- Two such records, and one that is cut within the character. -/
theorem accented_self_delimiting :
    readAll 3 accented.bytes = .ok #[accented.stub 3] ∧
      readAll 3 (accented.bytes ++ accented.bytes) = .ok #[accented.stub 3, accented.stub 3] ∧
      accented.bytes[17]? = some 0xc3 ∧
      ∃ fault, readAll 3 (accented.bytes.take 18) = .error fault := by
  have accepted : readAll 3 accented.bytes = .ok #[accented.stub 3] := rfl
  obtain ⟨together, -, -, cut, -⟩ := records_self_delimiting accepted
  have first : readStub 3 ⟨0, accented.bytes⟩ = .ok (accented.stub 3, ⟨accented.bytes.length, []⟩) :=
    rfl
  have inside : 18 < accented.bytes.length := by decide
  refine ⟨accepted, (together _ _).mpr ⟨_, accepted, rfl⟩, rfl, ?_⟩
  exact cut ⟨0, accented.bytes⟩ _ _ 18 first (by decide) inside

end StubMachine.Record
