import Mathlib
import ThreeAddress.Proofs.Literals

set_option autoImplicit false

/- A literal is a sequence of bytes other than the backslash and of escapes, which are a backslash and
three digits with a value below 256. The walk over the matches is compared with `decodeFrom`, which reads
the bytes from left to right and looks at three digits only behind a backslash. -/
namespace ThreeAddress.Escape

def digitsValue (x y z : UInt8) : Nat :=
  100 * (x.toNat - 48) + 10 * (y.toNat - 48) + (z.toNat - 48)

def digitsText (x y z : UInt8) : String :=
  String.ofList [Char.ofNat x.toNat, Char.ofNat y.toNat, Char.ofNat z.toNat]

/-- A part of a literal: a byte that stands for itself, or an escape. -/
inductive Part where
  | plain (b : UInt8) (other : b ≠ backslash)
  | escape (x y z : UInt8) (digits : IsDigit x ∧ IsDigit y ∧ IsDigit z)
      (byte : digitsValue x y z ≤ 255)

def Part.spelling : Part → Bytes
  | .plain b _ => [b]
  | .escape x y z _ _ => [backslash, x, y, z]

def Part.byte : Part → UInt8
  | .plain b _ => b
  | .escape x y z _ _ => UInt8.ofNat (digitsValue x y z)

def spelled (parts : List Part) : Bytes :=
  parts.flatMap Part.spelling

/-- Three digits stand behind an offset. -/
structure Followed (raw : Bytes) (offset : Nat) (x y z : UInt8) : Prop where
  first : raw[offset + 1]? = some x
  second : raw[offset + 2]? = some y
  third : raw[offset + 3]? = some z
  digits : IsDigit x ∧ IsDigit y ∧ IsDigit z

/-- Three digits with the value of a byte stand behind an offset. -/
def Escapes (raw : Bytes) (offset : Nat) : Prop :=
  ∃ x y z, Followed raw offset x y z ∧ digitsValue x y z ≤ 255

/-- The leftmost backslash that begins no escape. -/
structure FirstWrong (raw : Bytes) (offset : Nat) : Prop where
  here : raw[offset]? = some backslash
  wrong : ¬ Escapes raw offset
  earlier : ∀ before < offset, raw[before]? = some backslash → Escapes raw before

theorem spelled_cons (part : Part) (parts : List Part) :
    spelled (part :: parts) = part.spelling ++ spelled parts := rfl

theorem IsDigit.ne_backslash {b : UInt8} (digit : IsDigit b) : b ≠ backslash := by
  rintro rfl
  have high : (92 : Nat) ≤ 57 := digit.2
  omega

theorem followed_cons {b x y z : UInt8} {raw : Bytes} {offset : Nat} :
    Followed (b :: raw) (offset + 1) x y z ↔ Followed raw offset x y z := by
  constructor
  · intro followed
    exact ⟨followed.first, followed.second, followed.third, followed.digits⟩
  · intro followed
    exact ⟨followed.first, followed.second, followed.third, followed.digits⟩

theorem followed_append {x y z : UInt8} (front raw : Bytes) (offset : Nat) :
    Followed (front ++ raw) (front.length + offset) x y z ↔ Followed raw offset x y z := by
  induction front with
  | nil => rw [List.nil_append, List.length_nil, Nat.zero_add]
  | cons b front ih =>
    rw [List.cons_append, List.length_cons, Nat.add_right_comm, followed_cons, ih]

theorem escapes_append (front raw : Bytes) (offset : Nat) :
    Escapes (front ++ raw) (front.length + offset) ↔ Escapes raw offset := by
  simp only [Escapes, followed_append]

/-- Every backslash in parts begins an escape, whatever stands behind them. -/
theorem spelled_escapes (parts : List Part) (rest : Bytes) (offset : Nat)
    (inside : offset < (spelled parts).length)
    (here : (spelled parts ++ rest)[offset]? = some backslash) :
    Escapes (spelled parts ++ rest) offset := by
  induction parts generalizing offset with
  | nil => simp [spelled] at inside
  | cons part parts ih =>
    rw [spelled_cons, List.append_assoc] at here ⊢
    rw [spelled_cons, List.length_append] at inside
    by_cases later : part.spelling.length ≤ offset
    · obtain ⟨behind, rfl⟩ := Nat.exists_eq_add_of_le later
      rw [List.getElem?_append_right later, Nat.add_sub_cancel_left] at here
      rw [escapes_append]
      exact ih behind (by omega) here
    · cases part with
      | plain b other =>
        have first : offset = 0 := by
          simp only [Part.spelling, List.length_singleton] at later
          omega
        subst first
        simp only [Part.spelling, List.singleton_append, List.getElem?_cons_zero,
          Option.some.injEq] at here
        exact absurd here other
      | escape x y z digits byte =>
        simp only [Part.spelling, List.length_cons, List.length_nil] at later
        have place : offset = 0 ∨ offset = 1 ∨ offset = 2 ∨ offset = 3 := by omega
        rcases place with rfl | rfl | rfl | rfl
        · exact ⟨x, y, z, ⟨rfl, rfl, rfl, digits⟩, byte⟩
        · exact absurd (Option.some.inj here) digits.1.ne_backslash
        · exact absurd (Option.some.inj here) digits.2.1.ne_backslash
        · exact absurd (Option.some.inj here) digits.2.2.ne_backslash

/-- What is wrong with a backslash at an offset. -/
inductive Wrong (raw : Bytes) (offset : Nat) : Fault → Prop
  | stray (none : ∀ x y z, ¬ Followed raw offset x y z) : Wrong raw offset (.strayBackslash offset)
  | large {x y z : UInt8} (followed : Followed raw offset x y z) (above : 255 < digitsValue x y z) :
      Wrong raw offset (.outOfRange (digitsText x y z))

theorem Followed.unique {raw : Bytes} {offset : Nat} {x y z u v w : UInt8}
    (followed : Followed raw offset x y z) (again : Followed raw offset u v w) :
    x = u ∧ y = v ∧ z = w := by
  have first := followed.first.symm.trans again.first
  have second := followed.second.symm.trans again.second
  have third := followed.third.symm.trans again.third
  exact ⟨Option.some.inj first, Option.some.inj second, Option.some.inj third⟩

theorem Wrong.not_escapes {raw : Bytes} {offset : Nat} {fault : Fault} (wrong : Wrong raw offset fault) :
    ¬ Escapes raw offset := by
  rintro ⟨x, y, z, followed, byte⟩
  cases wrong with
  | stray none => exact none x y z followed
  | large other above =>
    obtain ⟨rfl, rfl, rfl⟩ := followed.unique other
    omega

theorem FirstWrong.unique {raw : Bytes} {offset other : Nat} (first : FirstWrong raw offset)
    (again : FirstWrong raw other) : offset = other := by
  by_contra apart
  rcases Nat.lt_or_gt_of_ne apart with before | behind
  · exact first.wrong (again.earlier offset before first.here)
  · exact again.wrong (first.earlier other behind again.here)

/-- Bytes behind which three digits stand begin with the digits. -/
theorem Followed.split {b x y z : UInt8} {raw : Bytes} (followed : Followed (b :: raw) 0 x y z) :
    ∃ rest, raw = x :: y :: z :: rest := by
  obtain ⟨first, second, third, -⟩ := followed
  rcases raw with _ | ⟨p, _ | ⟨q, _ | ⟨r, rest⟩⟩⟩
  · cases first
  · cases second
  · cases third
  · cases first
    cases second
    cases third
    exact ⟨rest, rfl⟩

/-- How bytes begin. -/
inductive Front : Bytes → Prop
  | nil : Front []
  | plain {b : UInt8} (rest : Bytes) (other : b ≠ backslash) : Front (b :: rest)
  | escape {x y z : UInt8} (rest : Bytes) (digits : IsDigit x ∧ IsDigit y ∧ IsDigit z) :
      Front (backslash :: x :: y :: z :: rest)
  | stray {rest : Bytes} (none : ∀ x y z, ¬ Followed (backslash :: rest) 0 x y z) :
      Front (backslash :: rest)

theorem front (bytes : Bytes) : Front bytes := by
  cases bytes with
  | nil => exact .nil
  | cons b rest =>
    by_cases other : b = backslash
    · subst other
      by_cases followed : ∃ x y z, Followed (backslash :: rest) 0 x y z
      · obtain ⟨x, y, z, followed⟩ := followed
        obtain ⟨behind, rfl⟩ := followed.split
        exact .escape behind followed.digits
      · simp only [not_exists] at followed
        exact .stray followed
    · exact .plain rest other

/-- Reads bytes of which the first stands at an offset. -/
def decodeFrom (offset : Nat) : Bytes → Except Fault Bytes
  | [] => .ok []
  | b :: rest =>
    if b ≠ backslash then (decodeFrom (offset + 1) rest).map (b :: ·)
    else
      match rest with
      | x :: y :: z :: behind =>
        if IsDigit x ∧ IsDigit y ∧ IsDigit z then
          if digitsValue x y z ≤ 255 then
            (decodeFrom (offset + 4) behind).map (UInt8.ofNat (digitsValue x y z) :: ·)
          else .error (.outOfRange (digitsText x y z))
        else .error (.strayBackslash offset)
      | _ => .error (.strayBackslash offset)

section

variable {b x y z : UInt8} {rest : Bytes} (offset : Nat)

theorem decodeFrom_plain (other : b ≠ backslash) :
    decodeFrom offset (b :: rest) = (decodeFrom (offset + 1) rest).map (b :: ·) := by
  rw [decodeFrom.eq_def]
  simp only [ne_eq, other, not_false_eq_true, ↓reduceIte]

theorem decodeFrom_escape (digits : IsDigit x ∧ IsDigit y ∧ IsDigit z) :
    decodeFrom offset (backslash :: x :: y :: z :: rest) =
      if digitsValue x y z ≤ 255 then
        (decodeFrom (offset + 4) rest).map (UInt8.ofNat (digitsValue x y z) :: ·)
      else .error (.outOfRange (digitsText x y z)) := by
  rw [decodeFrom.eq_def]
  simp only [ne_eq, not_true_eq_false, ↓reduceIte, digits, and_self]

theorem decodeFrom_stray (none : ∀ x y z, ¬ Followed (backslash :: rest) 0 x y z) :
    decodeFrom offset (backslash :: rest) = .error (.strayBackslash offset) := by
  rw [decodeFrom.eq_def]
  simp only [ne_eq, not_true_eq_false, ↓reduceIte]
  rcases rest with _ | ⟨p, _ | ⟨q, _ | ⟨r, behind⟩⟩⟩
  · rfl
  · rfl
  · rfl
  · have apart : ¬ (IsDigit p ∧ IsDigit q ∧ IsDigit r) := by
      intro digits
      exact none p q r ⟨rfl, rfl, rfl, digits⟩
    simp only [apart, ↓reduceIte]

theorem matchesFrom_escape (digits : IsDigit x ∧ IsDigit y ∧ IsDigit z) :
    matchesFrom offset (backslash :: x :: y :: z :: rest) =
      ⟨offset, x, y, z⟩ :: matchesFrom (offset + 4) rest := by
  rw [matchesFrom, if_pos ⟨rfl, digits⟩]

/-- Where no match begins, it is looked for from the next byte on. -/
theorem matchesFrom_other (none : b = backslash → ∀ x y z, ¬ Followed (b :: rest) 0 x y z) :
    matchesFrom offset (b :: rest) = matchesFrom (offset + 1) rest := by
  rcases rest with _ | ⟨p, _ | ⟨q, _ | ⟨r, behind⟩⟩⟩
  · rfl
  · rfl
  · rfl
  · rw [matchesFrom, if_neg]
    rintro ⟨escape, digits⟩
    exact none escape p q r ⟨rfl, rfl, rfl, digits⟩

end

theorem start_of_mem_matchesFrom {offset : Nat} {bytes : Bytes} {found : Match}
    (member : found ∈ matchesFrom offset bytes) : offset ≤ found.start := by
  fun_induction matchesFrom offset bytes with
  | case1 offset b x y z rest begins ih =>
    rcases List.mem_cons.mp member with rfl | later
    · exact Nat.le_refl offset
    · have behind := ih later
      omega
  | case2 offset b x y z rest other ih =>
    have behind := ih member
    omega
  | case3 => cases member

theorem IsDigit.toNat_ofNat {b : UInt8} (digit : IsDigit b) :
    (Char.ofNat b.toNat).toNat = b.toNat := by
  have high := digit.2
  rw [Char.toNat_ofNat, if_pos (Or.inl (by omega))]

theorem IsDigit.isDigit_ofNat {b : UInt8} (digit : IsDigit b) :
    (Char.ofNat b.toNat).isDigit = true := by
  have bounds : 48 ≤ b.toNat ∧ b.toNat ≤ 57 := digit
  rw [← digit.toNat_ofNat] at bounds
  simpa [Char.isDigit, UInt32.le_iff_toNat_le] using bounds

theorem digits?_digits {x y z : UInt8} (digits : IsDigit x ∧ IsDigit y ∧ IsDigit z) (start : Nat) :
    Numeral.digits? 10 (Match.digits ⟨start, x, y, z⟩) = some (digitsValue x y z) := by
  obtain ⟨digitX, digitY, digitZ⟩ := digits
  have value : Nat.ofDigitChars 10 (Match.digits ⟨start, x, y, z⟩) 0 = digitsValue x y z := by
    simp only [Match.digits, List.map_cons, List.map_nil, Nat.ofDigitChars_cons,
      Nat.ofDigitChars_nil, digitX.toNat_ofNat, digitY.toNat_ofNat, digitZ.toNat_ofNat, digitsValue,
      Char.reduceToNat]
    omega
  rw [← value]
  apply Numeral.digits?_of_isDigit
  · exact List.cons_ne_nil _ _
  · simp only [Match.digits, List.map_cons, List.map_nil, List.forall_mem_cons]
    exact ⟨digitX.isDigit_ofNat, digitY.isDigit_ofNat, digitZ.isDigit_ofNat, by simp⟩
  · have highX := digitX.2
    have highY := digitY.2
    have highZ := digitZ.2
    rw [value, digitsValue, Numeral.widest]
    omega

theorem byte?_eq {x y z : UInt8} (digits : IsDigit x ∧ IsDigit y ∧ IsDigit z) (start : Nat) :
    Match.byte? ⟨start, x, y, z⟩ =
      if digitsValue x y z ≤ 255 then some (UInt8.ofNat (digitsValue x y z)) else none := by
  have size : UInt8.size = 256 := rfl
  rw [Match.byte?, digits?_digits digits, Option.filter_some]
  by_cases byte : digitsValue x y z ≤ 255
  · have below : digitsValue x y z < UInt8.size := by omega
    simp [byte, below]
  · have above : ¬ digitsValue x y z < UInt8.size := by omega
    simp [byte, above]

section

variable {done gap rest : Bytes}

theorem slice_gap : slice (done ++ gap ++ rest) done.length (done.length + gap.length) = gap := by
  rw [slice, List.append_assoc, List.drop_left, Nat.add_sub_cancel_left, List.take_left]

theorem findIdx?_of_plain (plain : ∀ b ∈ gap, b ≠ backslash) :
    gap.findIdx? (· == backslash) = none := by
  simpa [List.findIdx?_eq_none_iff] using plain

theorem checkPlain_gap (plain : ∀ b ∈ gap, b ≠ backslash) :
    checkPlain (done ++ gap ++ rest) done.length (done.length + gap.length) = .ok () := by
  rw [checkPlain, slice_gap, findIdx?_of_plain plain]

theorem checkPlain_stray (plain : ∀ b ∈ gap, b ≠ backslash) {stop : Nat}
    (behind : done.length + gap.length < stop) :
    checkPlain (done ++ gap ++ backslash :: rest) done.length stop =
      .error (.strayBackslash (done.length + gap.length)) := by
  obtain ⟨more, rfl⟩ := Nat.exists_eq_add_of_lt behind
  have length : done.length + gap.length + more + 1 - done.length = gap.length + (more + 1) := by
    omega
  have reached : slice (done ++ gap ++ backslash :: rest) done.length
      (done.length + gap.length + more + 1) = gap ++ backslash :: rest.take more := by
    rw [slice, List.append_assoc, List.drop_left, length, List.take_length_add_append,
      List.take_succ_cons]
  rw [checkPlain, reached, List.findIdx?_append, findIdx?_of_plain plain,
    List.findIdx?_cons]
  simp

/-- A backslash in front of all matches is stray. -/
theorem walk_stray (plain : ∀ b ∈ gap, b ≠ backslash) {all : List Match}
    (later : ∀ found ∈ all, done.length + gap.length < found.start) :
    walk (done ++ gap ++ backslash :: rest) done.length all =
      .error (.strayBackslash (done.length + gap.length)) := by
  cases all with
  | nil =>
    rw [walk, checkPlain_stray plain]
    simp only [List.length_append, List.length_cons]
    omega
  | cons found others =>
    rw [walk, checkPlain_stray plain (later found List.mem_cons_self)]

/-- Where a gap without backslashes stands behind what was read, the walk over the matches behind the
gap reads what is behind it from left to right, with the gap in front. -/
theorem walk_eq_decodeFrom (done gap rest : Bytes) (plain : ∀ b ∈ gap, b ≠ backslash) :
    walk (done ++ gap ++ rest) done.length (matchesFrom (done.length + gap.length) rest) =
      (decodeFrom (done.length + gap.length) rest).map (gap ++ ·) := by
  induction size : rest.length using Nat.strong_induction_on generalizing done gap rest with
  | _ length ih =>
    cases front rest with
    | nil =>
      have stop : (done ++ gap ++ []).length = done.length + gap.length := by simp
      rw [matchesFrom, walk, stop, checkPlain_gap plain, slice_gap, decodeFrom]
      · simp [Except.map]
      · simp
    | @plain b behind other =>
      have longer : ∀ c ∈ gap ++ [b], c ≠ backslash := by
        rw [List.forall_mem_append]
        exact ⟨plain, by simpa using other⟩
      have shape : done ++ (gap ++ [b]) ++ behind = done ++ gap ++ b :: behind := by simp
      have later := ih behind.length (by rw [← size, List.length_cons]; omega) done (gap ++ [b])
        behind longer rfl
      rw [shape, List.length_append, List.length_singleton, ← Nat.add_assoc] at later
      rw [matchesFrom_other _ (fun escape => absurd escape other), later, decodeFrom_plain _ other]
      cases decodeFrom (done.length + gap.length + 1) behind <;> simp [Except.map]
    | @escape x y z behind digits =>
      have shape : done ++ gap ++ [backslash, x, y, z] ++ [] ++ behind =
          done ++ gap ++ backslash :: x :: y :: z :: behind := by simp
      have later := ih behind.length (by simp only [← size, List.length_cons]; omega)
        (done ++ gap ++ [backslash, x, y, z]) [] behind (by simp) rfl
      simp only [shape, List.length_append, List.length_cons, List.length_nil, Nat.add_zero,
        Nat.zero_add, List.nil_append] at later
      rw [matchesFrom_escape _ digits, walk, checkPlain_gap plain, slice_gap, byte?_eq digits,
        decodeFrom_escape _ digits, Match.stop]
      by_cases byte : digitsValue x y z ≤ 255
      · simp only [byte, ↓reduceIte, later]
        cases decodeFrom (done.length + gap.length + 4) behind <;> simp [Except.map]
      · simp only [byte, ↓reduceIte]
        rfl
    | @stray behind none =>
      have later : ∀ found ∈ matchesFrom (done.length + gap.length + 1) behind,
          done.length + gap.length < found.start := by
        intro found member
        exact start_of_mem_matchesFrom member
      rw [matchesFrom_other _ fun _ => none, walk_stray plain later, decodeFrom_stray _ none]
      rfl

end

/-- The walk over the matches reads from left to right. -/
theorem decode_eq_decodeFrom (text : String) : decode text = decodeFrom 0 (Utf8.ofString text) := by
  have walked := walk_eq_decodeFrom [] [] (Utf8.ofString text) (by simp)
  cases read : decodeFrom 0 (Utf8.ofString text) <;>
    simpa [decode, read, Except.map] using walked

theorem decodeFrom_part (part : Part) (offset : Nat) (rest : Bytes) :
    decodeFrom offset (part.spelling ++ rest) =
      (decodeFrom (offset + part.spelling.length) rest).map (part.byte :: ·) := by
  cases part with
  | plain b other => exact decodeFrom_plain offset other
  | escape x y z digits byte => exact (decodeFrom_escape offset digits).trans (if_pos byte)

theorem decodeFrom_spelled (parts : List Part) (offset : Nat) :
    decodeFrom offset (spelled parts) = .ok (parts.map Part.byte) := by
  induction parts generalizing offset with
  | nil => rfl
  | cons part parts ih =>
    rw [spelled_cons, decodeFrom_part, ih]
    rfl

/-- Behind what was read there are only parts, or parts and a backslash that begins no escape. -/
inductive Reading (done bytes : Bytes) : Prop
  | whole (parts : List Part) (written : bytes = spelled parts)
  | stopped (parts : List Part) (rest : Bytes) (fault : Fault)
      (written : bytes = spelled parts ++ backslash :: rest)
      (failed : decodeFrom done.length bytes = .error fault)
      (wrong : Wrong (done ++ bytes) (done.length + (spelled parts).length) fault)

theorem Reading.part {done rest : Bytes} (part : Part)
    (later : Reading (done ++ part.spelling) rest) : Reading done (part.spelling ++ rest) := by
  cases later with
  | whole parts written => exact .whole (part :: parts) (by rw [written, spelled_cons])
  | stopped parts behind fault written failed wrong =>
    rw [List.length_append] at failed wrong
    refine .stopped (part :: parts) behind fault ?_ ?_ ?_
    · rw [written, spelled_cons, List.append_assoc]
    · rw [decodeFrom_part, failed]
      rfl
    · rw [spelled_cons, List.length_append, ← Nat.add_assoc, ← List.append_assoc]
      exact wrong

theorem reading (done bytes : Bytes) : Reading done bytes := by
  induction size : bytes.length using Nat.strong_induction_on generalizing done bytes with
  | _ length ih =>
    -- In front of these bytes, three digits stand behind an offset as they do behind what was read.
    have shift (x y z : UInt8) : Followed (done ++ bytes) (done.length + 0) x y z ↔
        Followed bytes 0 x y z :=
      followed_append done bytes 0
    cases front bytes with
    | nil => exact .whole [] rfl
    | @plain b rest other =>
      have later := ih rest.length (by rw [← size, List.length_cons]; omega) (done ++ [b]) rest rfl
      exact .part (.plain b other) later
    | @escape x y z rest digits =>
      by_cases byte : digitsValue x y z ≤ 255
      · have later := ih rest.length (by simp only [← size, List.length_cons]; omega)
          (done ++ [backslash, x, y, z]) rest rfl
        exact .part (.escape x y z digits byte) later
      · refine .stopped [] (x :: y :: z :: rest) (.outOfRange (digitsText x y z)) rfl ?_ ?_
        · rw [decodeFrom_escape _ digits, if_neg byte]
        · exact .large ((shift x y z).mpr ⟨rfl, rfl, rfl, digits⟩) (by omega)
    | @stray rest none =>
      refine .stopped [] rest (.strayBackslash done.length) rfl (decodeFrom_stray _ none) ?_
      exact .stray fun x y z followed => none x y z ((shift x y z).mp followed)

theorem decode_of_spelled {text : String} {parts : List Part}
    (written : Utf8.ofString text = spelled parts) : decode text = .ok (parts.map Part.byte) := by
  rw [decode_eq_decodeFrom, written, decodeFrom_spelled]

/-- A backslash behind parts that begins no escape is the leftmost such. -/
theorem Wrong.first {parts : List Part} {rest : Bytes} {fault : Fault}
    (wrong : Wrong (spelled parts ++ backslash :: rest) (spelled parts).length fault) :
    FirstWrong (spelled parts ++ backslash :: rest) (spelled parts).length := by
  refine ⟨?_, wrong.not_escapes, ?_⟩
  · rw [List.getElem?_append_right (Nat.le_refl _), Nat.sub_self]
    rfl
  · intro before inside here
    exact spelled_escapes parts _ before inside here

theorem decode_eq_ok_iff {text : String} {bytes : Bytes} :
    decode text = .ok bytes ↔
      ∃ parts, Utf8.ofString text = spelled parts ∧ bytes = parts.map Part.byte := by
  constructor
  · intro read
    cases reading [] (Utf8.ofString text) with
    | whole parts written =>
      rw [decode_of_spelled written] at read
      exact ⟨parts, written, (Except.ok.inj read).symm⟩
    | stopped parts rest fault written failed wrong =>
      rw [List.length_nil, ← decode_eq_decodeFrom] at failed
      cases failed.symm.trans read
  · rintro ⟨parts, written, rfl⟩
    exact decode_of_spelled written

theorem decode_error {text : String} {fault : Fault} (reported : decode text = .error fault) :
    ∃ offset, FirstWrong (Utf8.ofString text) offset ∧ Wrong (Utf8.ofString text) offset fault := by
  cases reading [] (Utf8.ofString text) with
  | whole parts written => cases (decode_of_spelled written).symm.trans reported
  | stopped parts rest found written failed wrong =>
    rw [List.length_nil, ← decode_eq_decodeFrom] at failed
    rw [List.length_nil, Nat.zero_add, List.nil_append] at wrong
    cases failed.symm.trans reported
    refine ⟨(spelled parts).length, ?_, wrong⟩
    rw [written] at wrong ⊢
    exact wrong.first

theorem escapes_of_decode {text : String} {bytes : Bytes} (read : decode text = .ok bytes)
    {offset : Nat} (here : (Utf8.ofString text)[offset]? = some backslash) :
    Escapes (Utf8.ofString text) offset := by
  obtain ⟨parts, written, -⟩ := decode_eq_ok_iff.mp read
  have inside : offset < (Utf8.ofString text).length := (List.getElem?_eq_some_iff.mp here).1
  have escapes := spelled_escapes parts [] offset
  rw [List.append_nil, ← written] at escapes
  exact escapes inside here

/-- A text is read as a literal exactly if every backslash in it begins an escape, and then as the bytes
of its parts. Otherwise the leftmost backslash that begins no escape is reported: by its offset if no
three digits stand behind it, and by the digits if their value is above that of a byte. -/
theorem decode_reports_first (text : String) :
    let raw := Utf8.ofString text
    ((∃ bytes, decode text = .ok bytes) ↔
        ∀ offset, raw[offset]? = some backslash → Escapes raw offset) ∧
      (∀ bytes, decode text = .ok bytes ↔
        ∃ parts, raw = spelled parts ∧ bytes = parts.map Part.byte) ∧
      (∀ fault, decode text = .error fault → ∃ offset, FirstWrong raw offset) ∧
      ∀ offset, FirstWrong raw offset →
        ((∀ x y z, ¬ Followed raw offset x y z) → decode text = .error (.strayBackslash offset)) ∧
        ∀ x y z, Followed raw offset x y z →
          255 < digitsValue x y z ∧ decode text = .error (.outOfRange (digitsText x y z)) := by
  intro raw
  refine ⟨⟨?_, ?_⟩, fun bytes => decode_eq_ok_iff, ?_, ?_⟩
  · rintro ⟨bytes, read⟩ offset here
    exact escapes_of_decode read here
  · intro sound
    cases read : decode text with
    | ok bytes => exact ⟨bytes, rfl⟩
    | error fault =>
      obtain ⟨offset, first, -⟩ := decode_error read
      exact absurd (sound offset first.here) first.wrong
  · intro fault reported
    obtain ⟨offset, first, -⟩ := decode_error reported
    exact ⟨offset, first⟩
  · intro offset first
    cases read : decode text with
    | ok bytes => exact absurd (escapes_of_decode read first.here) first.wrong
    | error fault =>
      obtain ⟨other, again, wrong⟩ := decode_error read
      obtain rfl := again.unique first
      cases wrong with
      | stray none => exact ⟨fun _ => rfl, fun x y z followed => absurd followed (none x y z)⟩
      | @large x y z followed above =>
        refine ⟨fun none => absurd followed (none x y z), ?_⟩
        intro u v w again
        obtain ⟨rfl, rfl, rfl⟩ := followed.unique again
        exact ⟨above, rfl⟩

/-- An escape behind a character of two bytes, a backslash in front of another, and an escape that is too
large, which is not reached. -/
theorem decode_reports_first_doubled :
    let text := "é\\065\\\\300"
    FirstWrong (Utf8.ofString text) 6 ∧ decode text = .error (.strayBackslash 6) := by
  intro text
  have bytes : Utf8.ofString text =
      [195, 169, backslash, 48, 54, 53, backslash, backslash, 51, 48, 48] := by decide
  have unfollowed : ∀ x y z, ¬ Followed (Utf8.ofString text) 6 x y z := by
    rw [bytes]
    rintro x y z ⟨first, -, -, digits⟩
    exact digits.1.ne_backslash (Option.some.inj first).symm
  have first : FirstWrong (Utf8.ofString text) 6 := by
    refine ⟨by rw [bytes]; rfl, ?_, ?_⟩
    · rintro ⟨x, y, z, followed, -⟩
      exact unfollowed x y z followed
    · rw [bytes]
      intro before inside here
      interval_cases before
      · cases here
      · cases here
      · exact ⟨48, 54, 53, ⟨rfl, rfl, rfl, by decide⟩, by decide⟩
      · cases here
      · cases here
      · cases here
  exact ⟨first, ((decode_reports_first text).2.2.2 6 first).1 unfollowed⟩

end ThreeAddress.Escape
