import Mathlib
import ThreeAddress.Json.Token
import ThreeAddress.Proofs.Literals

set_option autoImplicit false

namespace ThreeAddress.Json

/-- A scalar that has a text: a number that is no integer is a literal that reads as it stands. -/
def Scalar.Valid : Scalar → Prop
  | .real literal => number? literal.toList = some (.real literal)
  | .null | .bool _ | .int _ | .str _ => True

def Token.Valid : Token → Prop
  | .scalar s => s.Valid
  | _ => True

theorem isWordChar_of_isDigit {c : Char} (digit : c.isDigit = true) : isWordChar c = true := by
  simp [isWordChar, Char.isAlphanum, digit]

theorem isDigits_iff {cs : List Char} :
    isDigits cs = true ↔ cs ≠ [] ∧ ∀ c ∈ cs, c.isDigit = true := by
  simp [isDigits]

theorem isWordChar_of_isDigits {cs : List Char} (digits : isDigits cs = true) :
    ∀ c ∈ cs, isWordChar c = true := by
  intro c member
  exact isWordChar_of_isDigit ((isDigits_iff.mp digits).2 c member)

theorem isWordChar_of_isExponent {cs : List Char} (exponent : isExponent cs = true) :
    ∀ c ∈ cs, isWordChar c = true := by
  cases cs with
  | nil => simp
  | cons e rest =>
    unfold isExponent at exponent
    simp only [Bool.and_eq_true, Bool.or_eq_true, beq_iff_eq] at exponent
    rw [List.forall_mem_cons]
    constructor
    · rcases exponent.1 with rfl | rfl <;> rfl
    · have digits := exponent.2
      split at digits
      · rw [List.forall_mem_cons]
        exact ⟨rfl, isWordChar_of_isDigits digits⟩
      · rw [List.forall_mem_cons]
        exact ⟨rfl, isWordChar_of_isDigits digits⟩
      · exact isWordChar_of_isDigits digits

theorem isWordChar_of_isFraction {cs : List Char} (fraction : isFraction cs = true) :
    ∀ c ∈ cs, isWordChar c = true := by
  unfold isFraction at fraction
  split at fraction
  · rename_i rest
    rw [Bool.and_eq_true] at fraction
    rw [List.forall_mem_cons, ← List.takeWhile_append_dropWhile (p := Char.isDigit) (l := rest),
      List.forall_mem_append]
    exact ⟨rfl, isWordChar_of_isDigits fraction.1, isWordChar_of_isExponent fraction.2⟩
  · exact isWordChar_of_isExponent fraction

/-- A number is a sign or none, and then what the grammar asks for. -/
theorem number?_grammar {word : List Char} {s : Scalar} (read : number? word = some s) :
    ∃ body, (word = body ∨ word = '-' :: body) ∧
      isWhole (body.takeWhile Char.isDigit) = true ∧ isFraction (body.dropWhile Char.isDigit) = true := by
  simp only [number?, Option.ite_none_right_eq_some, Bool.and_eq_true] at read
  refine ⟨_, ?_, read.1⟩
  split
  · rename_i negative
    right
    cases word with
    | nil => simp at negative
    | cons c rest =>
      simp only [List.head?_cons, beq_iff_eq, Option.some.injEq] at negative
      rw [negative]
      rfl
  · exact .inl rfl

/-- A number is made of characters of words. -/
theorem isWordChar_of_number? {word : List Char} {s : Scalar} (read : number? word = some s) :
    ∀ c ∈ word, isWordChar c = true := by
  obtain ⟨body, shape, -, fraction⟩ := number?_grammar read
  have inside : ∀ c ∈ body, isWordChar c = true := by
    rw [← List.takeWhile_append_dropWhile (p := Char.isDigit) (l := body), List.forall_mem_append]
    refine ⟨?_, isWordChar_of_isFraction fraction⟩
    intro c member
    exact isWordChar_of_isDigit (List.mem_takeWhile_imp member)
  rcases shape with rfl | rfl
  · exact inside
  · rw [List.forall_mem_cons]
    exact ⟨rfl, inside⟩

theorem number?_ne_nil {word : List Char} {s : Scalar} (read : number? word = some s) : word ≠ [] := by
  rintro rfl
  cases read

/-- A number is no other word. -/
theorem word?_of_number? {word : List Char} {s : Scalar} (read : number? word = some s) :
    word? word = some s := by
  have other (literal : List Char) (unread : number? literal = none) : word ≠ literal := by
    rintro rfl
    rw [unread] at read
    cases read
  rw [word?, if_neg (other _ rfl), if_neg (other _ rfl), if_neg (other _ rfl), read]

/-- Only zero is written with a zero in front. -/
theorem head?_toDigits {n : Nat} (positive : n ≠ 0) : (Nat.toDigits 10 n).head? ≠ some '0' := by
  induction n using Nat.strongRecOn with
  | ind n ih =>
    rw [Nat.toDigits_eq_if (by decide)]
    by_cases single : n < 10
    · have digit : ∀ n < 10, n ≠ 0 → Nat.digitChar n ≠ '0' := by decide
      rw [if_pos single, List.head?_cons, ne_eq, Option.some.injEq]
      exact digit n single positive
    · have shorter : n / 10 < n := by omega
      have front := ih (n / 10) shorter (by omega)
      rw [if_neg single, List.head?_append]
      cases shape : Nat.toDigits 10 (n / 10) with
      | nil => exact absurd shape Nat.toDigits_ne_nil
      | cons c rest =>
        rw [shape] at front
        exact front

theorem isWhole_toDigits (n : Nat) : isWhole (Nat.toDigits 10 n) = true := by
  by_cases zero : n = 0
  · rw [zero]
    rfl
  · have digits : isDigits (Nat.toDigits 10 n) = true := by
      rw [isDigits_iff]
      refine ⟨Nat.toDigits_ne_nil, ?_⟩
      intro c member
      exact Nat.isDigit_of_mem_toDigits (by decide) (by decide) member
    have front := head?_toDigits zero
    unfold isWhole
    split
    · rfl
    · rename_i rest shape
      rw [shape] at front
      exact absurd rfl front
    · exact digits

section Digits

variable {ds : List Char} (whole : isWhole ds = true) (digits : ∀ c ∈ ds, c.isDigit = true)
include whole digits

theorem number?_digits : number? ds = some (.int (Nat.ofDigitChars 10 ds 0)) := by
  have positive : (ds.head? == some '-') = false := by
    rw [beq_eq_false_iff_ne]
    intro sign
    have digit := digits '-' (List.mem_of_mem_head? sign)
    cases digit
  simp only [number?, positive, Bool.false_eq_true, ↓reduceIte, List.takeWhile_eq_self_iff.mpr digits,
    List.dropWhile_eq_nil_iff.mpr digits, whole]
  rfl

theorem number?_minus (nonzero : Nat.ofDigitChars 10 ds 0 ≠ 0) :
    number? ('-' :: ds) = some (.int (-(Nat.ofDigitChars 10 ds 0 : Int))) := by
  have negative : (('-' :: ds).head? == some '-') = true := rfl
  have other : ((Nat.ofDigitChars 10 ds 0 : Int) == 0) = false := by
    rw [beq_eq_false_iff_ne]
    exact_mod_cast nonzero
  simp only [number?, negative, ↓reduceIte, List.drop_succ_cons, List.drop_zero,
    List.takeWhile_eq_self_iff.mpr digits, List.dropWhile_eq_nil_iff.mpr digits, whole, other]
  rfl

end Digits

/-- An integer is read back from its decimal digits. -/
theorem number?_repr (n : Int) : number? n.repr.toList = some (.int n) := by
  have digits (m : Nat) : ∀ c ∈ Nat.toDigits 10 m, c.isDigit = true := fun c =>
    Nat.isDigit_of_mem_toDigits (by decide) (by decide)
  have value (m : Nat) : Nat.ofDigitChars 10 (Nat.toDigits 10 m) 0 = m :=
    Nat.ofDigitChars_toDigits (by decide) (by decide)
  cases n with
  | ofNat m =>
    show number? m.repr.toList = some (.int m)
    rw [Nat.toList_repr, number?_digits (isWhole_toDigits m) (digits m), value]
  | negSucc m =>
    have nonzero : Nat.ofDigitChars 10 (Nat.toDigits 10 m.succ) 0 ≠ 0 := by
      rw [value]
      exact m.succ_ne_zero
    show number? ("-" ++ m.succ.repr).toList = some (.int (Int.negSucc m))
    rw [String.toList_append, Nat.toList_repr]
    show number? ('-' :: Nat.toDigits 10 m.succ) = some (.int (Int.negSucc m))
    rw [number?_minus (isWhole_toDigits _) (digits _) nonzero, value]
    rfl

/-- A text that no word can go on with. -/
def Stops (text : List Char) : Prop :=
  ∀ c ∈ text.head?, isWordChar c = false

theorem lexBetween_wordChar {c : Char} (word : isWordChar c = true) :
    lexBetween c = some (.word [c], []) := by
  have other (d : Char) (mark : isWordChar d = false) : c ≠ d := by
    rintro rfl
    rw [mark] at word
    cases word
  simp only [lexBetween, word, ↓reduceIte, other ' ' rfl, other '\t' rfl, other '\n' rfl, other '\r' rfl,
    other '[' rfl, other ']' rfl, other '\x7b' rfl, other '\x7d' rfl, other ',' rfl, other ':' rfl,
    other '"' rfl, or_self]

theorem lexFrom_wordChars {cs : List Char} (word : ∀ c ∈ cs, isWordChar c = true) (seen rest : List Char) :
    lexFrom (.word seen) (cs ++ rest) = lexFrom (.word (cs.reverse ++ seen)) rest := by
  induction cs generalizing seen with
  | nil => rfl
  | cons c cs ih =>
    rw [List.forall_mem_cons] at word
    rw [List.cons_append, lexFrom, lexStep, if_pos word.1]
    simp only [List.nil_append, Option.map_id']
    rw [ih word.2]
    simp

theorem lexFrom_wordEnd {seen : List Char} {s : Scalar} (read : word? seen.reverse = some s)
    {rest : List Char} (stops : Stops rest) :
    lexFrom (.word seen) rest = (lexFrom .between rest).map (.scalar s :: ·) := by
  cases rest with
  | nil =>
    show (word? seen.reverse).map (fun s => [Token.scalar s]) = some [Token.scalar s]
    rw [read]
    rfl
  | cons c rest =>
    have other : isWordChar c = false := stops c rfl
    rw [lexFrom, lexStep, if_neg (by simp [other]), read, lexFrom, lexStep]
    cases lexBetween c with
    | none => rfl
    | some next => simp [Function.comp_def]

/-- A word in front of a text that cannot go on with it is its scalar. -/
theorem lexFrom_word {word : List Char} {s : Scalar} (read : word? word = some s)
    (chars : ∀ c ∈ word, isWordChar c = true) (nonempty : word ≠ []) {rest : List Char}
    (stops : Stops rest) :
    lexFrom .between (word ++ rest) = (lexFrom .between rest).map (.scalar s :: ·) := by
  cases word with
  | nil => exact absurd rfl nonempty
  | cons c cs =>
    rw [List.forall_mem_cons] at chars
    rw [List.cons_append, lexFrom, lexStep, lexBetween_wordChar chars.1]
    simp only [List.nil_append, Option.map_id']
    rw [lexFrom_wordChars chars.2, lexFrom_wordEnd _ stops]
    simpa using read

theorem hexValue?_hexChar {n : Nat} (below : n < 16) : hexValue? (hexChar n) = some n := by
  revert n
  decide

/-- A piece that stands for a character, whatever comes behind it. -/
def Piece.Means (piece : Piece) (c : Char) : Prop :=
  ∀ rest, joinPieces (piece :: rest) = (joinPieces rest).map (c :: ·)

theorem means_char (c : Char) : (Piece.char c).Means c := by
  intro rest
  rw [joinPieces]

theorem means_unit {c : Char} (control : c.toNat < 0x20) : (Piece.unit c.toNat).Means c := by
  intro rest
  have low : isHigh c.toNat = false := by simp [isHigh]; omega
  have other : isLow c.toNat = false := by simp [isLow]; omega
  rw [joinPieces.eq_def]
  simp only [low, other, Bool.false_eq_true, ↓reduceIte, Char.ofNat_toNat]

theorem lexFrom_escape {d c : Char} (short : escaped? d = some c) (other : d ≠ 'u') (seen : List Piece)
    (rest : List Char) :
    lexFrom (.string seen) ('\\' :: d :: rest) = lexFrom (.string (.char c :: seen)) rest := by
  simp [lexFrom, lexStep, short, other]

/-- A numeric escape is read as one unit. -/
theorem lexFrom_unit {a b c d : Char} {w x y z : Nat} (first : hexValue? a = some w)
    (second : hexValue? b = some x) (third : hexValue? c = some y) (fourth : hexValue? d = some z)
    (seen : List Piece) (rest : List Char) :
    lexFrom (.string seen) ('\\' :: 'u' :: a :: b :: c :: d :: rest) =
      lexFrom (.string (.unit (((w * 16 + x) * 16 + y) * 16 + z) :: seen)) rest := by
  simp [lexFrom, lexStep, first, second, third, fourth]

/-- A quoted character is read as one piece. -/
theorem lexFrom_quoteChar (c : Char) (seen : List Piece) (rest : List Char) :
    ∃ piece : Piece, piece.Means c ∧
      lexFrom (.string seen) (quoteChar c ++ rest) = lexFrom (.string (piece :: seen)) rest := by
  have short {d : Char} (stands : escaped? d = some c) (other : d ≠ 'u') :
      ∃ piece : Piece, piece.Means c ∧
        lexFrom (.string seen) ('\\' :: d :: rest) = lexFrom (.string (piece :: seen)) rest :=
    ⟨_, means_char c, lexFrom_escape stands other seen rest⟩
  unfold quoteChar
  split_ifs with quote backslash backspace feed line ret tab control
  · exact short (by rw [quote]; rfl) (by decide)
  · exact short (by rw [backslash]; rfl) (by decide)
  · exact short (by rw [backspace]; rfl) (by decide)
  · exact short (by rw [feed]; rfl) (by decide)
  · exact short (by rw [line]; rfl) (by decide)
  · exact short (by rw [ret]; rfl) (by decide)
  · exact short (by rw [tab]; rfl) (by decide)
  · -- A control character without a letter of its own has a code below 32, so two of its digits are zero.
    refine ⟨_, means_unit control, ?_⟩
    have high : c.toNat / 16 < 16 := by omega
    have low : c.toNat % 16 < 16 := by omega
    have zero : hexValue? '0' = some 0 := rfl
    have value : ((0 * 16 + 0) * 16 + c.toNat / 16) * 16 + c.toNat % 16 = c.toNat := by omega
    have read := lexFrom_unit zero zero (hexValue?_hexChar high) (hexValue?_hexChar low) seen rest
    rw [value] at read
    exact read
  · refine ⟨_, means_char c, ?_⟩
    simp [lexFrom, lexStep, quote, backslash, control]

/-- The pieces of a quoted text stand for its characters. -/
theorem lexFrom_quoted (cs : List Char) (seen : List Piece) (rest : List Char) :
    ∃ pieces : List Piece, (∀ more, joinPieces (pieces ++ more) = (joinPieces more).map (cs ++ ·)) ∧
      lexFrom (.string seen) (cs.flatMap quoteChar ++ rest) =
        lexFrom (.string (pieces.reverse ++ seen)) rest := by
  induction cs generalizing seen with
  | nil => exact ⟨[], by simp, rfl⟩
  | cons c cs ih =>
    obtain ⟨piece, means, first⟩ := lexFrom_quoteChar c seen (cs.flatMap quoteChar ++ rest)
    obtain ⟨pieces, joined, others⟩ := ih (piece :: seen)
    refine ⟨piece :: pieces, ?_, ?_⟩
    · intro more
      rw [List.cons_append, means, joined]
      simp [Function.comp_def]
    · rw [List.flatMap_cons, List.append_assoc, first, others]
      simp

theorem lexFrom_closed {seen : List Piece} (rest : List Char) :
    lexFrom (.string seen) ('"' :: rest) =
      (lexFrom .between rest).map (.scalar (.str ((joinPieces seen.reverse).map String.ofList)) :: ·) := by
  simp [lexFrom, lexStep]

/-- A string in quotes is read back, also one that no text can hold. -/
theorem lexFrom_quote (text : Option String) (rest : List Char) :
    lexFrom .between (quote text ++ rest) = (lexFrom .between rest).map (.scalar (.str text) :: ·) := by
  have opened (more : List Char) : lexFrom .between ('"' :: more) = lexFrom (.string []) more := by
    simp [lexFrom, lexStep, lexBetween]
  cases text with
  | none =>
    show lexFrom .between ('"' :: '\\' :: 'u' :: 'd' :: '8' :: '0' :: '0' :: '"' :: rest) = _
    rw [opened, lexFrom_unit rfl rfl rfl rfl, lexFrom_closed]
    rfl
  | some text =>
    obtain ⟨pieces, joined, read⟩ := lexFrom_quoted text.toList [] ('"' :: rest)
    have characters : joinPieces pieces = some text.toList := by
      have alone := joined []
      simpa [joinPieces] using alone
    show lexFrom .between ('"' :: (text.toList.flatMap quoteChar ++ ['"'] ++ rest)) = _
    rw [opened, List.append_assoc, List.singleton_append, read, lexFrom_closed]
    simp [characters]

/-- A valid scalar is read back where no word can go on behind it. -/
theorem lexFrom_scalar {s : Scalar} (valid : s.Valid) {rest : List Char} (stops : Stops rest) :
    lexFrom .between (s.text ++ rest) = (lexFrom .between rest).map (.scalar s :: ·) := by
  have number {word : List Char} {s : Scalar} (read : number? word = some s) :
      lexFrom .between (word ++ rest) = (lexFrom .between rest).map (.scalar s :: ·) :=
    lexFrom_word (word?_of_number? read) (isWordChar_of_number? read) (number?_ne_nil read) stops
  cases s with
  | null => exact lexFrom_word rfl (List.all_eq_true.mp rfl) (List.cons_ne_nil _ _) stops
  | bool b =>
    cases b <;> exact lexFrom_word rfl (List.all_eq_true.mp rfl) (List.cons_ne_nil _ _) stops
  | int n => exact number (number?_repr n)
  | real literal => exact number valid
  | str text => exact lexFrom_quote text rest

/-- Tokens that are read back from their text. -/
def Legible (tokens : List Token) : Prop :=
  lex (tokens.flatMap Token.text) = some tokens

def Ending (tokens : List Token) : Prop :=
  Stops (tokens.flatMap Token.text)

def Token.IsMark : Token → Prop
  | .scalar _ => False
  | _ => True

section Marks

variable {token : Token} {rest : List Token}

theorem ending_nil : Ending [] := by
  intro c head
  cases head

theorem ending_mark (mark : token.IsMark) : Ending (token :: rest) := by
  intro c head
  cases token with
  | scalar => exact absurd mark id
  | beginArray | endArray | beginObject | endObject | comma | colon =>
    cases head
    rfl

theorem legible_nil : Legible [] := rfl

theorem legible_mark (mark : token.IsMark) (legible : Legible rest) : Legible (token :: rest) := by
  have step : lex ((token :: rest).flatMap Token.text) =
      (lex (rest.flatMap Token.text)).map (token :: ·) := by
    cases token with
    | scalar => exact absurd mark id
    | beginArray | endArray | beginObject | endObject | comma | colon => rfl
  rw [Legible, step, legible]
  rfl

theorem legible_scalar {s : Scalar} (valid : s.Valid) (legible : Legible rest) (ending : Ending rest) :
    Legible (.scalar s :: rest) := by
  have step : lex ((Token.scalar s :: rest).flatMap Token.text) =
      (lex (rest.flatMap Token.text)).map (.scalar s :: ·) := lexFrom_scalar valid ending
  rw [Legible, step, legible]
  rfl

end Marks

theorem valid_of_number? {word : List Char} {s : Scalar} (read : number? word = some s) : s.Valid := by
  cases s with
  | null | bool | int | str => trivial
  | real literal =>
    have same : literal.toList = word := by
      simp only [number?, Option.ite_none_right_eq_some] at read
      obtain ⟨-, read⟩ := read
      split_ifs at read <;> cases read <;> exact String.toList_ofList
    show number? literal.toList = some (.real literal)
    rw [same, read]

theorem valid_of_word? {word : List Char} {s : Scalar} (read : word? word = some s) : s.Valid := by
  unfold word? at read
  split at read
  · cases read
    trivial
  · split at read
    · cases read
      trivial
    · split at read
      · cases read
        trivial
      · exact valid_of_number? read

theorem valid_of_lexBetween {c : Char} {state : Lexing} {tokens : List Token}
    (step : lexBetween c = some (state, tokens)) : ∀ token ∈ tokens, token.Valid := by
  unfold lexBetween at step
  split_ifs at step <;> cases step <;> simp [Token.Valid]

theorem valid_of_lexStep {state next : Lexing} {c : Char} {tokens : List Token}
    (step : lexStep state c = some (next, tokens)) : ∀ token ∈ tokens, token.Valid := by
  cases state with
  | between => exact valid_of_lexBetween step
  | word seen =>
    rw [lexStep] at step
    split at step
    · cases step
      simp
    · split at step
      · rename_i scalar state made word between
        cases step
        rw [List.forall_mem_cons]
        exact ⟨valid_of_word? word, valid_of_lexBetween between⟩
      · cases step
  | string seen =>
    rw [lexStep] at step
    split_ifs at step <;> cases step <;> simp [Token.Valid, Scalar.Valid]
  | escape seen =>
    rw [lexStep] at step
    split at step
    · cases step
      simp
    · obtain ⟨d, -, made⟩ := Option.map_eq_some_iff.mp step
      cases made
      simp
  | unit left value seen =>
    obtain ⟨d, -, made⟩ := Option.map_eq_some_iff.mp step
    cases left <;> cases made <;> simp

theorem valid_of_lexFrom {state : Lexing} {text : List Char} {tokens : List Token}
    (read : lexFrom state text = some tokens) : ∀ token ∈ tokens, token.Valid := by
  induction text generalizing state tokens with
  | nil =>
    cases state with
    | between =>
      cases read
      simp
    | word seen =>
      obtain ⟨s, word, rfl⟩ := Option.map_eq_some_iff.mp read
      rw [List.forall_mem_singleton]
      exact valid_of_word? word
    | string | escape | unit => cases read
  | cons c rest ih =>
    rw [lexFrom] at read
    split at read
    · rename_i next made step
      obtain ⟨others, later, rfl⟩ := Option.map_eq_some_iff.mp read
      rw [List.forall_mem_append]
      exact ⟨valid_of_lexStep step, ih later⟩
    · cases read

end ThreeAddress.Json
