import ThreeAddress.Proofs.Encoding
import ThreeAddress.Proofs.Lines

set_option autoImplicit false

namespace ThreeAddress.Input

inductive Ending where
  | feed
  | returnFeed
  /-- The end of the input. -/
  | missing
  deriving DecidableEq, Repr

def Ending.bytes : Ending → Bytes
  | .feed => [10]
  | .returnFeed => [13, 10]
  | .missing => []

/-- A chunk without a line feed, and what ends it. A carriage return at the end of the chunk is followed
by another one or by nothing, and only a chunk that is not empty can go without an ending. -/
@[ext] structure Line where
  chunk : Bytes
  ending : Ending
  free : 10 ∉ chunk
  plain : ending = .feed → chunk.getLast? ≠ some 13
  filled : ending = .missing → chunk ≠ []

def Line.bytes (line : Line) : Bytes :=
  line.chunk ++ line.ending.bytes

/-- What a line is read as: its chunk if that is a text. -/
def Line.text (line : Line) : Except Fault String :=
  match Utf8.toString? line.chunk with
  | some text => .ok text
  | none => .error notText

/-- The bytes of lines, one behind the other. -/
def joined (lines : List Line) : Bytes :=
  lines.flatMap Line.bytes

/-- Only the last line may go without an ending. -/
def Laid (lines : List Line) : Prop :=
  ∀ line ∈ lines.dropLast, line.ending ≠ .missing

theorem joined_cons (line : Line) (lines : List Line) :
    joined (line :: lines) = line.bytes ++ joined lines := rfl

theorem laid_cons {line : Line} {lines : List Line} :
    Laid (line :: lines) ↔ (line.ending = .missing → lines = []) ∧ Laid lines := by
  cases lines with
  | nil => simp [Laid]
  | cons next lines => simp [Laid, List.dropLast_cons_cons]

theorem Line.bytes_ne_nil (line : Line) : line.bytes ≠ [] := by
  intro empty
  obtain ⟨noChunk, noEnding⟩ := List.append_eq_nil_iff.mp empty
  cases ending : line.ending with
  | feed | returnFeed =>
    rw [ending] at noEnding
    cases noEnding
  | missing => exact line.filled ending noChunk

theorem splitLine_of_free {body : Bytes} (free : 10 ∉ body) : splitLine body = (body, []) := by
  induction body with
  | nil => rfl
  | cons b body ih =>
    rw [List.mem_cons, not_or] at free
    have other : b ≠ 10 := Ne.symm free.1
    simp only [splitLine, other, ↓reduceIte, ih free.2]

theorem splitLine_of_feed {body : Bytes} (free : 10 ∉ body) (rest : Bytes) :
    splitLine (body ++ 10 :: rest) = (body ++ [10], rest) := by
  induction body with
  | nil => rfl
  | cons b body ih =>
    rw [List.mem_cons, not_or] at free
    have other : b ≠ 10 := Ne.symm free.1
    simp only [List.cons_append, splitLine, other, ↓reduceIte, ih free.2]

/-- A line is split off whole, whatever follows it. -/
theorem splitLine_bytes (line : Line) {rest : Bytes} (closed : line.ending = .missing → rest = []) :
    splitLine (line.bytes ++ rest) = (line.bytes, rest) := by
  have free := line.free
  cases ending : line.ending with
  | feed =>
    rw [Line.bytes, ending, Ending.bytes, List.append_assoc, List.singleton_append,
      splitLine_of_feed free]
  | returnFeed =>
    have freeToo : 10 ∉ line.chunk ++ [13] := by simp [free]
    have split := splitLine_of_feed freeToo rest
    rw [List.append_assoc, List.append_assoc] at split
    rw [Line.bytes, ending, Ending.bytes, List.append_assoc]
    exact split
  | missing =>
    rw [closed ending, Line.bytes, ending, Ending.bytes, List.append_nil, List.append_nil,
      splitLine_of_free free]

/-- Without its ending, a line is its chunk. -/
theorem stripEnd_bytes (line : Line) : stripEnd line.bytes = line.chunk := by
  cases ending : line.ending with
  | feed =>
    have shown : line.bytes.reverse = 10 :: line.chunk.reverse := by
      rw [Line.bytes, ending, Ending.bytes, List.reverse_append]
      rfl
    have plain := line.plain ending
    rw [← List.head?_reverse] at plain
    unfold stripEnd
    rw [shown]
    split
    · rename_i rest same
      rw [(List.cons.inj same).2] at plain
      exact absurd rfl plain
    · rename_i rest _ same
      rw [← (List.cons.inj same).2, List.reverse_reverse]
    · rename_i other
      exact absurd rfl (other _)
  | returnFeed =>
    have shown : line.bytes.reverse = 10 :: 13 :: line.chunk.reverse := by
      rw [Line.bytes, ending, Ending.bytes, List.reverse_append]
      rfl
    rw [stripEnd, shown]
    exact List.reverse_reverse _
  | missing =>
    have bare : line.bytes = line.chunk := by
      rw [Line.bytes, ending, Ending.bytes, List.append_nil]
    have free : 10 ∉ line.chunk.reverse := by
      rw [List.mem_reverse]
      exact line.free
    rw [bare]
    unfold stripEnd
    split
    · rename_i rest same
      rw [same] at free
      exact absurd List.mem_cons_self free
    · rename_i rest _ same
      rw [same] at free
      exact absurd List.mem_cons_self free
    · rfl

theorem Line.bytes_injective : Function.Injective Line.bytes := by
  intro line other same
  have chunk : line.chunk = other.chunk := by
    rw [← stripEnd_bytes, same, stripEnd_bytes]
  have endings : line.ending.bytes = other.ending.bytes := by
    rw [Line.bytes, Line.bytes, chunk] at same
    exact List.append_cancel_left same
  have ending : line.ending = other.ending := by
    cases first : line.ending <;> cases second : other.ending <;>
      rw [first, second] at endings <;> first | rfl | cases endings
  exact Line.ext chunk ending

theorem chunks_joined {lines : List Line} (laid : Laid lines) :
    chunks (joined lines) = lines.map Line.bytes := by
  induction lines with
  | nil => rfl
  | cons line lines ih =>
    obtain ⟨closed, laid⟩ := laid_cons.mp laid
    have ended : line.ending = .missing → joined lines = [] := by
      intro missing
      rw [closed missing]
      rfl
    have nonempty : line.bytes ++ joined lines ≠ [] := by
      intro empty
      exact line.bytes_ne_nil (List.append_eq_nil_iff.mp empty).1
    rw [joined_cons, chunks_eq_cons nonempty, splitLine_bytes line ended, ih laid, List.map_cons]

/-- What stands in front of a line feed and with it is a line. -/
theorem exists_line_of_feed {body : Bytes} (free : 10 ∉ body) :
    ∃ line : Line, line.bytes = body ++ [10] ∧ line.ending ≠ .missing := by
  by_cases returned : body.getLast? = some 13
  · obtain ⟨chunk, rfl⟩ := List.getLast?_eq_some_iff.mp returned
    have freeToo : 10 ∉ chunk := by
      intro member
      exact free (List.mem_append_left _ member)
    refine ⟨⟨chunk, .returnFeed, freeToo, nofun, nofun⟩, ?_, nofun⟩
    rw [List.append_assoc]
    rfl
  · exact ⟨⟨body, .feed, free, fun _ => returned, nofun⟩, rfl, nofun⟩

theorem exists_laid (bytes : Bytes) : ∃ lines, Laid lines ∧ joined lines = bytes := by
  -- Every line takes a byte, so that fewer are left behind it.
  induction size : bytes.length using Nat.strong_induction_on generalizing bytes with
  | _ length ih =>
    by_cases fed : 10 ∈ bytes
    · obtain ⟨body, rest, rfl, free⟩ := List.eq_append_cons_of_mem fed
      obtain ⟨line, written, ended⟩ := exists_line_of_feed free
      have shorter : rest.length < length := by
        rw [← size, List.length_append, List.length_cons]
        omega
      obtain ⟨lines, laid, behind⟩ := ih rest.length shorter rest rfl
      refine ⟨line :: lines, laid_cons.mpr ⟨fun missing => absurd missing ended, laid⟩, ?_⟩
      rw [joined_cons, written, behind, List.append_assoc, List.singleton_append]
    · by_cases empty : bytes = []
      · exact ⟨[], nofun, empty.symm⟩
      · refine ⟨[⟨bytes, .missing, fed, nofun, fun _ => empty⟩], nofun, ?_⟩
        rw [joined_cons, Line.bytes, Ending.bytes, List.append_nil]
        exact List.append_nil _

theorem joined_inj {lines others : List Line} (laid : Laid lines) (laidToo : Laid others)
    (same : joined lines = joined others) : lines = others := by
  have bytes := chunks_joined laid
  rw [same, chunks_joined laidToo] at bytes
  exact (List.map_injective_iff.mpr Line.bytes_injective bytes).symm

def afterReads (input : Input) : Nat → Input
  | 0 => input
  | count + 1 => (input.afterReads count).readLine.2

theorem readLine_joined {lines : List Line} (laid : Laid lines) :
    readLine (.bytes (joined lines)) =
      (received (lines.head?.map Line.bytes), .bytes (joined lines.tail)) := by
  rw [readLine_bytes, chunks_joined laid, List.head?_map, ← List.map_tail, ← List.flatMap_def]
  rfl

theorem Laid.drop {lines : List Line} (laid : Laid lines) (count : Nat) : Laid (lines.drop count) := by
  induction count generalizing lines with
  | zero => exact laid
  | succ count ih =>
    cases lines with
    | nil => exact laid
    | cons line lines => exact ih (laid_cons.mp laid).2

/-- What is left after so many reads are the lines that were not read. -/
theorem afterReads_joined {lines : List Line} (laid : Laid lines) (count : Nat) :
    afterReads (.bytes (joined lines)) count = .bytes (joined (lines.drop count)) := by
  induction count with
  | zero => rfl
  | succ count ih => rw [afterReads, ih, readLine_joined (laid.drop count), List.tail_drop]

theorem readLine_behind {lines : List Line} (laid : Laid lines) {count : Nat}
    (behind : lines.length ≤ count) :
    (afterReads (.bytes (joined lines)) count).readLine = (.ok none, .bytes []) := by
  rw [afterReads_joined laid, List.drop_eq_nil_of_le behind]
  rfl

theorem received_bytes (line : Line) : received (some line.bytes) = line.text.map some := by
  simp only [received, stripEnd_bytes, Line.text]
  cases Utf8.toString? line.chunk <;> rfl

/-- The chunk of a line is a text and read as that, or it is none and an error. -/
theorem Line.text_cases (line : Line) :
    (Utf8.valid line.chunk = true ∧ ∃ text, line.text = .ok text ∧ Utf8.ofString text = line.chunk) ∨
      Utf8.valid line.chunk = false ∧ line.text = .error notText := by
  cases read : Utf8.decode? line.chunk with
  | none =>
    right
    simp only [Utf8.valid, Line.text, Utf8.toString?, read]
    exact ⟨rfl, rfl⟩
  | some cs =>
    left
    have written := Utf8.decode?_eq_some_iff.mp read
    simp only [Utf8.valid, Line.text, Utf8.toString?, read]
    refine ⟨rfl, String.ofList cs, rfl, ?_⟩
    rw [Utf8.ofString, String.toList_ofList, written]

theorem readLines_joined {lines : List Line} (laid : Laid lines) (count : Nat) :
    readLines count (.bytes (joined lines)) = (lines.take count).map Line.text := by
  induction count generalizing lines with
  | zero => rfl
  | succ count ih =>
    rw [readLines, readLine_joined laid]
    cases lines with
    | nil => rfl
    | cons line lines =>
      rw [List.head?_cons, Option.map_some, received_bytes, List.tail_cons, List.take_succ_cons,
        List.map_cons]
      cases line.text <;> exact congrArg _ (ih (laid_cons.mp laid).2)

theorem length_le_joined (lines : List Line) : lines.length ≤ (joined lines).length := by
  induction lines with
  | nil => exact Nat.le_refl 0
  | cons line lines ih =>
    have taken := List.length_pos_iff.mpr line.bytes_ne_nil
    rw [joined_cons, List.length_append, List.length_cons]
    omega

/-- Splitting into lines loses and invents nothing. Every byte string is a sequence of lines in exactly
one way. Reading it, each call gives the chunk of the next line if that is a text, and an error if it is
not, and takes exactly that line off; behind the last line every call says that the input is at its end.
A loop that reads until then has read all lines, and ends on every byte string. -/
theorem lines_read_back :
    (∀ bytes : Bytes, ∃! lines, Laid lines ∧ joined lines = bytes) ∧
      (∀ lines, Laid lines →
        linesOf (joined lines) = lines.map Line.text ∧
        ∀ count,
          let here := afterReads (.bytes (joined lines)) count
          here = .bytes (joined (lines.drop count)) ∧
          (lines.length ≤ count → here.readLine = (.ok none, .bytes [])) ∧
          ∀ line, lines[count]? = some line →
            here.readLine.2 = .bytes (joined (lines.drop (count + 1))) ∧
            (Utf8.valid line.chunk = true →
              ∃ text, here.readLine.1 = .ok (some text) ∧ Utf8.ofString text = line.chunk) ∧
            (Utf8.valid line.chunk = false →
              here.readLine.1 = .error notText ∧ notText.kind = .internal)) ∧
      ∀ bytes : Bytes, ∃ enough ≤ bytes.length, ∀ count, enough ≤ count →
        (afterReads (.bytes bytes) count).readLine = (.ok none, .bytes []) := by
  refine ⟨?_, ?_, ?_⟩
  · intro bytes
    obtain ⟨lines, laid, written⟩ := exists_laid bytes
    refine ⟨lines, ⟨laid, written⟩, ?_⟩
    rintro others ⟨laidToo, writtenToo⟩
    exact joined_inj laidToo laid (writtenToo.trans written.symm)
  · intro lines laid
    refine ⟨?_, ?_⟩
    · rw [linesOf, readLines_joined laid, List.take_of_length_le (length_le_joined lines)]
    · intro count here
      have left : here = .bytes (joined (lines.drop count)) := afterReads_joined laid count
      refine ⟨left, readLine_behind laid, ?_⟩
      intro line found
      have read := readLine_joined (laid.drop count)
      rw [← left, List.head?_drop, List.tail_drop, found, Option.map_some, received_bytes] at read
      rw [read]
      refine ⟨rfl, ?_⟩
      rcases line.text_cases with ⟨valid, text, came, chunk⟩ | ⟨invalid, came⟩
      · rw [came, valid]
        exact ⟨fun _ => ⟨text, rfl, chunk⟩, nofun⟩
      · rw [came, invalid]
        exact ⟨nofun, fun _ => ⟨rfl, rfl⟩⟩
  · intro bytes
    obtain ⟨lines, laid, rfl⟩ := exists_laid bytes
    exact ⟨lines.length, length_le_joined lines, fun count => readLine_behind laid⟩

/-- A carriage return in front of an ending, a chunk that is no text, an empty line, and a carriage
return at the end of the input. -/
def mixedLines : List Line :=
  [⟨[97, 13], .returnFeed, by decide, nofun, nofun⟩, ⟨[255], .feed, by decide, by decide, nofun⟩,
    ⟨[], .feed, by decide, by decide, nofun⟩, ⟨[98, 13], .missing, by decide, nofun, by decide⟩]

/-- The chunk that is no text is an error once, and the lines behind it are read. -/
theorem lines_read_back_mixedLines :
    let input : Input := .bytes [97, 13, 13, 10, 255, 10, 10, 98, 13]
    Laid mixedLines ∧ input = .bytes (joined mixedLines) ∧
      (input.afterReads 1).readLine = (.error notText, .bytes [10, 98, 13]) ∧
      (∃ text, (input.afterReads 3).readLine.1 = .ok (some text) ∧ Utf8.ofString text = [98, 13]) ∧
      (input.afterReads 7).readLine = (.ok none, .bytes []) := by
  intro input
  have laid : Laid mixedLines := by
    intro line member
    fin_cases member <;> nofun
  have reads := (lines_read_back.2.1 mixedLines laid).2
  obtain ⟨behind, -, invalid⟩ := (reads 1).2.2 _ rfl
  obtain ⟨-, valid, -⟩ := (reads 3).2.2 _ rfl
  refine ⟨laid, rfl, ?_, valid (by decide), (reads 7).2.1 (by decide)⟩
  exact Prod.ext (invalid (by decide)).1 behind

end ThreeAddress.Input
