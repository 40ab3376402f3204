import ThreeAddress.Input

set_option autoImplicit false

namespace ThreeAddress.Input

/-- Splitting loses nothing. -/
theorem splitLine_append (bytes : Bytes) :
    (splitLine bytes).1 ++ (splitLine bytes).2 = bytes := by
  induction bytes with
  | nil => rfl
  | cons b rest ih =>
    by_cases feed : b = 10
    · simp only [splitLine, feed, ↓reduceIte, List.cons_append, List.nil_append]
    · simp only [splitLine, feed, ↓reduceIte, List.cons_append, ih]

/-- A line has a line feed at its end at most, and goes without only at the end of the input. -/
theorem splitLine_feed (bytes : Bytes) :
    10 ∉ (splitLine bytes).1.dropLast ∧
      ((splitLine bytes).1.getLast? = some 10 ∨ (splitLine bytes).2 = []) := by
  induction bytes with
  | nil => exact ⟨List.not_mem_nil, Or.inr rfl⟩
  | cons b rest ih =>
    by_cases feed : b = 10
    · simp only [splitLine, feed, ↓reduceIte]
      exact ⟨List.not_mem_nil, Or.inl rfl⟩
    · obtain ⟨inner, closed⟩ := ih
      simp only [splitLine, feed, ↓reduceIte]
      cases line : (splitLine rest).1 with
      | nil =>
        rw [line] at closed
        rcases closed with absent | empty
        · cases absent
        · exact ⟨List.not_mem_nil, Or.inr empty⟩
      | cons c tail =>
        rw [line] at inner closed
        refine ⟨?_, ?_⟩
        · rw [List.dropLast_cons_cons, List.mem_cons, not_or]
          exact ⟨fun same => feed same.symm, inner⟩
        · rwa [List.getLast?_cons_cons]

/-- What is left of an input when one line is taken off. An input that cannot be read stays so. -/
inductive TakesLine : Input → Input → Prop
  | line {taken rest : Bytes} (inner : 10 ∉ taken.dropLast)
      (closed : taken.getLast? = some 10 ∨ rest = []) :
      TakesLine (.bytes (taken ++ rest)) (.bytes rest)
  | unreadable (reason : String) : TakesLine (.unreadable reason) (.unreadable reason)

theorem readLine_takesLine (input : Input) : TakesLine input input.readLine.2 := by
  unfold readLine
  split
  · exact .unreadable _
  · have nothing : TakesLine (.bytes ([] ++ [])) (.bytes []) := .line List.not_mem_nil (Or.inr rfl)
    exact nothing
  · rename_i bytes nonempty
    obtain ⟨inner, closed⟩ := splitLine_feed bytes
    have taken : TakesLine (.bytes ((splitLine bytes).1 ++ (splitLine bytes).2))
        (.bytes (splitLine bytes).2) := .line inner closed
    rw [splitLine_append] at taken
    dsimp only
    split <;> exact taken

/-- The lines of a byte string, each with its line feed; the last may go without. -/
def chunks : Bytes → List Bytes
  | [] => []
  | b :: rest =>
    if b = 10 then [b] :: chunks rest
    else
      match chunks rest with
      | [] => [[b]]
      | line :: lines => (b :: line) :: lines

/-- A byte string that is not empty is its first line and the lines of the rest. -/
theorem chunks_eq_cons {bytes : Bytes} (nonempty : bytes ≠ []) :
    chunks bytes = (splitLine bytes).1 :: chunks (splitLine bytes).2 := by
  induction bytes with
  | nil => exact absurd rfl nonempty
  | cons b rest ih =>
    by_cases feed : b = 10
    · simp only [chunks, splitLine, feed, ↓reduceIte]
    · simp only [chunks, splitLine, feed, ↓reduceIte]
      cases rest with
      | nil => rfl
      | cons c tail => rw [ih (List.cons_ne_nil c tail)]

theorem chunks_flatten (bytes : Bytes) : (chunks bytes).flatten = bytes := by
  induction bytes with
  | nil => rfl
  | cons b rest ih =>
    by_cases feed : b = 10
    · simp only [chunks, feed, ↓reduceIte, List.flatten_cons, List.singleton_append, ih]
    · simp only [chunks, feed, ↓reduceIte]
      split
      · rename_i empty
        rw [← ih, empty]
        rfl
      · rename_i line lines more
        rw [← ih, more]
        rfl

/-- The lines behind the first are the lines of what is behind it. -/
theorem chunks_tail (bytes : Bytes) : (chunks bytes).tail = chunks (splitLine bytes).2 := by
  cases bytes with
  | nil => rfl
  | cons b rest => rw [chunks_eq_cons (List.cons_ne_nil b rest), List.tail_cons]

/-- Without some of its first lines, a byte string has the others. -/
theorem chunks_drop_flatten (bytes : Bytes) (count : Nat) :
    chunks ((chunks bytes).drop count).flatten = (chunks bytes).drop count := by
  induction count generalizing bytes with
  | zero => rw [List.drop_zero, chunks_flatten]
  | succ count ih => rw [← List.drop_tail, chunks_tail, ih]

/-- What a line is read as: nothing at the end of the input, else its text if it has one. -/
def received : Option Bytes → Except Fault (Option String)
  | none => .ok none
  | some line =>
    match Utf8.toString? (stripEnd line) with
    | some text => .ok (some text)
    | none => .error notText

/-- Reading receives the first line and leaves the others. -/
theorem readLine_bytes (bytes : Bytes) :
    readLine (.bytes bytes) =
      (received (chunks bytes).head?, .bytes (chunks bytes).tail.flatten) := by
  cases bytes with
  | nil => rfl
  | cons b rest =>
    rw [chunks_tail, chunks_flatten, chunks_eq_cons (List.cons_ne_nil b rest), List.head?_cons]
    simp only [readLine, received]
    cases Utf8.toString? (stripEnd (splitLine (b :: rest)).1) <;> rfl

end ThreeAddress.Input
