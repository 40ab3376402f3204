import Mathlib
import ThreeAddress.Json.Tree
import ThreeAddress.Proofs.Tokens

set_option autoImplicit false

namespace ThreeAddress.Json

inductive Valid : Json → Prop
  | scalar {s : Scalar} (valid : s.Valid) : Valid (.scalar s)
  | arr {items : List Json} (each : ∀ item ∈ items, Valid item) : Valid (.arr items)
  | obj {fields : List (Option String × Json)} (each : ∀ entry ∈ fields, Valid entry.2) :
      Valid (.obj fields)

@[simp] theorem valid_scalar_iff {s : Scalar} : (scalar s).Valid ↔ s.Valid := by
  constructor
  · intro valid
    cases valid
    assumption
  · exact .scalar

@[simp] theorem valid_arr_iff {items : List Json} : (arr items).Valid ↔ ∀ item ∈ items, item.Valid := by
  constructor
  · intro valid
    cases valid
    assumption
  · exact .arr

@[simp] theorem valid_obj_iff {fields : List (Option String × Json)} :
    (obj fields).Valid ↔ ∀ entry ∈ fields, entry.2.Valid := by
  constructor
  · intro valid
    cases valid
    assumption
  · exact .obj

/-- The tokens of a value can stand in front of tokens that are legible and end a word. -/
def Writable (json : Json) : Prop :=
  ∀ rest, Legible rest → Ending rest → Legible (write json rest)

theorem writeItems_legible {items : List Json} (each : ∀ item ∈ items, item.Writable) {rest : List Token}
    (legible : Legible rest) (ending : Ending rest) : Legible (writeItems items rest) := by
  induction items with
  | nil => exact legible
  | cons item items ih =>
    rw [List.forall_mem_cons] at each
    cases items with
    | nil => exact each.1 rest legible ending
    | cons next items =>
      have later := ih each.2
      exact each.1 _ (legible_mark trivial later) (ending_mark trivial)

theorem writeFields_legible {fields : List (Option String × Json)}
    (each : ∀ entry ∈ fields, entry.2.Writable) {rest : List Token} (legible : Legible rest)
    (ending : Ending rest) : Legible (writeFields fields rest) := by
  have keyed (key : Option String) {others : List Token} (readable : Legible others) :
      Legible (.scalar (.str key) :: .colon :: others) :=
    legible_scalar trivial (legible_mark trivial readable) (ending_mark trivial)
  induction fields with
  | nil => exact legible
  | cons entry fields ih =>
    rw [List.forall_mem_cons] at each
    cases fields with
    | nil => exact keyed entry.1 (each.1 rest legible ending)
    | cons next fields =>
      have later := ih each.2
      exact keyed entry.1 (each.1 _ (legible_mark trivial later) (ending_mark trivial))

theorem Valid.writable {json : Json} (valid : json.Valid) : json.Writable := by
  induction valid with
  | scalar valid =>
    intro rest legible ending
    exact legible_scalar valid legible ending
  | arr each ih =>
    intro rest legible ending
    exact legible_mark trivial
      (writeItems_legible ih (legible_mark trivial legible) (ending_mark trivial))
  | obj each ih =>
    intro rest legible ending
    exact legible_mark trivial
      (writeFields_legible ih (legible_mark trivial legible) (ending_mark trivial))

/-- The text of a value has the tokens of the value. -/
theorem lex_render {json : Json} (valid : json.Valid) :
    lex json.render.toList = some json.tokens := by
  rw [render, String.toList_ofList]
  exact valid.writable [] legible_nil ending_nil

/-- Where a value comes next, its tokens put it there. -/
def Readable (json : Json) : Prop :=
  ∀ stack rest, parseFrom (.value stack) (write json rest) = parseFrom (put json stack) rest

/-- Items behind those before them complete their array. -/
theorem parseFrom_writeItems {item : Json} {items : List Json}
    (each : ∀ json ∈ item :: items, json.Readable) (done : List Json) (stack : List Opened)
    (rest : List Token) :
    parseFrom (.value (.array done :: stack)) (writeItems (item :: items) (.endArray :: rest)) =
      parseFrom (put (.arr (done.reverse ++ item :: items)) stack) rest := by
  induction items generalizing item done with
  | nil =>
    rw [List.forall_mem_singleton] at each
    rw [writeItems, each, put]
    simp [parseFrom, parseStep]
  | cons next items ih =>
    rw [List.forall_mem_cons] at each
    rw [writeItems, each.1, put]
    have later := ih each.2 (item :: done)
    simp only [parseFrom, parseStep]
    rw [later]
    simp

/-- A value is read in the same way as the first item and as another. -/
theorem parseFrom_firstItem (item : Json) (items : List Json) (stack : List Opened) (rest : List Token) :
    parseFrom (.firstItem stack) (writeItems (item :: items) rest) =
      parseFrom (.value (.array [] :: stack)) (writeItems (item :: items) rest) := by
  cases items <;> cases item <;> rfl

theorem parseFrom_value_field {key : Option String} {json : Json} (readable : json.Readable)
    (done : List (Option String × Json)) (stack : List Opened) (rest : List Token) :
    parseFrom (.colon done key stack) (.colon :: write json rest) =
      parseFrom (.afterField ((key, json) :: done) stack) rest := by
  rw [parseFrom, parseStep]
  exact readable (.object done key :: stack) rest

/-- A key is read in the same way as the first one and as another. -/
theorem parseFrom_firstKey (entry : Option String × Json) (fields : List (Option String × Json))
    (stack : List Opened) (rest : List Token) :
    parseFrom (.firstKey stack) (writeFields (entry :: fields) rest) =
      parseFrom (.key [] stack) (writeFields (entry :: fields) rest) := by
  cases fields <;> rfl

/-- Fields behind those before them complete their object. -/
theorem parseFrom_writeFields {entry : Option String × Json} {fields : List (Option String × Json)}
    (each : ∀ field ∈ entry :: fields, field.2.Readable) (done : List (Option String × Json))
    (stack : List Opened) (rest : List Token) :
    parseFrom (.key done stack) (writeFields (entry :: fields) (.endObject :: rest)) =
      parseFrom (put (.obj (done.reverse ++ entry :: fields)) stack) rest := by
  induction fields generalizing entry done with
  | nil =>
    rw [List.forall_mem_singleton] at each
    rw [writeFields, parseFrom, parseStep]
    dsimp only
    rw [parseFrom_value_field each]
    simp [parseFrom, parseStep]
  | cons next fields ih =>
    rw [List.forall_mem_cons] at each
    rw [writeFields, parseFrom, parseStep]
    dsimp only
    rw [parseFrom_value_field each.1]
    have later := ih each.2 (entry :: done)
    simp only [parseFrom, parseStep]
    rw [later]
    simp

theorem Valid.readable {json : Json} (valid : json.Valid) : json.Readable := by
  induction valid with
  | scalar =>
    intro stack rest
    rfl
  | @arr items each ih =>
    intro stack rest
    cases items with
    | nil => rfl
    | cons item items =>
      show parseFrom (.firstItem stack) (writeItems (item :: items) (.endArray :: rest)) = _
      rw [parseFrom_firstItem, parseFrom_writeItems ih]
      rfl
  | @obj fields each ih =>
    intro stack rest
    cases fields with
    | nil => rfl
    | cons entry fields =>
      show parseFrom (.firstKey stack) (writeFields (entry :: fields) (.endObject :: rest)) = _
      rw [parseFrom_firstKey, parseFrom_writeFields ih]
      rfl

/-- The text of a value is read back as the value. -/
theorem parse?_render {json : Json} (valid : json.Valid) : parse? json.render = some json := by
  have finished : parseFrom (.value []) json.tokens = some (.finished json) := valid.readable [] []
  rw [parse?, lex_render valid, Option.bind_some, ofTokens?, finished]

/-- What stands before a value that is waited for is valid. -/
def Opened.Valid : Opened → Prop
  | .array done => ∀ item ∈ done, item.Valid
  | .object done _ => ∀ entry ∈ done, entry.2.Valid

def Parsing.Valid : Parsing → Prop
  | .value stack | .firstItem stack | .firstKey stack => ∀ opened ∈ stack, opened.Valid
  | .key done stack | .colon done _ stack | .afterField done stack =>
    (∀ entry ∈ done, entry.2.Valid) ∧ ∀ opened ∈ stack, opened.Valid
  | .afterItem done stack => (∀ item ∈ done, item.Valid) ∧ ∀ opened ∈ stack, opened.Valid
  | .finished json => json.Valid

theorem valid_put {json : Json} (valid : json.Valid) {stack : List Opened}
    (outer : ∀ opened ∈ stack, opened.Valid) : (put json stack).Valid := by
  cases stack with
  | nil => exact valid
  | cons opened stack =>
    rw [List.forall_mem_cons] at outer
    cases opened with
    | array done => exact ⟨List.forall_mem_cons.mpr ⟨valid, outer.1⟩, outer.2⟩
    | object done key => exact ⟨List.forall_mem_cons.mpr ⟨valid, outer.1⟩, outer.2⟩

theorem valid_of_parseValue {stack : List Opened} (outer : ∀ opened ∈ stack, opened.Valid) {token : Token}
    (valid : token.Valid) {next : Parsing} (step : parseValue stack token = some next) : next.Valid := by
  cases token with
  | scalar s =>
    cases step
    exact valid_put (.scalar valid) outer
  | beginArray | beginObject =>
    cases step
    exact outer
  | endArray | endObject | comma | colon => cases step

/-- A valid token keeps what was read valid. -/
theorem valid_of_parseStep {state next : Parsing} (before : state.Valid) {token : Token}
    (valid : token.Valid) (step : parseStep state token = some next) : next.Valid := by
  have empty : ∀ entry ∈ ([] : List (Option String × Json)), entry.2.Valid := by simp
  cases state with
  | value stack => exact valid_of_parseValue before valid step
  | firstItem stack =>
    have within : ∀ opened ∈ .array [] :: stack, opened.Valid :=
      List.forall_mem_cons.mpr ⟨by simp [Opened.Valid], before⟩
    cases token with
    | endArray =>
      cases step
      exact valid_put (.arr (by simp)) before
    | beginArray | beginObject | endObject | comma | colon | scalar =>
      exact valid_of_parseValue within valid step
  | firstKey stack =>
    cases token with
    | endObject =>
      cases step
      exact valid_put (.obj empty) before
    | scalar s =>
      cases s <;> cases step
      exact ⟨empty, before⟩
    | beginArray | beginObject | endArray | comma | colon => cases step
  | key done stack =>
    cases token with
    | scalar s =>
      cases s <;> cases step
      exact before
    | beginArray | beginObject | endArray | endObject | comma | colon => cases step
  | colon done key stack =>
    cases token <;> cases step
    exact List.forall_mem_cons.mpr before
  | afterItem done stack =>
    cases token with
    | comma =>
      cases step
      exact List.forall_mem_cons.mpr before
    | endArray =>
      cases step
      have items : ∀ item ∈ done.reverse, item.Valid := by simpa using before.1
      exact valid_put (.arr items) before.2
    | beginArray | beginObject | endObject | colon | scalar => cases step
  | afterField done stack =>
    cases token with
    | comma =>
      cases step
      exact before
    | endObject =>
      cases step
      have fields : ∀ entry ∈ done.reverse, entry.2.Valid := by
        intro entry member
        exact before.1 entry (List.mem_reverse.mp member)
      exact valid_put (.obj fields) before.2
    | beginArray | beginObject | endArray | colon | scalar => cases step
  | finished json => cases step

theorem valid_of_parseFrom {state last : Parsing} {tokens : List Token} (before : state.Valid)
    (valid : ∀ token ∈ tokens, token.Valid) (read : parseFrom state tokens = some last) : last.Valid := by
  induction tokens generalizing state with
  | nil =>
    cases read
    exact before
  | cons token rest ih =>
    rw [List.forall_mem_cons] at valid
    rw [parseFrom] at read
    split at read
    · rename_i next step
      exact ih (valid_of_parseStep before valid.1 step) valid.2 read
    · cases read

/-- Every value that is read from a text has a text of its own. -/
theorem valid_of_parse? {text : String} {json : Json} (read : parse? text = some json) : json.Valid := by
  obtain ⟨tokens, lexed, formed⟩ := Option.bind_eq_some_iff.mp read
  have valid := valid_of_lexFrom lexed
  unfold ofTokens? at formed
  split at formed
  · rename_i value finished
    cases formed
    have empty : (Parsing.value []).Valid := by simp [Parsing.Valid]
    exact valid_of_parseFrom empty valid finished
  · cases formed

end ThreeAddress.Json
