import Sluice.Json.Reader

/-!
# What readers pass

A reader that goes past some bytes is described by what is written in front of it and what is left to
be done behind that: `Passes reader written onward rest` says that in front of `written` and then
`rest` the reader behaves just as `onward` does behind `written`, wherever in a text this is. A reader
that yields a value is the case in which nothing is left to be done. Since a reader may look at what
follows, `rest` is a part of the statement.
-/

namespace Sluice.Json

variable {α β : Type}

/-- The cursor between two parts of a text. -/
def Cursor.between (before rest : List UInt8) : Cursor :=
  ⟨rest, before.length, (before ++ rest).length⟩

/-- A reader in front of what is written behaves as another reader does behind it. -/
def Passes (reader : Reader α) (written : List UInt8) (onward : Reader α) (rest : List UInt8) :
    Prop :=
  ∀ before : List UInt8,
    reader (.between before (written ++ rest)) = onward (.between (before ++ written) rest)

/-- A reader yields a value for what is written in front of it, and stops behind that. -/
abbrev Reads (reader : Reader α) (written : List UInt8) (value : α) (rest : List UInt8) : Prop :=
  Passes reader written (pure value) rest

/-- A byte that separates nothing. -/
def IsBlank (byte : UInt8) : Prop :=
  byte = 0x20 ∨ byte = 0x0a ∨ byte = 0x09 ∨ byte = 0x0d

instance (byte : UInt8) : Decidable (IsBlank byte) :=
  inferInstanceAs (Decidable (byte = 0x20 ∨ byte = 0x0a ∨ byte = 0x09 ∨ byte = 0x0d))

/-- A reader that yields a value leaves its cursor alone. -/
theorem pure_apply (value : α) (cursor : Cursor) :
    (pure value : Reader α) cursor = (.ok value, cursor) := rfl

namespace Passes

variable {first second third reader : Reader α} {written more rest : List UInt8} {value : α}

/-- Nothing is passed by doing what is left to be done. -/
theorem refl (reader : Reader α) (rest : List UInt8) : Passes reader [] reader rest := by
  intro before
  rw [List.nil_append, List.append_nil]

/-- What two readers pass one after the other. -/
theorem trans (one : Passes first written second (more ++ rest))
    (two : Passes second more third rest) : Passes first (written ++ more) third rest := by
  intro before
  rw [List.append_assoc, one, two, List.append_assoc]

/-- A reader that yields a value hands it on. -/
theorem bind (reads : Reads first written value rest) (next : α → Reader β) :
    Passes (first >>= next) written (next value) rest := by
  intro before
  have done := reads before
  simp only [Bind.bind, ExceptT.bind, ExceptT.mk, StateT.bind]
  rw [done]
  rfl

/-- What follows a reader that yields a value, up to a value of its own. -/
theorem andThen {next : α → Reader β} {result : β}
    (one : Reads first written value (more ++ rest)) (two : Reads (next value) more result rest) :
    Reads (first >>= next) (written ++ more) result rest :=
  (one.bind next).trans two

/-- The place of a fault does not matter to a reader that has none. -/
theorem settled (reads : Reads reader written value rest) :
    Reads reader.settled written value rest := by
  intro before
  have done := reads before
  simp only [Reader.settled]
  rw [done]
  rfl

/-- An enclosed value, with what is passed on leaving the enclosure. -/
theorem enclosed {leave : Reader Unit} (reads : Reads reader written value (more ++ rest))
    (leaves : Reads leave more () rest) :
    Reads (reader.enclosed leave) (written ++ more) value rest := by
  intro before
  have done := reads before
  have left := leaves (before ++ written)
  rw [List.append_assoc]
  simp only [Reader.enclosed]
  rw [done]
  simp only [pure_apply]
  rw [left, ← List.append_assoc]
  rfl

end Passes

/-! ## Single bytes -/

/-- The byte in front of the cursor is passed. -/
theorem reads_pass (byte : UInt8) (rest : List UInt8) : Reads Reader.pass [byte] () rest := by
  intro before
  simp [Reader.pass, Cursor.between, pure_apply]

/-- The byte in front of the cursor is passed and yielded. -/
theorem reads_next (byte : UInt8) (rest : List UInt8) :
    Reads Reader.next [byte] (some byte) rest := by
  intro before
  simp [Reader.next, Cursor.between, pure_apply]

/-- The byte in front of the cursor is shown. -/
theorem reads_peek (rest : List UInt8) : Reads Reader.peek [] rest.head? rest := by
  intro before
  simp [Reader.peek, Cursor.between, pure_apply]

/-- Where there is no blank, none is skipped. -/
theorem reads_look {rest : List UInt8} (solid : ∀ byte, rest.head? = some byte → ¬ IsBlank byte) :
    Reads Reader.look [] rest.head? rest := by
  have kept (offset : Nat) : Reader.dropBlanks offset rest = (offset, rest) := by
    cases rest with
    | nil => rfl
    | cons byte tail => exact if_neg (solid byte rfl)
  intro before
  simp only [Reader.look, Cursor.between, List.nil_append, List.append_nil, kept]
  rfl

namespace Passes

variable {byte : UInt8} {written rest : List UInt8} {onward : Reader β}

/-- A reader that passes a byte and goes on. -/
theorem pass {next : Unit → Reader β} (passes : Passes (next ()) written onward rest) :
    Passes (Reader.pass >>= next) (byte :: written) onward rest :=
  ((reads_pass byte (written ++ rest)).bind next).trans passes

/-- A reader that takes a byte and goes on. -/
theorem next {next : Option UInt8 → Reader β} (passes : Passes (next (some byte)) written onward rest) :
    Passes (Reader.next >>= next) (byte :: written) onward rest :=
  ((reads_next byte (written ++ rest)).bind next).trans passes

/-- A reader that peeks at what follows and goes on. -/
theorem peek {next : Option UInt8 → Reader β}
    (passes : Passes (next (written ++ rest).head?) written onward rest) :
    Passes (Reader.peek >>= next) written onward rest :=
  ((reads_peek (written ++ rest)).bind next).trans passes

/-- A reader that looks at a byte that is no blank and goes on. -/
theorem look {next : Option UInt8 → Reader β} (solid : ¬ IsBlank byte)
    (passes : Passes (next (some byte)) (byte :: written) onward rest) :
    Passes (Reader.look >>= next) (byte :: written) onward rest := by
  have looked : Reads Reader.look [] (some byte) (byte :: written ++ rest) :=
    reads_look fun _ shown => Option.some.inj shown ▸ solid
  exact (looked.bind next).trans passes

/-- A reader that looks ahead at a byte that is no blank and goes on. -/
theorem look_ahead {next : Option UInt8 → Reader β} (solid : ¬ IsBlank byte)
    (passes : Passes (next (some byte)) [] onward (byte :: rest)) :
    Passes (Reader.look >>= next) [] onward (byte :: rest) := by
  have looked : Reads Reader.look [] (some byte) (byte :: rest) :=
    reads_look fun _ shown => Option.some.inj shown ▸ solid
  exact (looked.bind next).trans passes

/-- A reader that looks at the end of the text and goes on. -/
theorem look_end {next : Option UInt8 → Reader β} (passes : Passes (next none) [] onward []) :
    Passes (Reader.look >>= next) [] onward [] := by
  have looked : Reads Reader.look [] none [] := reads_look fun _ shown => by cases shown
  exact (looked.bind next).trans passes

/-- A reader that moves its cursor first goes on alike from places that are moved to the same one. -/
theorem moving {move : Cursor → Cursor} {next : PUnit → Reader β}
    (same : ∀ before : List UInt8,
      move (.between before (written ++ rest)) = move (.between (before ++ written) rest)) :
    Passes (modify move >>= next) written (modify move >>= next) rest :=
  fun before => congrArg (next ⟨⟩) (same before)

/-- A reader that moves its cursor first, but not from here. -/
theorem resting {move : Cursor → Cursor} {next : PUnit → Reader β}
    (fixed : ∀ before : List UInt8,
      move (.between before (written ++ rest)) = .between before (written ++ rest))
    (passes : Passes (next ⟨⟩) written onward rest) :
    Passes (modify move >>= next) written onward rest :=
  fun before => (congrArg (next ⟨⟩) (fixed before)).trans (passes before)

end Passes

/-- The letters of a word are passed. -/
theorem reads_word (letters rest : List UInt8) :
    Reads (Reader.word letters) letters () rest := by
  induction letters with
  | nil => exact .refl (pure ()) rest
  | cons letter letters ih =>
    refine .next ?_
    simp only [if_true]
    exact ih

/-- A colon is passed. -/
theorem reads_colon (rest : List UInt8) : Reads Reader.colon [0x3a] () rest :=
  .look (by decide) (reads_pass 0x3a rest)

/-! ## Whole texts -/

/-- A text that a reader passes to its end has the value that the reader yields. -/
theorem whole_of_reads {reader : Reader α} {bytes : List UInt8} {value : α}
    (reads : Reads reader bytes value []) : reader.whole bytes = .ok value := by
  unfold Reader.whole
  extract_lets trailing all
  have ended : Reads trailing [] () [] := .look_end (.refl _ _)
  have passed := (reads.bind fun value => trailing >>= fun _ => pure value).trans
    (ended.bind fun _ => pure value) []
  simp only [List.append_nil, List.nil_append] at passed
  have outcome : all (Cursor.start bytes) = (.ok value, Cursor.between bytes []) := passed
  rw [outcome]

end Sluice.Json
