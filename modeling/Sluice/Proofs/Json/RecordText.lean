import Sluice.Proofs.Json.ObjectText

/-!
# Reading back records

A record is read from the text of an object whose members its shape takes one after another
(`reads_shape`). A member is taken by the field of its key, once (`reads_field`).
-/

namespace Sluice.Json

open Text.Utf8 (encodeChars)

variable {σ α : Type} {shape : Reader.Shape σ α} {state taken final : σ} {rest : List UInt8}

/-- A text is read back by the reader of texts. -/
theorem reads_textValue (expected value : String) (rest : List UInt8) :
    Reads (Reader.textValue expected) (encodeChars (chars (.text value))) value rest := by
  rw [chars]
  exact .look (by decide) (.pass (reads_text value rest))

/-- A text is read back by the reader of texts that may be left out. -/
theorem reads_optional_textValue (expected value : String) (rest : List UInt8) :
    Reads (Reader.optional (Reader.textValue expected)) (encodeChars (chars (.text value)))
      (some value) rest := by
  have read := reads_textValue expected value rest
  rw [chars] at read ⊢
  exact .look (by decide) (read.bind fun value => pure (some value))

/-- Nothing is read back by the reader of texts that may be left out. -/
theorem reads_optional_null (expected : String) (rest : List UInt8) :
    Reads (Reader.optional (Reader.textValue expected)) (encodeChars (chars .null)) none rest := by
  rw [chars]
  exact .look (by decide) (.pass ((reads_word _ rest).bind fun _ => pure none))

/-- A truth value is read back by the reader of truth values. -/
theorem reads_boolValue (value : Bool) (rest : List UInt8) :
    Reads Reader.boolValue (encodeChars (chars (.bool value))) value rest := by
  rw [chars]
  cases value <;>
    exact .look (by decide) (.pass ((reads_word _ rest).bind fun _ => pure _))

/-- One of some words is read back as what it stands for. -/
theorem reads_choice {options : List (String × α)} {word : String} {value : α}
    (known : options.lookup word = some value) (rest : List UInt8) :
    Reads (Reader.choice options) (encodeChars (chars (.text word))) value rest := by
  have named {next : String → Reader α} (found : next word = pure value) :
      Reads (Reader.textValue "variant identifier" >>= next) (encodeChars (chars (.text word)))
        value rest := by
    have onward := (reads_textValue "variant identifier" word rest).bind next
    rwa [found] at onward
  rw [chars] at named ⊢
  exact .look (by decide) (.settled (named (by simp only [known])))

/-- A member whose key names a field is taken by that field, unless the field has been read. -/
theorem reads_field {field : Reader.Field σ} {key : String} {value : Json}
    (found : shape.fields.find? (·.name == key) = some field) (unread : field.isRead state = false)
    (reads : Reads (field.read state) (encodeChars (chars value)) taken rest) :
    Reads (shape.member state key) (0x3a :: encodeChars (chars value)) taken rest := by
  simp only [Reader.Shape.member, found, unread, Bool.false_eq_true, if_false]
  exact (reads_colon _).andThen reads

/-- A record is read from the object whose members its shape takes. -/
theorem reads_shape {members : Members} {value : α}
    (takes : Takes shape.member shape.start members final)
    (finished : shape.finish final = .ok value) (rest : List UInt8) :
    Reads shape.reader (encodeChars (chars (.object members))) value rest := by
  have closed : shape.close final = pure value := by
    rw [Reader.Shape.close, finished]
  have body := (takes.reads_members rest).bind shape.close
  rw [closed] at body
  rw [encodeChars_object]
  exact .settled (.look (by decide) (.pass (body.enclosed (reads_leaveObject rest))))

/-- The text of an object whose members the shape takes is a record as a whole. -/
theorem whole_render_of_takes {members : Members} {value : α}
    (takes : Takes shape.member shape.start members final)
    (finished : shape.finish final = .ok value) :
    shape.reader.whole (Text.Utf8.encode (render (.object members))) = .ok value := by
  rw [Text.Utf8.encode, toList_render]
  exact whole_of_reads (reads_shape takes finished [])

end Sluice.Json
