import Sluice.Json.Record
import Sluice.Proofs.Json.ValueText

/-!
# Reading back objects

The members of an object are read back from its text in order, each with what a reader makes of its
value. The fold over the members is followed first, for any way of taking a member into a state; an
object whose values are all read alike is the case in which the state collects them.
-/

namespace Sluice.Json

open Text.Utf8 (encodeChars encodeChars_append)
open Reader (Frame)

variable {σ α : Type}

/-- The bytes of a member of an object. -/
abbrev memberText (pair : String × Json) : List UInt8 :=
  memberBytes pair.1 (encodeChars (chars pair.2))

/-- Where an object ends, no other member follows. -/
theorem reads_anotherMember_end (isFirst : Bool) (rest : List UInt8) :
    Reads (Reader.anotherMember isFirst) [] false (0x7d :: rest) :=
  .look_ahead (by decide) (.refl _ _)

/-- Behind the brace that opens an object, its first member follows. -/
theorem reads_anotherMember_first {rest : List UInt8} (key : rest.head? = some 0x22) :
    Reads (Reader.anotherMember true) [] true rest := by
  obtain ⟨others, rfl⟩ := List.head?_eq_some_iff.mp key
  exact .look_ahead (by decide) (.refl _ _)

/-- Behind a member, another one follows with a comma in front of it. -/
theorem reads_anotherMember_next {rest : List UInt8} (key : rest.head? = some 0x22) :
    Reads (Reader.anotherMember false) [0x2c] true rest := by
  obtain ⟨others, rfl⟩ := List.head?_eq_some_iff.mp key
  exact .look (by decide) (.pass (.look_ahead (by decide) (.refl _ _)))

/-- The brace that closes an object is passed on leaving it. -/
theorem reads_leaveObject (rest : List UInt8) : Reads Reader.leaveObject [0x7d] () rest :=
  .look (by decide) (reads_pass 0x7d rest)

/-- How members of an object are taken into a state, one after another. -/
inductive Takes (member : σ → String → Reader σ) : σ → Members → σ → Prop where
  | nil (state : σ) : Takes member state [] state
  | cons {state taken final : σ} {pair : String × Json} {pairs : Members}
      (reads : ∀ rest, Delimited rest →
        Reads (member state pair.1) (0x3a :: encodeChars (chars pair.2)) taken rest)
      (others : Takes member taken pairs final) : Takes member state (pair :: pairs) final

/-- What follows the members read so far, up to the brace that closes the object. -/
theorem delimited_members (pairs : Members) (rest : List UInt8) :
    Delimited ((pairs.map memberText).flatMap (0x2c :: ·) ++ 0x7d :: rest) := by
  have delimited := delimited_entries .object (pairs.map memberText) rest
  rwa [List.append_assoc] at delimited

namespace Takes

variable {member : σ → String → Reader σ} {state taken final : σ} {pair : String × Json}
  {pairs : Members}

/-- The key and the value of a member are read, and the member is taken into the state. -/
theorem passes_memberText {rest : List UInt8}
    (reads : Reads (member state pair.1) (0x3a :: encodeChars (chars pair.2)) taken rest)
    (steps : Nat) :
    Passes (do
        Reader.pass
        let key ← Reader.text
        let state ← member state key
        Reader.membersOnto member steps false state)
      (memberText pair) (Reader.membersOnto member steps false taken) rest :=
  .pass (((reads_text pair.1 _).bind _).trans (reads.bind _))

/-- Members with commas in front of them are taken up to the brace that closes the object. -/
theorem reads_later (takes : Takes member state pairs final) {steps : Nat}
    (enough : pairs.length < steps) (rest : List UInt8) :
    Reads (Reader.membersOnto member steps false state)
      ((pairs.map memberText).flatMap (0x2c :: ·)) final (0x7d :: rest) := by
  induction takes generalizing steps with
  | nil state =>
    obtain ⟨steps, rfl⟩ : ∃ less, steps = less + 1 := Nat.exists_eq_succ_of_ne_zero (by omega)
    exact (reads_anotherMember_end false rest).bind _
  | @cons state taken final pair pairs reads _ ih =>
    obtain ⟨steps, rfl⟩ : ∃ less, steps = less + 1 := Nat.exists_eq_succ_of_ne_zero (by omega)
    have one := passes_memberText (reads _ (delimited_members pairs rest)) steps
    have later := ih (Nat.lt_of_succ_lt_succ enough)
    rw [List.map_cons, List.flatMap_cons, List.cons_append, Reader.membersOnto]
    refine ((reads_anotherMember_next rfl).bind _).trans ?_
    rw [if_pos rfl]
    exact one.trans later

/-- An object has no more members than bytes. -/
theorem length_le_joined (pairs : Members) :
    pairs.length ≤ (joined (pairs.map memberText)).length := by
  have later (pairs : Members) :
      pairs.length ≤ ((pairs.map memberText).flatMap (0x2c :: ·)).length := by
    induction pairs with
    | nil => exact Nat.le_refl 0
    | cons pair pairs ih =>
      rw [List.map_cons, List.flatMap_cons, List.length_append, List.length_cons, List.length_cons]
      omega
  cases pairs with
  | nil => exact Nat.le_refl 0
  | cons pair pairs =>
    have bound := later pairs
    have some_byte : 0 < (memberText pair).length := Nat.succ_pos _
    rw [List.map_cons, joined, List.length_append, List.length_cons]
    omega

/-- The members of an object are taken up to the brace that closes it. -/
theorem reads_members (takes : Takes member state pairs final) (rest : List UInt8) :
    Reads (Reader.members member state) (joined (pairs.map memberText)) final (0x7d :: rest) := by
  intro before
  have bound := length_le_joined pairs
  simp only [Reader.members]
  generalize sized : (Cursor.between before (joined (pairs.map memberText) ++ 0x7d :: rest)).size =
    size
  have enough : pairs.length ≤ size := by
    rw [← sized]
    simp only [Cursor.between, List.length_append]
    omega
  cases takes with
  | nil => exact (reads_anotherMember_end true rest).bind _ before
  | @cons _ _ _ _ pairs reads others =>
    have one := passes_memberText (reads _ (delimited_members pairs rest)) size
    have later := others.reads_later (Nat.lt_of_succ_le enough) rest
    rw [Reader.membersOnto]
    refine ((reads_anotherMember_first rfl).bind _).trans ?_ before
    rw [if_pos rfl]
    exact one.trans later

end Takes

/-! ## Objects whose values are read alike -/

/-- Members whose keys are not held yet are collected in front of what is held. -/
theorem takes_collected {value : Reader α} {face : Json → α} {members : Members}
    (distinct : (members.map (·.1)).Nodup)
    (reads : ∀ pair ∈ members, ∀ rest, Delimited rest →
      Reads value (encodeChars (chars pair.2)) (face pair.2) rest)
    (held : List (String × α)) (fresh : ∀ entry ∈ held, entry.1 ∉ members.map (·.1)) :
    Takes (fun (held : List (String × α)) key => do
        Reader.colon
        let value ← value
        return (key, value) :: held.filter (·.1 ≠ key))
      held members ((members.map fun pair => (pair.1, face pair.2)).reverse ++ held) := by
  induction members generalizing held with
  | nil => exact .nil held
  | cons pair members ih =>
    obtain ⟨absent, distinct⟩ := List.nodup_cons.mp distinct
    have kept : held.filter (·.1 ≠ pair.1) = held := by
      refine List.filter_eq_self.mpr fun entry isHeld => ?_
      have different := fresh entry isHeld
      simp only [List.map_cons, List.mem_cons, not_or] at different
      simpa using different.1
    have later := ih distinct (fun other member => reads other (List.mem_cons_of_mem pair member))
      ((pair.1, face pair.2) :: held) fun entry isHeld => by
        rcases List.mem_cons.mp isHeld with rfl | earlier
        · exact absent
        · exact fun again => fresh entry earlier (List.mem_cons_of_mem _ again)
    refine .cons (fun rest delimited => ?_) (by simpa using later)
    have valued := reads pair List.mem_cons_self rest delimited
    simp only [kept]
    exact ((reads_colon _).bind _).trans (valued.bind _)

/-- An object with distinct keys is read with what the reader makes of each of its values. -/
theorem reads_mapValue {value : Reader α} {face : Json → α} {members : Members}
    (distinct : (members.map (·.1)).Nodup)
    (reads : ∀ pair ∈ members, ∀ rest, Delimited rest →
      Reads value (encodeChars (chars pair.2)) (face pair.2) rest) (rest : List UInt8) :
    Reads (Reader.mapValue value) (encodeChars (chars (.object members)))
      (members.map fun pair => (pair.1, face pair.2)) rest := by
  have takes := takes_collected distinct reads [] fun _ held => nomatch held
  have read := (takes.reads_members rest).enclosed (reads_leaveObject rest)
  rw [encodeChars_object]
  refine .settled (.look (by decide) (.pass ?_))
  have done := read.bind fun held => pure held.reverse
  simp only [List.append_nil, List.reverse_reverse] at done
  exact done

/-- Reads a text; any other value is passed over and counts as none. -/
def Reader.anyText : Reader (Option String) := do
  match ← look with
  | some byte =>
    if byte = 0x22 then do
      pass
      return some (← text)
    else do
      skip
      pure none
  | none => refuseNext .endInValue

/-- Only a text begins with a quote. -/
theorem first_of_chars {json : Json} (noText : json.text? = none) :
    ∃ first others, encodeChars (chars json) = first :: others ∧ first ≠ 0x22 ∧ ¬ IsBlank first := by
  cases json with
  | text value => cases noText
  | null =>
    rw [chars]
    exact ⟨_, _, rfl, by decide, by decide⟩
  | bool value =>
    rw [chars]
    cases value <;> exact ⟨_, _, rfl, by decide, by decide⟩
  | number value =>
    rw [chars]
    generalize written : value.text = cs
    cases written ▸ numberText_text value with
    | null => exact ⟨_, _, rfl, by decide, by decide⟩
    | numeral numeral =>
      obtain ⟨first, others, shape, digit⟩ := numeral.starts
      obtain ⟨_, _, _, _, noQuote, _, solid⟩ := digit_ne digit
      exact ⟨first, others, shape, noQuote, solid⟩
    | negative _ => exact ⟨_, _, rfl, by decide, by decide⟩
  | list items =>
    rw [encodeChars_list]
    exact ⟨_, _, rfl, by decide, by decide⟩
  | object members =>
    rw [encodeChars_object]
    exact ⟨_, _, rfl, by decide, by decide⟩

/-- A text is read back and any other value is passed over. -/
theorem reads_anyText (json : Json) {rest : List UInt8} (delimited : Delimited rest) :
    Reads Reader.anyText (encodeChars (chars json)) json.text? rest := by
  cases isText : json.text? with
  | some value =>
    have same : json = .text value := by
      cases json <;> simp_all [text?]
    rw [same, chars]
    exact .look (by decide) (.pass ((reads_text value rest).bind fun value => pure (some value)))
  | none =>
    obtain ⟨first, others, shape, noQuote, solid⟩ := first_of_chars isText
    have passed := reads_skip json delimited
    rw [shape] at passed ⊢
    refine .look solid ?_
    simp only [noQuote, if_false]
    exact passed.bind fun _ => pure none

/-- The members of an object with those of their values that are texts. -/
def textMembers? (bytes : List UInt8) : Except Refusal (List (String × Option String)) :=
  Reader.whole (Reader.mapValue Reader.anyText) bytes

/-- An object is written with its members in their order. -/
theorem renderInOrder_eq_render (members : Members) :
    renderInOrder members = render (.object members) := by
  rw [renderInOrder, render, charsOnto]

/-- The members of an object are read back from its text, in their order. -/
theorem textMembers?_renderInOrder {members : Members} (distinct : (members.map (·.1)).Nodup) :
    textMembers? (Text.Utf8.encode (renderInOrder members)) =
      .ok (members.map fun pair => (pair.1, pair.2.text?)) := by
  rw [renderInOrder_eq_render, Text.Utf8.encode, toList_render]
  exact whole_of_reads (reads_mapValue distinct (fun pair _ _ => reads_anyText pair.2) [])

end Sluice.Json
