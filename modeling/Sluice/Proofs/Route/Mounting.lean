import Sluice.Proofs.Route.Matching

/-!
# Routes under a mount

Routes may be put under a mount, a text in front of all of them. The mount is read like the rest of a
route, so it need not stand for itself: a colon in it begins a parameter. Which texts can be read is
said in `isSome_parseFrom_iff`. A path matches a pattern under a mount exactly if it begins with what
the mount can stand for, `Fills`, and goes on with a path that matches the pattern alone,
`match?_append_iff`; so a table whose patterns are put under a mount finds behind it what the table
finds alone, `Table.find?_under`.
-/

namespace Sluice.Route

namespace Pattern

/-! ## Reading -/

/-- Whether a piece of a text between separators can be read: behind a colon stands something with
no other colon in it. -/
def IsLegiblePiece (piece : List Char) : Prop :=
  ∀ before name, piece = before ++ ':' :: name → name ≠ [] ∧ ':' ∉ name

/-- Whether a text can be read as a pattern: its pieces can be, and there is no asterisk in it. -/
def IsLegible (text : List Char) : Prop :=
  '*' ∉ text ∧ ∀ piece ∈ Text.piecesChars '/' text, IsLegiblePiece piece

theorem isLegiblePiece_nil : IsLegiblePiece [] := by
  intro before name split
  simp at split

theorem isLegiblePiece_cons_iff {c : Char} (different : c ≠ ':') (piece : List Char) :
    IsLegiblePiece (c :: piece) ↔ IsLegiblePiece piece := by
  constructor
  · intro legible before name split
    exact legible (c :: before) name (by rw [split, List.cons_append])
  · intro legible before name split
    cases before with
    | nil => exact absurd (List.cons_eq_cons.mp split).1 different
    | cons d front => exact legible front name (List.cons_eq_cons.mp split).2

theorem isLegiblePiece_colon_iff (name : List Char) :
    IsLegiblePiece (':' :: name) ↔ name ≠ [] ∧ ':' ∉ name := by
  constructor
  · intro legible
    exact legible [] name rfl
  · rintro ⟨nonempty, single⟩ before rest split
    cases before with
    | nil =>
      obtain rfl := (List.cons_eq_cons.mp split).2
      exact ⟨nonempty, single⟩
    | cons d front =>
      have second : ':' ∈ name := by
        rw [(List.cons_eq_cons.mp split).2]
        exact List.mem_append_right _ List.mem_cons_self
      exact absurd second single

/-- A text can be read exactly if its pieces are legible; within a name no colon may follow in the
piece, and something has to be in the name. -/
theorem isSome_parseFrom {text first : List Char} {others : List (List Char)}
    (shape : Text.piecesChars '/' text = first :: others) :
    ((parseFrom none text).isSome = true ↔
      '*' ∉ text ∧ IsLegiblePiece first ∧ ∀ piece ∈ others, IsLegiblePiece piece) ∧
    ∀ held, (parseFrom (some held) text).isSome = true ↔
      '*' ∉ text ∧ ((held ≠ [] ∨ first ≠ []) ∧ ':' ∉ first) ∧
        ∀ piece ∈ others, IsLegiblePiece piece := by
  induction text generalizing first others with
  | nil =>
    obtain ⟨rfl, rfl⟩ := List.cons_eq_cons.mp (shape.symm.trans (Text.piecesChars_nil '/'))
    refine ⟨by simp [parseFrom, isLegiblePiece_nil], fun held => ?_⟩
    cases held <;> simp [parseFrom]
  | cons c rest ih =>
    obtain ⟨next, later, shapeRest⟩ := List.exists_cons_of_ne_nil (Text.piecesChars_ne_nil '/' rest)
    obtain ⟨plain, named⟩ := ih shapeRest
    by_cases separator : c = '/'
    · -- A separator ends the piece at hand, and with it a name.
      subst separator
      rw [Text.piecesChars_separator, shapeRest] at shape
      obtain ⟨rfl, rfl⟩ := List.cons_eq_cons.mp shape
      refine ⟨?_, fun held => ?_⟩
      · simp [parseFrom, plain, isLegiblePiece_nil]
      · cases held <;> simp [parseFrom, plain]
    · rw [Text.piecesChars_cons_of_ne separator shapeRest] at shape
      obtain ⟨rfl, rfl⟩ := List.cons_eq_cons.mp shape
      by_cases asterisk : c = '*'
      · subst asterisk
        exact ⟨by simp [parseFrom], fun held => by simp [parseFrom]⟩
      by_cases colon : c = ':'
      · subst colon
        refine ⟨?_, fun held => by simp [parseFrom]⟩
        have begun := named []
        simp only [ne_eq, not_true_eq_false, false_or] at begun
        simp [parseFrom, begun, isLegiblePiece_colon_iff]
      · refine ⟨?_, fun held => ?_⟩
        · simp [parseFrom, asterisk, colon, plain, isLegiblePiece_cons_iff colon, Ne.symm asterisk]
        · simp [parseFrom, asterisk, colon, separator, named, Ne.symm asterisk, Ne.symm colon]

/-- Exactly the legible texts can be read. -/
theorem isSome_parseFrom_iff (text : List Char) :
    (parseFrom none text).isSome = true ↔ IsLegible text := by
  obtain ⟨first, others, shape⟩ := List.exists_cons_of_ne_nil (Text.piecesChars_ne_nil '/' text)
  rw [(isSome_parseFrom shape).1, IsLegible, shape, List.forall_mem_cons]

/-- There are as many parameters in a pattern as colons in its text. -/
theorem countP_parseFrom {state : Option (List Char)} {text : List Char} {pattern : Pattern}
    (read : parseFrom state text = some pattern) :
    pattern.countP Atom.isCapture = text.count ':' + state.isSome.toNat := by
  fun_induction parseFrom state text generalizing pattern with
  | case1 => obtain rfl := Option.some.inj read; rfl
  | case2 | case4 | case7 | case8 => cases read
  | case3 name named => obtain rfl := Option.some.inj read; rfl
  | case5 rest notAsterisk ih =>
    rw [ih read]
    simp
  | case6 c rest notAsterisk notColon ih =>
    obtain ⟨onward, readRest, rfl⟩ := Option.map_eq_some_iff.mp read
    simp [Atom.isCapture, ih readRest, notColon]
  | case9 name rest notMark named ih =>
    obtain ⟨onward, readRest, rfl⟩ := Option.map_eq_some_iff.mp read
    have rest := ih readRest
    simp [List.countP_cons, Atom.isCapture, rest]
  | case10 name c rest notMark notSeparator ih =>
    have notColon : c ≠ ':' := fun colon => notMark (.inl colon)
    simp [ih read, notColon]

/-- A text in front of a separator is read by itself. -/
theorem parseFrom_append (state : Option (List Char)) (front rest : List Char) :
    parseFrom state (front ++ '/' :: rest) =
      (parseFrom state front).bind fun mount =>
        (parseFrom none ('/' :: rest)).map (mount ++ ·) := by
  fun_induction parseFrom state front with
  | case1 => simp
  | case2 name unnamed => simp [parseFrom, unnamed]
  | case3 name named =>
    simp [parseFrom, named, Function.comp_def]
  | case4 | case7 | case8 => simp_all [parseFrom]
  | case5 onward notAsterisk ih => simp [parseFrom, ih]
  | case6 c onward notAsterisk notColon ih =>
    simp [parseFrom, ih, notAsterisk, notColon, Function.comp_def, Option.bind_map]
  | case9 name onward notMark _ ih =>
    simp [parseFrom, ih, notMark, Function.comp_def, Option.bind_map]
  | case10 name c onward notMark notSeparator ih => simp [parseFrom, ih, notMark, notSeparator]

/-- A pattern is what is read of a text that begins with a separator, if there are not too many
parameters in it. -/
theorem parse?_eq {text : String} {rest : List Char} (begins : text.toList = '/' :: rest) :
    parse? text =
      (parseFrom none text.toList).filter (·.countP Atom.isCapture ≤ maxCaptures) := by
  have first : parseFrom none ('/' :: rest) = (parseFrom none rest).map (.literal '/' :: ·) := rfl
  simp only [parse?, begins, first, Option.filter_map]
  rfl

/-- A route under a mount is read as the mount and then as the route alone. -/
theorem parse?_append {mount route : String} {rest : List Char}
    (mounted : mount = "" ∨ ∃ tail, mount.toList = '/' :: tail)
    (begins : route.toList = '/' :: rest) :
    parse? (mount ++ route) =
      ((parseFrom none mount.toList).bind fun front =>
        (parseFrom none route.toList).map (front ++ ·)).filter
          (·.countP Atom.isCapture ≤ maxCaptures) := by
  have text : (mount ++ route).toList = mount.toList ++ '/' :: rest := by
    rw [String.toList_append, begins]
  have begun : ∃ tail, (mount ++ route).toList = '/' :: tail := by
    rcases mounted with rfl | ⟨tail, shape⟩
    · exact ⟨rest, text⟩
    · exact ⟨tail ++ '/' :: rest, by rw [text, shape, List.cons_append]⟩
  obtain ⟨tail, whole⟩ := begun
  rw [parse?_eq whole, text, parseFrom_append, begins]

/-- A text from which a pattern is read begins with a separator. -/
theorem exists_cons_toList_of_parse? {text : String} {pattern : Pattern}
    (read : parse? text = some pattern) : ∃ rest, text.toList = '/' :: rest := by
  unfold parse? at read
  split at read
  · next rest begins => exact ⟨rest, begins⟩
  · cases read

/-- A route that can be read alone can be read under a mount if that can be read and there are not too
many parameters in the two of them. -/
theorem parse?_append_of_parse? {mount route : String} {pattern : Pattern}
    (mounted : mount = "" ∨ ∃ tail, mount.toList = '/' :: tail)
    (read : parse? route = some pattern) :
    parse? (mount ++ route) =
      ((parseFrom none mount.toList).map (· ++ pattern)).filter
        (·.countP Atom.isCapture ≤ maxCaptures) := by
  obtain ⟨rest, begins⟩ := exists_cons_toList_of_parse? read
  rw [parse?_eq begins, Option.filter_eq_some_iff] at read
  rw [parse?_append mounted begins, read.1]
  cases parseFrom none mount.toList <;> rfl

/-- What can be read under a mount can be read alone, and so can the mount. -/
theorem exists_append_of_parse? {mount route : String} {rest : List Char} {whole : Pattern}
    (mounted : mount = "" ∨ ∃ tail, mount.toList = '/' :: tail)
    (begins : route.toList = '/' :: rest) (read : parse? (mount ++ route) = some whole) :
    ∃ front pattern, parseFrom none mount.toList = some front ∧ parse? route = some pattern ∧
      whole = front ++ pattern := by
  rw [parse?_append mounted begins, Option.filter_eq_some_iff] at read
  obtain ⟨parts, few⟩ := read
  obtain ⟨front, readMount, parts⟩ := Option.bind_eq_some_iff.mp parts
  obtain ⟨pattern, readRoute, rfl⟩ := Option.map_eq_some_iff.mp parts
  refine ⟨front, pattern, readMount, ?_, rfl⟩
  rw [parse?_eq begins, Option.filter_eq_some_iff]
  refine ⟨readRoute, ?_⟩
  simp only [List.countP_append, decide_eq_true_eq] at few ⊢
  omega

/-! ## Matching -/

/-- A separator or the end comes behind each parameter of a pattern. -/
inductive Parted : Pattern → Prop where
  | nil : Parted []
  | literal (c : Char) {rest : Pattern} : Parted rest → Parted (.literal c :: rest)
  | capture (name : List Char) {rest : Pattern} (next : ∀ atom ∈ rest.head?, atom = .literal '/') :
      Parted rest → Parted (.capture name :: rest)

/-- Patterns are read so. -/
theorem parted_parseFrom {state : Option (List Char)} {text : List Char} {pattern : Pattern}
    (read : parseFrom state text = some pattern) : pattern.Parted := by
  fun_induction parseFrom state text generalizing pattern with
  | case1 => obtain rfl := Option.some.inj read; exact .nil
  | case2 | case4 | case7 | case8 => cases read
  | case3 name named => obtain rfl := Option.some.inj read; exact .capture _ (by simp) .nil
  | case5 rest notAsterisk ih => exact ih read
  | case6 c rest notAsterisk notColon ih =>
    obtain ⟨onward, readRest, rfl⟩ := Option.map_eq_some_iff.mp read
    have later := ih readRest
    exact .literal c later
  | case9 name rest notMark named ih =>
    obtain ⟨onward, readRest, rfl⟩ := Option.map_eq_some_iff.mp read
    have later := ih readRest
    exact .capture _ (by simp) (.literal '/' later)
  | case10 name c rest notMark notSeparator ih => exact ih read

/-- What a mount can stand for at the beginning of a path, with the texts of its parameters. -/
inductive Fills : Pattern → List Char → Captures → Prop where
  | nil : Fills [] [] []
  | literal (c : Char) {mount : Pattern} {front : List Char} {captures : Captures} :
      Fills mount front captures → Fills (.literal c :: mount) (c :: front) captures
  | capture (name : List Char) {value : List Char} (segment : '/' ∉ value) {mount : Pattern}
      {front : List Char} {captures : Captures} (next : ∀ atom ∈ mount.head?, atom = .literal '/') :
      Fills mount front captures →
        Fills (.capture name :: mount) (value ++ front) ((name, value) :: captures)

/-- What stands behind a parameter begins with a separator, be it of the mount or of the path that goes
on behind the mount. -/
theorem Fills.begins {mount : Pattern} {front : List Char} {captures : Captures}
    (fills : Fills mount front captures) (next : ∀ atom ∈ mount.head?, atom = .literal '/')
    (rest : List Char) : ∃ tail, front ++ '/' :: rest = '/' :: tail := by
  cases fills with
  | nil => exact ⟨rest, rfl⟩
  | literal c _ =>
    obtain rfl := Atom.literal.inj (next _ rfl)
    exact ⟨_, rfl⟩
  | capture name _ _ _ => cases next _ rfl

/-- A text without separators in front of one is what a parameter takes. -/
theorem takes_segment {value : List Char} (segment : '/' ∉ value) (tail : List Char) :
    (value ++ '/' :: tail).takeWhile (· ≠ '/') = value ∧
      (value ++ '/' :: tail).dropWhile (· ≠ '/') = '/' :: tail := by
  have whole : ∀ c ∈ value, decide (c ≠ '/') = true := by
    intro c member
    simpa using fun same : c = '/' => segment (same ▸ member)
  rw [List.takeWhile_append_of_pos whole, List.dropWhile_append_of_pos whole]
  simp

/-- Behind what the mount stands for, a pattern under the mount matches as it does alone. -/
theorem Fills.match?_append {mount : Pattern} {front : List Char} {held : Captures}
    (fills : Fills mount front held) {pattern : Pattern} (nonempty : pattern ≠ [])
    (rest : List Char) :
    match? (mount ++ pattern) (front ++ '/' :: rest) =
      (match? pattern ('/' :: rest)).map (held ++ ·) := by
  induction fills with
  | nil => simp
  | literal c _ ih => simp [match?, ih]
  | @capture name value segment mount front held next fills ih =>
    obtain ⟨tail, begins⟩ := fills.begins next rest
    obtain ⟨taken, left⟩ := takes_segment segment tail
    rw [begins] at ih
    have more : (mount ++ pattern).isEmpty = false := by simp [nonempty]
    rw [List.append_assoc, begins, List.cons_append]
    simp only [match?, taken, left, more, Bool.and_false, Bool.false_eq_true, if_false, ih,
      Option.map_map]
    rfl

/-- A path matches a pattern under a mount exactly if it is something that the mount stands for and
behind it a path that matches the pattern alone. -/
theorem match?_append_iff {mount : Pattern} (parted : mount.Parted) (pattern : Pattern)
    (path : List Char) (captures : Captures) :
    match? (mount ++ .literal '/' :: pattern) path = some captures ↔
      ∃ front rest held caught, path = front ++ '/' :: rest ∧ Fills mount front held ∧
        match? (.literal '/' :: pattern) ('/' :: rest) = some caught ∧
        captures = held ++ caught := by
  constructor
  · intro matched
    induction parted generalizing path captures with
    | nil =>
      cases path with
      | nil => cases matched
      | cons c rest =>
        have first : c = '/' := by
          by_contra different
          simp [match?, Ne.symm different] at matched
        subst first
        exact ⟨[], rest, [], captures, rfl, .nil, matched, rfl⟩
    | literal c _ ih =>
      cases path with
      | nil => cases matched
      | cons d later =>
        simp only [List.cons_append, match?] at matched
        split at matched
        · next same =>
          subst same
          obtain ⟨front, rest, held, caught, rfl, fills, matchedRest, rfl⟩ :=
            ih later captures matched
          exact ⟨c :: front, rest, held, caught, rfl, .literal c fills, matchedRest, rfl⟩
        · cases matched
    | @capture name mount next _ ih =>
      have more : (mount ++ Atom.literal '/' :: pattern).isEmpty = false := by simp
      simp only [List.cons_append, match?, more, Bool.and_false, Bool.false_eq_true, if_false,
        Option.map_eq_some_iff] at matched
      obtain ⟨onward, matched, rfl⟩ := matched
      obtain ⟨front, rest, held, caught, left, fills, matchedRest, rfl⟩ := ih _ onward matched
      have segment : '/' ∉ path.takeWhile (· ≠ '/') := fun member => by
        simpa using List.mem_takeWhile_imp member
      refine ⟨path.takeWhile (· ≠ '/') ++ front, rest, _, caught, ?_,
        .capture name segment next fills, matchedRest, rfl⟩
      rw [List.append_assoc, ← left, List.takeWhile_append_dropWhile]
  · rintro ⟨front, rest, held, caught, rfl, fills, matched, rfl⟩
    rw [fills.match?_append (List.cons_ne_nil _ _), matched]
    rfl

/-- The parameters of a pattern with the texts that stand for them where the pattern is written. -/
def ownCaptures : Pattern → Captures
  | [] => []
  | .literal _ :: rest => ownCaptures rest
  | .capture name :: rest => (name, ':' :: name) :: ownCaptures rest

/-- There are no parameters in plain text. -/
theorem ownCaptures_plain (text : List Char) : ownCaptures (plain text) = [] := by
  induction text with
  | nil => rfl
  | cons c rest ih => exact ih

/-- What has been read of a parameter, as it is written. -/
def begun : Option (List Char) → List Char
  | none => []
  | some held => ':' :: held.reverse

/-- A pattern stands for the text from which it is read. -/
theorem fills_begun {state : Option (List Char)} {text : List Char} {pattern : Pattern}
    (segment : '/' ∉ begun state) (read : parseFrom state text = some pattern) :
    Fills pattern (begun state ++ text) pattern.ownCaptures := by
  fun_induction parseFrom state text generalizing pattern with
  | case1 => obtain rfl := Option.some.inj read; exact .nil
  | case2 | case4 | case7 | case8 => cases read
  | case3 held named =>
    obtain rfl := Option.some.inj read
    exact .capture held.reverse segment (by simp) .nil
  | case5 rest notAsterisk ih => exact ih (by simp [begun]) read
  | case6 c rest notAsterisk notColon ih =>
    obtain ⟨onward, readRest, rfl⟩ := Option.map_eq_some_iff.mp read
    have later := ih segment readRest
    exact .literal c later
  | case9 held rest notMark named ih =>
    obtain ⟨onward, readRest, rfl⟩ := Option.map_eq_some_iff.mp read
    have later := ih List.not_mem_nil readRest
    exact .capture held.reverse segment (by simp) (.literal '/' later)
  | case10 held c rest notMark notSeparator ih =>
    have longer : begun (some (c :: held)) = begun (some held) ++ [c] := by simp [begun]
    have later := ih (by rw [longer]; simp [segment, Ne.symm notSeparator]) read
    rwa [longer, List.append_assoc] at later

/-- A mount stands for its own text. -/
theorem fills_own {text : List Char} {mount : Pattern} (read : parseFrom none text = some mount) :
    Fills mount text mount.ownCaptures := by
  have segment : '/' ∉ begun none := List.not_mem_nil
  exact fills_begun segment read

/-- A mount stands for some text without a colon, whatever parameters it has. -/
theorem exists_fills_without_colon {state : Option (List Char)} {text : List Char}
    {mount : Pattern} (read : parseFrom state text = some mount) :
    ∃ front held, Fills mount front held ∧ ':' ∉ front := by
  have segment : '/' ∉ ['x'] := by decide
  fun_induction parseFrom state text generalizing mount with
  | case1 => obtain rfl := Option.some.inj read; exact ⟨[], [], .nil, List.not_mem_nil⟩
  | case2 | case4 | case7 | case8 => cases read
  | case3 name named =>
    obtain rfl := Option.some.inj read
    exact ⟨['x'], _, .capture _ segment (by simp) .nil, by decide⟩
  | case5 rest notAsterisk ih => exact ih read
  | case6 c rest notAsterisk notColon ih =>
    obtain ⟨onward, readRest, rfl⟩ := Option.map_eq_some_iff.mp read
    obtain ⟨front, held, fills, plainFront⟩ := ih readRest
    exact ⟨c :: front, held, .literal c fills, by simp [plainFront, Ne.symm notColon]⟩
  | case9 name rest notMark named ih =>
    obtain ⟨onward, readRest, rfl⟩ := Option.map_eq_some_iff.mp read
    obtain ⟨front, held, fills, plainFront⟩ := ih readRest
    exact ⟨['x'] ++ '/' :: front, _, .capture _ segment (by simp) (.literal '/' fills),
      by simp [plainFront]⟩
  | case10 name c rest notMark notSeparator ih => exact ih read

/-- Plain text stands for itself alone. -/
theorem fills_plain_iff (mount front : List Char) (captures : Captures) :
    Fills (plain mount) front captures ↔ front = mount ∧ captures = [] := by
  induction mount generalizing front captures with
  | nil =>
    constructor
    · intro fills
      cases fills
      exact ⟨rfl, rfl⟩
    · rintro ⟨rfl, rfl⟩
      exact .nil
  | cons c tail ih =>
    constructor
    · intro fills
      cases fills with
      | literal _ onward =>
        obtain ⟨rfl, rfl⟩ := (ih ..).mp onward
        exact ⟨rfl, rfl⟩
    · rintro ⟨rfl, rfl⟩
      exact .literal c ((ih ..).mpr ⟨rfl, rfl⟩)

/-! ## Conflicts and preference -/

/-- A mount in front of both changes nothing between two patterns. -/
theorem conflicts_append (mount first second : Pattern) :
    (mount ++ first).conflicts (mount ++ second) = first.conflicts second := by
  induction mount with
  | nil => rfl
  | cons atom rest ih => cases atom <;> simp [conflicts, ih]

theorem preferred_append (mount first second : Pattern) :
    (mount ++ first).preferred (mount ++ second) = first.preferred second := by
  induction mount with
  | nil => rfl
  | cons atom rest ih => cases atom <;> simp [preferred, ih]

end Pattern

/-! ## Tables -/

namespace Table

variable {α β : Type}

/-- A table with all of its patterns under a mount and its values replaced. -/
def under (table : Table α) (mount : Pattern) (value : α → β) : Table β :=
  table.map fun row => (mount ++ row.1, value row.2)

/-- Whether the rows of a table are apart does not depend on a mount. -/
theorem apart_under_iff (table : Table α) (mount : Pattern) (value : α → β) :
    (table.under mount value).Apart ↔ table.Apart := by
  simp only [Apart, under, List.pairwise_map, Pattern.conflicts_append]

/-- A row for plain text at the end of a table takes part only on its own path. -/
theorem find?_concat_plain (table : Table α) {path other : List Char} (different : path ≠ other)
    (value : α) : Table.find? (table ++ [(.plain other, value)]) path = table.find? path := by
  have unmatched : (Pattern.plain other).match? path = none := by
    refine Option.eq_none_iff_forall_ne_some.mpr fun captures matched => different ?_
    exact ((Pattern.match?_plain ..).mp matched).1
  rw [find?_eq_foldl, List.foldl_append, List.foldl_cons, List.foldl_nil, consider, unmatched]
  rfl

/-- A table under a mount finds behind what the mount stands for what it finds alone. -/
theorem find?_under {table : Table α} (nonempty : ∀ row ∈ table, row.1 ≠ []) {mount : Pattern}
    {front : List Char} {held : Captures} (fills : Pattern.Fills mount front held)
    (value : α → β) (rest : List Char) :
    (table.under mount value).find? (front ++ '/' :: rest) =
      (table.find? ('/' :: rest)).map fun found => (value found.1, held ++ found.2) := by
  let moved (found : Pattern × α × Captures) : Pattern × β × Captures :=
    (mount ++ found.1, value found.2.1, held ++ found.2.2)
  have step (found : Option (Pattern × α × Captures)) (row : Pattern × α) (member : row ∈ table) :
      consider (front ++ '/' :: rest) (found.map moved) (mount ++ row.1, value row.2) =
        (consider ('/' :: rest) found row).map moved := by
    simp only [consider, fills.match?_append (nonempty row member)]
    cases Pattern.match? row.1 ('/' :: rest) with
    | none => rfl
    | some caught =>
      cases found with
      | none => rfl
      | some earlier =>
        simp only [Option.map_some, better, moved, Pattern.preferred_append]
        split <;> rfl
  rw [find?_eq_foldl, find?_eq_foldl, under, foldl_consider_map step, Option.map_map,
    Option.map_map]
  rfl

end Table

end Sluice.Route
