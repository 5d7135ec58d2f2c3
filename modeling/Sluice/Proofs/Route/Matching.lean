import Mathlib.Data.List.Nodup
import Mathlib.Data.List.TakeWhile
import Sluice.Route.Pattern

/-!
# Matching of paths

Two shapes of patterns are enough for resources: plain text, which matches one path, and plain text
with a parameter at its end, which matches whatever stands in its place up to the end of the path,
if that is something and contains no separator. For both it is said here from which texts they are
read and which paths they match.

Of a table two things are said. It can be built exactly if all of its texts can be read and no two
of the patterns conflict, and then it has a row for each text (`Table.build?_eq_some_iff`). A search
ends at the row that is preferred to every other row that matches (`Table.Best.find?_eq`); on the
path of plain text that is the row for this text (`Table.find?_plain`).
-/

namespace Sluice.Route

namespace Pattern

/-- Whether a character begins a parameter, so that it cannot stand in the name of one. -/
def isMark (c : Char) : Bool :=
  c == ':' || c == '*'

/-- The pattern of one path. -/
def plain (path : List Char) : Pattern :=
  path.map .literal

/-- The pattern of the paths that go on behind a path for one segment or the end of one. -/
def openEnded (path name : List Char) : Pattern :=
  plain path ++ [.capture name]

/-! ## Reading -/

/-- Plain text is read as it stands. -/
theorem parseFrom_plain_append {path : List Char} (unmarked : ∀ c ∈ path, isMark c = false)
    (rest : List Char) :
    parseFrom none (path ++ rest) = (parseFrom none rest).map (plain path ++ ·) := by
  induction path with
  | nil => simp [plain]
  | cons c tail ih =>
    have here : c ≠ ':' ∧ c ≠ '*' := by simpa [isMark] using unmarked c List.mem_cons_self
    rw [List.cons_append, parseFrom, if_neg here.2, if_neg here.1,
      ih fun d member => unmarked d (List.mem_cons_of_mem c member), Option.map_map]
    rfl

/-- A name at the end of a text is read unless a mark stands in it. -/
theorem parseFrom_name {held name : List Char} (segment : '/' ∉ name)
    (nonempty : held.reverse ++ name ≠ []) :
    parseFrom (some held) name =
      if name.any isMark then none else some [.capture (held.reverse ++ name)] := by
  induction name generalizing held with
  | nil =>
    have filled : held.isEmpty = false := by simpa using nonempty
    simp [parseFrom, filled]
  | cons c tail ih =>
    have inside : c ≠ '/' ∧ '/' ∉ tail := by simpa [eq_comm] using segment
    by_cases mark : c = ':' ∨ c = '*'
    · have marked : (c :: tail).any isMark = true := by simp [isMark, mark]
      rw [parseFrom, if_pos mark, if_pos marked]
    · have onward : parseFrom (some (c :: held)) tail = _ := ih inside.2 (by simp)
      have elsewhere : (c :: tail).any isMark = tail.any isMark := by simp [isMark, mark]
      rw [parseFrom, if_neg mark, if_neg inside.1, onward]
      simp only [elsewhere, List.reverse_cons, List.append_assoc, List.singleton_append]

/-- There are no parameters in plain text. -/
theorem countP_plain (path : List Char) : (plain path).countP Atom.isCapture = 0 := by
  simp [plain, List.countP_eq_zero, Atom.isCapture]

/-- Plain text that begins with a separator is a pattern. -/
theorem parse?_plain {text : String} {rest : List Char} (begins : text.toList = '/' :: rest)
    (unmarked : ∀ c ∈ text.toList, isMark c = false) : parse? text = some (plain text.toList) := by
  have tail : ∀ c ∈ rest, isMark c = false := fun c member =>
    unmarked c (begins ▸ List.mem_cons_of_mem '/' member)
  have whole := parseFrom_plain_append tail []
  simp only [List.append_nil, parseFrom, Option.map_some] at whole
  simp only [parse?, begins, whole, Option.filter_some, countP_plain, Nat.zero_le, decide_true,
    if_true, Option.map_some]
  rfl

/-- Plain text with a name at its end is a pattern unless a mark stands in the name. -/
theorem parse?_openEnded {text : String} {rest name : List Char}
    (shape : text.toList = '/' :: rest ++ ':' :: name) (unmarked : ∀ c ∈ rest, isMark c = false)
    (segment : '/' ∉ name) (named : name ≠ []) :
    parse? text = if name.any isMark then none else some (openEnded ('/' :: rest) name) := by
  have whole := parseFrom_plain_append unmarked (':' :: name)
  have mark : parseFrom none (':' :: name) = parseFrom (some []) name := rfl
  rw [mark, parseFrom_name segment (by simpa using named)] at whole
  simp only [parse?, shape, List.cons_append, whole]
  split
  · rfl
  · have one : (plain rest ++ [Atom.capture name]).countP Atom.isCapture ≤ maxCaptures := by
      simp [countP_plain, Atom.isCapture, maxCaptures]
    simp only [Option.map_some, List.reverse_nil, List.nil_append, Option.filter_some, one,
      decide_true, if_true]
    rfl

/-! ## Matching -/

/-- Plain text at the beginning of a pattern is plain text at the beginning of a path. -/
theorem match?_plain_append (path : List Char) (pattern : Pattern) (target : List Char)
    (captures : Captures) :
    match? (plain path ++ pattern) target = some captures ↔
      ∃ rest, target = path ++ rest ∧ match? pattern rest = some captures := by
  induction path generalizing target with
  | nil => simp [plain]
  | cons c tail ih =>
    cases target with
    | nil => simp [plain, match?]
    | cons d rest =>
      have step : match? (plain (c :: tail) ++ pattern) (d :: rest) =
          if c = d then match? (plain tail ++ pattern) rest else none := rfl
      rw [step]
      split
      · next same =>
        subst same
        simp [ih]
      · next different => simp [Ne.symm different]

/-- Plain text matches itself and nothing else. -/
theorem match?_plain (path target : List Char) (captures : Captures) :
    match? (plain path) target = some captures ↔ target = path ∧ captures = [] := by
  have closed (rest : List Char) :
      match? [] rest = some captures ↔ rest = [] ∧ captures = [] := by
    cases rest <;> simp [match?, eq_comm]
  have whole := match?_plain_append path [] target captures
  simp only [List.append_nil, closed] at whole
  rw [whole]
  constructor
  · rintro ⟨rest, rfl, rfl, rfl⟩
    exact ⟨List.append_nil path, rfl⟩
  · rintro ⟨rfl, rfl⟩
    exact ⟨[], (List.append_nil target).symm, rfl, rfl⟩

/-- A parameter at the end matches any text but none, up to the end of a path. -/
theorem match?_capture (name value : List Char) (captures : Captures) :
    match? [.capture name] value = some captures ↔
      value ≠ [] ∧ '/' ∉ value ∧ captures = [(name, value)] := by
  have unfolded : match? [.capture name] value =
      if (value.takeWhile (· ≠ '/')).isEmpty then none
      else (match? [] (value.dropWhile (· ≠ '/'))).map
        ((name, value.takeWhile (· ≠ '/')) :: ·) := by
    simp [match?]
  rw [unfolded]
  by_cases slashed : '/' ∈ value
  · -- What is left behind the parameter begins with a separator, which the empty pattern refuses.
    have left : value.dropWhile (· ≠ '/') ≠ [] := by
      intro none_left
      have all := List.dropWhile_eq_nil_iff.mp none_left '/' slashed
      simp at all
    obtain ⟨c, rest, shape⟩ := List.exists_cons_of_ne_nil left
    rw [shape]
    simp [match?, slashed]
  · have whole : ∀ c ∈ value, decide (c ≠ '/') = true := by
      intro c member
      simpa using fun same : c = '/' => slashed (same ▸ member)
    rw [List.takeWhile_eq_self_iff.mpr whole, List.dropWhile_eq_nil_iff.mpr whole]
    cases value with
    | nil => simp
    | cons c rest => simp [match?, slashed, eq_comm]

/-- A pattern with an open end matches what goes on for one segment or the end of one. -/
theorem match?_openEnded (path name target : List Char) (captures : Captures) :
    match? (openEnded path name) target = some captures ↔
      ∃ value, target = path ++ value ∧ value ≠ [] ∧ '/' ∉ value ∧ captures = [(name, value)] := by
  simp only [openEnded, match?_plain_append, match?_capture]

/-! ## Conflicts and preference -/

/-- A part of a pattern without the name of a parameter. -/
def Atom.nameless : Atom → Option Char
  | .literal c => some c
  | .capture _ => none

/-- Patterns conflict exactly if they differ in names of parameters at most. -/
theorem conflicts_iff (first second : Pattern) :
    first.conflicts second = true ↔ first.map Atom.nameless = second.map Atom.nameless := by
  induction first generalizing second with
  | nil => cases second <;> simp [conflicts]
  | cons atom rest ih =>
    cases second with
    | nil => simp [conflicts]
    | cons other tail =>
      cases atom <;> cases other <;> simp [conflicts, Atom.nameless, ih]

/-- Plain texts conflict exactly if they are the same. -/
theorem conflicts_plain (first second : List Char) :
    (plain first).conflicts (plain second) = true ↔ first = second := by
  have erased (path : List Char) : (plain path).map Atom.nameless = path.map some := by
    simp [plain, Atom.nameless, Function.comp_def]
  rw [conflicts_iff, erased, erased]
  exact List.map_inj_right fun _ _ => Option.some.inj

/-- Plain text does not conflict with a pattern that has an open end. -/
theorem conflicts_plain_openEnded (first second name : List Char) :
    (plain first).conflicts (openEnded second name) = false ∧
      (openEnded second name).conflicts (plain first) = false := by
  have captured : none ∈ (openEnded second name).map Atom.nameless := by
    simp [openEnded, Atom.nameless]
  have literal : none ∉ (plain first).map Atom.nameless := by
    simp [plain, Atom.nameless]
  constructor
  · refine Bool.eq_false_iff.mpr fun conflict => literal ?_
    rwa [(conflicts_iff _ _).mp conflict]
  · refine Bool.eq_false_iff.mpr fun conflict => literal ?_
    rwa [← (conflicts_iff _ _).mp conflict]

/-- Patterns with open ends conflict exactly if these stand behind the same path. -/
theorem conflicts_openEnded (first second name other : List Char) :
    (openEnded first name).conflicts (openEnded second other) = true ↔ first = second := by
  rw [conflicts_iff, ← conflicts_plain, conflicts_iff]
  simp only [openEnded, List.map_append, List.map_cons, List.map_nil, Atom.nameless,
    List.append_cancel_right_eq]

/-- No pattern is preferred to itself. -/
theorem preferred_self (pattern : Pattern) : pattern.preferred pattern = false := by
  induction pattern with
  | nil => rfl
  | cons atom rest ih => cases atom <;> simp [preferred, ih]

/-- A path as plain text is preferred to a pattern in which its end is open, and not the other way.
-/
theorem preferred_plain_openEnded {path value : List Char} (nonempty : value ≠ [])
    (name : List Char) :
    (plain (path ++ value)).preferred (openEnded path name) = true ∧
      (openEnded path name).preferred (plain (path ++ value)) = false := by
  induction path with
  | nil =>
    obtain ⟨c, rest, rfl⟩ := List.exists_cons_of_ne_nil nonempty
    exact ⟨rfl, rfl⟩
  | cons c tail ih => simpa [plain, openEnded, preferred] using ih

/-- Nothing but the empty pattern matches the empty path. -/
theorem eq_nil_of_match?_nil {pattern : Pattern} {captures : Captures}
    (matched : match? pattern [] = some captures) : pattern = [] := by
  induction pattern generalizing captures with
  | nil => rfl
  | cons atom rest ih =>
    cases atom with
    | literal c => simp [match?] at matched
    | capture name =>
      -- A parameter stands for nothing only if a separator follows, and none does.
      cases rest with
      | nil => simp [match?] at matched
      | cons next later =>
        obtain ⟨onward, matchedRest, _⟩ : ∃ onward, match? (next :: later) [] = some onward ∧ _ := by
          simpa only [match?, List.takeWhile_nil, List.dropWhile_nil, List.isEmpty_nil,
            List.isEmpty_cons, Bool.and_false, Bool.false_eq_true, if_false,
            Option.map_eq_some_iff] using matched
        cases ih matchedRest

/-- A path as plain text is preferred to every other pattern that matches it, and not the other way.
-/
theorem preferred_plain {pattern : Pattern} {path : List Char} {captures : Captures}
    (matched : match? pattern path = some captures) (different : pattern ≠ plain path) :
    (plain path).preferred pattern = true ∧ pattern.preferred (plain path) = false := by
  induction path generalizing pattern captures with
  | nil => exact absurd (eq_nil_of_match?_nil matched) different
  | cons c tail ih =>
    cases pattern with
    | nil => cases matched
    | cons atom rest =>
      cases atom with
      | capture name => exact ⟨rfl, rfl⟩
      | literal d =>
        simp only [match?] at matched
        split at matched
        · next same =>
          subst same
          have onward : rest ≠ plain tail := fun alike =>
            different (congrArg (Atom.literal d :: ·) alike)
          simpa [plain, preferred] using ih matched onward
        · cases matched

end Pattern

/-! ## Tables -/

namespace Table

variable {α : Type}

/-- The row of a text that can be read. -/
def rowOf (entry : String × α) : Pattern × α :=
  ((Pattern.parse? entry.1).getD [], entry.2)

/-- No two patterns of a table conflict. -/
def Apart (table : Table α) : Prop :=
  table.Pairwise fun first second => first.1.conflicts second.1 = false

/-- Two rows of such a table whose patterns conflict are one row. -/
theorem Apart.eq_of_conflicts {table : Table α} (apart : table.Apart) {first second : Pattern × α}
    (isFirst : first ∈ table) (isSecond : second ∈ table)
    (conflict : first.1.conflicts second.1 = true) : first = second := by
  have once : (table.map fun row => row.1.map Pattern.Atom.nameless).Nodup := by
    refine List.pairwise_map.mpr (apart.imp fun free same => ?_)
    rw [(Pattern.conflicts_iff ..).mpr same] at free
    cases free
  exact List.inj_on_of_nodup_map once isFirst isSecond ((Pattern.conflicts_iff ..).mp conflict)

/-- A row leaves a table apart if it conflicts with none of its rows. -/
theorem apart_concat_iff (table : Table α) (row : Pattern × α) :
    Apart (table ++ [row]) ↔
      table.Apart ∧ ∀ earlier ∈ table, earlier.1.conflicts row.1 = false := by
  simp [Apart, List.pairwise_append]

/-- A text is added exactly if it can be read and its row leaves the table apart. -/
theorem insertText?_eq_some_iff {table : Table α} (apart : table.Apart) (entry : String × α)
    (extended : Table α) :
    table.insertText? entry = some extended ↔
      (Pattern.parse? entry.1).isSome = true ∧ extended = table ++ [rowOf entry] ∧
        extended.Apart := by
  cases read : Pattern.parse? entry.1 with
  | none => simp [insertText?, read]
  | some pattern =>
    have row : rowOf entry = (pattern, entry.2) := by simp [rowOf, read]
    simp only [insertText?, read, Option.bind_some, insert?, row]
    split
    · next taken =>
      obtain ⟨earlier, member, conflict⟩ := List.any_eq_true.mp taken
      constructor
      · intro impossible
        cases impossible
      · rintro ⟨_, rfl, apartAfter⟩
        have free := ((apart_concat_iff table _).mp apartAfter).2 earlier member
        exact absurd conflict (by simp [free])
    · next free =>
      constructor
      · intro added
        obtain rfl := Option.some.inj added
        exact ⟨rfl, rfl, (apart_concat_iff table _).mpr ⟨apart, by simpa using free⟩⟩
      · rintro ⟨_, rfl, _⟩
        rfl

/-- Texts are added to a table exactly if all of them can be read and the whole stays apart. -/
theorem foldlM_insertText?_eq_some_iff (entries : List (String × α)) {rows : Table α}
    (apart : rows.Apart) (table : Table α) :
    entries.foldlM insertText? rows = some table ↔
      (∀ entry ∈ entries, (Pattern.parse? entry.1).isSome = true) ∧
        table = rows ++ entries.map rowOf ∧ table.Apart := by
  induction entries generalizing rows with
  | nil =>
    simp only [List.foldlM_nil, List.not_mem_nil, false_implies, implies_true, List.map_nil,
      List.append_nil, true_and]
    constructor
    · intro same
      obtain rfl := Option.some.inj same
      exact ⟨rfl, apart⟩
    · rintro ⟨rfl, _⟩
      rfl
  | cons entry rest ih =>
    have regrouped : rows ++ (entry :: rest).map rowOf =
        (rows ++ [rowOf entry]) ++ rest.map rowOf := by simp
    simp only [List.foldlM_cons, Option.bind_eq_bind, Option.bind_eq_some_iff,
      insertText?_eq_some_iff apart, List.forall_mem_cons, regrouped]
    constructor
    · rintro ⟨next, ⟨read, rfl, apartNext⟩, onward⟩
      obtain ⟨readRest, whole, apartWhole⟩ := (ih apartNext).mp onward
      exact ⟨⟨read, readRest⟩, whole, apartWhole⟩
    · rintro ⟨⟨read, readRest⟩, rfl, apartWhole⟩
      have apartNext : Apart (rows ++ [rowOf entry]) := (List.pairwise_append.mp apartWhole).1
      exact ⟨_, ⟨read, rfl, apartNext⟩, (ih apartNext).mpr ⟨readRest, rfl, apartWhole⟩⟩

/-- A table can be built exactly if all texts can be read and no two patterns conflict. It then has
one row for each text. -/
theorem build?_eq_some_iff (entries : List (String × α)) (table : Table α) :
    build? entries = some table ↔
      (∀ entry ∈ entries, (Pattern.parse? entry.1).isSome = true) ∧ table = entries.map rowOf ∧
        table.Apart :=
  foldlM_insertText?_eq_some_iff entries .nil table

/-- A text is added where the values of a table are replaced as it is added to the table. -/
theorem insertText?_map {β : Type} (table : Table α) (value : α → β) (entry : String × α) :
    insertText? (table.map fun row => (row.1, value row.2)) (entry.1, value entry.2) =
      (table.insertText? entry).map (·.map fun row => (row.1, value row.2)) := by
  simp only [insertText?]
  cases Pattern.parse? entry.1 with
  | none => rfl
  | some pattern =>
    simp only [Option.bind_some, insert?, List.any_map, Function.comp_def]
    split
    · rfl
    · simp only [Option.map_some, List.map_append, List.map_cons, List.map_nil]

/-- A table can be built of some texts whatever their values are. -/
theorem build?_map {β : Type} (entries : List (String × α)) (value : α → β) :
    build? (entries.map fun entry => (entry.1, value entry.2)) =
      (build? entries).map (·.map fun row => (row.1, value row.2)) := by
  have onward (table : Table α) :
      (entries.map fun entry => (entry.1, value entry.2)).foldlM insertText?
          (table.map fun row => (row.1, value row.2)) =
        (entries.foldlM insertText? table).map (·.map fun row => (row.1, value row.2)) := by
    induction entries generalizing table with
    | nil => rfl
    | cons entry later ih =>
      simp only [List.map_cons, List.foldlM_cons, insertText?_map, Option.bind_eq_bind]
      cases table.insertText? entry with
      | none => rfl
      | some extended => exact ih extended
  exact onward []

/-- One row takes part in a search. -/
def consider (path : List Char) (found : Option (Pattern × α × Captures))
    (row : Pattern × α) : Option (Pattern × α × Captures) :=
  match row.1.match? path with
  | some captures => better found row captures
  | none => found

/-- A search lets all rows take part. -/
theorem find?_eq_foldl (table : Table α) (path : List Char) :
    table.find? path = (table.foldl (consider path) none).map (·.2) := rfl

/-- A search can be moved to other rows and another path, if each row takes part in it as before. -/
theorem foldl_consider_map {β : Type} {table : Table α} {path other : List Char}
    {row : Pattern × α → Pattern × β} {moved : Pattern × α × Captures → Pattern × β × Captures}
    (step : ∀ found, ∀ entry ∈ table,
      consider other (found.map moved) (row entry) = (consider path found entry).map moved) :
    (table.map row).foldl (consider other) none =
      (table.foldl (consider path) none).map moved := by
  have onward (found : Option (Pattern × α × Captures)) :
      (table.map row).foldl (consider other) (found.map moved) =
        (table.foldl (consider path) found).map moved := by
    induction table generalizing found with
    | nil => rfl
    | cons entry later ih =>
      rw [List.map_cons, List.foldl_cons, step found entry List.mem_cons_self]
      exact ih (fun found next isLater => step found next (List.mem_cons_of_mem entry isLater)) _
  exact onward none

/-- A search finds the same row where the values of a table are replaced. -/
theorem find?_map {β : Type} (table : Table α) (value : α → β) (path : List Char) :
    Table.find? (table.map fun row => (row.1, value row.2)) path =
      (table.find? path).map fun found => (value found.1, found.2) := by
  let replaced (found : Pattern × α × Captures) : Pattern × β × Captures :=
    (found.1, value found.2.1, found.2.2)
  have step (found : Option (Pattern × α × Captures)) (row : Pattern × α) (_ : row ∈ table) :
      consider path (found.map replaced) (row.1, value row.2) =
        (consider path found row).map replaced := by
    simp only [consider]
    cases row.1.match? path with
    | none => rfl
    | some captures =>
      cases found with
      | none => rfl
      | some earlier =>
        simp only [Option.map_some, better, replaced]
        split <;> rfl
  rw [find?_eq_foldl, find?_eq_foldl, foldl_consider_map step, Option.map_map, Option.map_map]
  rfl

/-- A search finds nothing where no row matches. -/
theorem find?_eq_none {table : Table α} {path : List Char}
    (unmatched : ∀ row ∈ table, row.1.match? path = none) : table.find? path = none := by
  have passed : table.foldl (consider path) none = none := by
    induction table with
    | nil => rfl
    | cons row rest ih =>
      have here : row.1.match? path = none := unmatched row List.mem_cons_self
      rw [List.foldl_cons, consider, here]
      exact ih fun other later => unmatched other (List.mem_cons_of_mem row later)
  rw [find?_eq_foldl, passed, Option.map_none]

/-- A row is best for a path if it matches and is preferred to every other row that does. -/
structure Best (table : Table α) (path : List Char) (row : Pattern × α) (captures : Captures) :
    Prop where
  matched : row.1.match? path = some captures
  preferred : ∀ other ∈ table, other ≠ row → (other.1.match? path).isSome = true →
    row.1.preferred other.1 = true ∧ other.1.preferred row.1 = false

/-- A row is preferred to what has been found, if anything has. -/
def Trails (row : Pattern × α) (found : Option (Pattern × α × Captures)) : Prop :=
  ∀ held ∈ found, row.1.preferred held.1 = true

namespace Best

variable {table : Table α} {path : List Char} {row : Pattern × α} {captures : Captures}
  {found : Option (Pattern × α × Captures)}

/-- The best row takes the place of what has been found before. -/
theorem consider_row (best : table.Best path row captures) (trails : Trails row found) :
    consider path found row = some (row.1, row.2, captures) := by
  simp only [consider, best.matched]
  cases found with
  | none => rfl
  | some held => simp only [better, trails held rfl, if_true]

/-- Another row does not come in front of the best one. -/
theorem trails_consider (best : table.Best path row captures) {other : Pattern × α}
    (member : other ∈ table) (different : other ≠ row) (trails : Trails row found) :
    Trails row (consider path found other) := by
  unfold consider
  cases matching : other.1.match? path with
  | none => exact trails
  | some caught =>
    have behind := (best.preferred other member different (by simp [matching])).1
    intro held isHeld
    cases found with
    | none =>
      obtain rfl := Option.some.inj isHeld
      exact behind
    | some earlier =>
      simp only [better] at isHeld
      split at isHeld
      · obtain rfl := Option.some.inj isHeld
        exact behind
      · exact trails held isHeld

/-- Once the best row has been found it stays. -/
theorem consider_found (best : table.Best path row captures) {other : Pattern × α}
    (member : other ∈ table) :
    consider path (some (row.1, row.2, captures)) other = some (row.1, row.2, captures) := by
  unfold consider
  cases matching : other.1.match? path with
  | none => rfl
  | some caught =>
    have kept : other.1.preferred row.1 = false := by
      by_cases same : other = row
      · rw [same, Pattern.preferred_self]
      · exact (best.preferred other member same (by simp [matching])).2
    simp only [better, kept, Bool.false_eq_true, if_false]

/-- Once the best row has been found it stays to the end. -/
theorem foldl_found (best : table.Best path row captures) {rest : Table α}
    (inside : ∀ other ∈ rest, other ∈ table) :
    rest.foldl (consider path) (some (row.1, row.2, captures)) = some (row.1, row.2, captures) := by
  induction rest with
  | nil => rfl
  | cons other later ih =>
    rw [List.foldl_cons, best.consider_found (inside other List.mem_cons_self)]
    exact ih fun third isLater => inside third (List.mem_cons_of_mem other isLater)

/-- Until the best row comes, nothing comes in front of it. -/
theorem trails_foldl (best : table.Best path row captures) {earlier : Table α}
    (inside : ∀ other ∈ earlier, other ∈ table) (absent : row ∉ earlier)
    (trails : Trails row found) : Trails row (earlier.foldl (consider path) found) := by
  induction earlier generalizing found with
  | nil => exact trails
  | cons other later ih =>
    have different : other ≠ row := fun same => absent (same ▸ List.mem_cons_self)
    refine ih (fun third isLater => inside third (List.mem_cons_of_mem other isLater))
      (fun isLater => absent (List.mem_cons_of_mem other isLater)) ?_
    exact best.trails_consider (inside other List.mem_cons_self) different trails

/-- A search of a table ends at the best of its rows. -/
theorem find?_eq (best : table.Best path row captures) (member : row ∈ table) :
    table.find? path = some (row.2, captures) := by
  obtain ⟨earlier, later, rfl, absent⟩ := List.eq_append_cons_of_mem member
  have before : Trails row (earlier.foldl (consider path) none) :=
    best.trails_foldl (fun _ isEarlier => List.mem_append_left _ isEarlier) absent
      (by simp [Trails])
  have behind : ∀ other ∈ later, other ∈ earlier ++ row :: later := fun other isLater =>
    List.mem_append_right _ (List.mem_cons_of_mem row isLater)
  rw [find?_eq_foldl, List.foldl_append, List.foldl_cons, best.consider_row before,
    best.foldl_found behind]
  rfl

end Best

/-- A row for plain text is found on that path. -/
theorem find?_plain {table : Table α} (apart : table.Apart) {path : List Char} {value : α}
    (member : (Pattern.plain path, value) ∈ table) : table.find? path = some (value, []) := by
  have best : table.Best path (Pattern.plain path, value) [] := by
    constructor
    · exact (Pattern.match?_plain ..).mpr ⟨rfl, rfl⟩
    · intro other isOther different matched
      obtain ⟨captures, matched⟩ := Option.isSome_iff_exists.mp matched
      refine Pattern.preferred_plain matched fun alike => ?_
      -- A second row for the same text would conflict with the first.
      have conflict : other.1.conflicts (Pattern.plain path) = true := by
        rw [alike, Pattern.conflicts_plain]
      exact different (apart.eq_of_conflicts isOther member conflict)
  exact best.find?_eq member

/-- What has been found, if anything has, stands in a row of a table that matches. -/
def Stands (table : Table α) (path : List Char) (found : Option (Pattern × α × Captures)) : Prop :=
  ∀ held ∈ found, (held.1, held.2.1) ∈ table ∧ held.1.match? path = some held.2.2

/-- One row of the table takes the place of what has been found only if it matches. -/
theorem Stands.consider {table : Table α} {path : List Char}
    {found : Option (Pattern × α × Captures)} (stands : table.Stands path found)
    {row : Pattern × α} (member : row ∈ table) : table.Stands path (consider path found row) := by
  intro held isHeld
  unfold Table.consider at isHeld
  cases matched : row.1.match? path with
  | none => exact stands held (by simpa only [matched] using isHeld)
  | some captures =>
    have replaced : held = (row.1, row.2, captures) ∨ held ∈ found := by
      simp only [matched, better] at isHeld
      split at isHeld
      · split at isHeld
        · exact .inl (Option.some.inj isHeld).symm
        · exact .inr isHeld
      · exact .inl (Option.some.inj isHeld).symm
    rcases replaced with rfl | earlier
    · exact ⟨member, matched⟩
    · exact stands held earlier

/-- Whatever rows of the table take part, what is found stands in a row that matches. -/
theorem Stands.foldl {table : Table α} {path : List Char} {found : Option (Pattern × α × Captures)}
    (stands : table.Stands path found) {rows : Table α} (inside : ∀ row ∈ rows, row ∈ table) :
    table.Stands path (rows.foldl (Table.consider path) found) := by
  induction rows generalizing found with
  | nil => exact stands
  | cons row later ih =>
    exact ih (stands.consider (inside row List.mem_cons_self)) fun other isLater =>
      inside other (List.mem_cons_of_mem row isLater)

/-- What a search finds stands in a row that matches. -/
theorem exists_row_of_find? {table : Table α} {path : List Char} {value : α} {captures : Captures}
    (found : table.find? path = some (value, captures)) :
    ∃ pattern, (pattern, value) ∈ table ∧ pattern.match? path = some captures := by
  have start : table.Stands path none := fun _ impossible => nomatch impossible
  rw [find?_eq_foldl, Option.map_eq_some_iff] at found
  obtain ⟨⟨pattern, held⟩, isHeld, rfl⟩ := found
  exact ⟨pattern, start.foldl (fun _ member => member) _ isHeld⟩

end Table

end Sluice.Route
