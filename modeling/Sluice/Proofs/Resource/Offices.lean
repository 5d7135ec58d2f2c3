import Mathlib.Data.List.TakeWhile
import Sluice.Proofs.Text.Upper
import Sluice.Resource.Office

/-!
# Offices of paths

A path names an office by its text between the separators in front and the first hyphen, `Names`, and
by nothing else. Whatever the path, its office is a normal one: it names itself and is in capitals.
The normal offices are the only ones that paths have, `isNormalOffice_iff`. Letter case does not
matter, since neither a separator nor a hyphen stands in the capital form of anything else.
-/

namespace Sluice.Resource

/-- What a path has of the name of an office: its text between the separators in front and the first
hyphen. -/
def officeName (path : List Char) : List Char :=
  (path.dropWhile (· = '/')).takeWhile (· ≠ '-')

/-- The office of a name, which is no office if it is empty or reserved. -/
def officeOfName (name : List Char) : String :=
  let office := Text.upperChars name
  if office.isEmpty || office == reservedName.toList then defaultOffice else String.ofList office

theorem officeOfPath_eq (path : String) :
    officeOfPath path = officeOfName (officeName path.toList) := rfl

/-- What is no separator stands behind the separators in front. -/
theorem dropWhile_append_of_named {path : List Char} (named : ∃ c ∈ path, c ≠ '/')
    (rest : List Char) :
    (path ++ rest).dropWhile (· = '/') = path.dropWhile (· = '/') ++ rest := by
  have nonempty : path.dropWhile (· = '/') ≠ [] := by
    intro empty
    obtain ⟨c, member, different⟩ := named
    exact different (by simpa using List.dropWhile_eq_nil_iff.mp empty c member)
  rw [List.dropWhile_append, List.isEmpty_eq_false_iff.mpr nonempty]
  rfl

/-- A path with a hyphen names the same with anything behind it. -/
theorem officeName_append_of_hyphen {path : List Char} (hyphen : '-' ∈ path) (rest : List Char) :
    officeName (path ++ rest) = officeName path := by
  have dropped := dropWhile_append_of_named ⟨'-', hyphen, by decide⟩ rest
  have kept : '-' ∈ path.dropWhile (· = '/') := by
    rw [← List.takeWhile_append_dropWhile (p := fun c => decide (c = '/')) (l := path),
      List.mem_append] at hyphen
    rcases hyphen with inFront | behind
    · exact absurd (List.mem_takeWhile_imp inFront) (by decide)
    · exact behind
  have ended : ((path.dropWhile (· = '/')).takeWhile (· ≠ '-')).length ≠
      (path.dropWhile (· = '/')).length := by
    intro whole
    have self := (List.takeWhile_prefix _).eq_of_length whole
    simpa using List.takeWhile_eq_self_iff.mp self '-' kept
  rw [officeName, dropped, List.takeWhile_append, if_neg ended, officeName]

/-- What has no hyphen is kept whole. -/
theorem takeWhile_of_not_hyphen {cs : List Char} (unhyphened : '-' ∉ cs) :
    cs.takeWhile (· ≠ '-') = cs := by
  rw [List.takeWhile_eq_self_iff]
  intro c member
  exact decide_eq_true fun same => unhyphened (same ▸ member)

/-- A path without a hyphen names all that stands behind the separators in front. -/
theorem officeName_of_not_hyphen {path : List Char} (unhyphened : '-' ∉ path) :
    officeName path = path.dropWhile (· = '/') :=
  takeWhile_of_not_hyphen fun kept => unhyphened ((List.dropWhile_suffix _).subset kept)

/-! ## Names -/

/-- A path names an office: it stands between separators in front and the end or a hyphen, does not
begin with a separator and has no hyphen. -/
def Names (path name : List Char) : Prop :=
  ∃ count rest, path = List.replicate count '/' ++ name ++ rest ∧ name.head? ≠ some '/' ∧
    '-' ∉ name ∧ (rest = [] ∨ rest.head? = some '-')

/-- What does not begin with a separator has none in front. -/
theorem dropWhile_of_head? {cs : List Char} (named : cs.head? ≠ some '/') :
    cs.dropWhile (· = '/') = cs := by
  cases cs with
  | nil => rfl
  | cons c rest =>
    have different : c ≠ '/' := fun same => named (same ▸ rfl)
    exact List.dropWhile_cons_of_neg (by simp [different])

theorem head?_officeName (path : List Char) : (officeName path).head? ≠ some '/' := by
  have front := List.head?_dropWhile_not (fun c => decide (c = '/')) path
  intro begins
  have prefixed : officeName path <+: path.dropWhile (· = '/') := List.takeWhile_prefix _
  have first : (path.dropWhile (· = '/')).head? = some '/' := by
    obtain ⟨rest, whole⟩ := prefixed
    rw [← whole, List.head?_append, begins]
    rfl
  rw [first] at front
  exact absurd front (by decide)

theorem hyphen_not_mem_officeName (path : List Char) : '-' ∉ officeName path := by
  intro member
  simpa using List.mem_takeWhile_imp member

/-- A path names one office. -/
theorem names_iff {path name : List Char} : Names path name ↔ officeName path = name := by
  constructor
  · rintro ⟨count, rest, rfl, named, unhyphened, ends⟩
    have begins : (name ++ rest).head? ≠ some '/' := by
      rw [List.head?_append]
      cases first : name.head? with
      | some c => rwa [first] at named
      | none => rcases ends with rfl | hyphen <;> simp_all
    have separators : ∀ c ∈ List.replicate count '/', decide (c = '/') = true := by
      intro c member
      exact decide_eq_true (List.eq_of_mem_replicate member)
    have kept : ∀ c ∈ name, decide (c ≠ '-') = true := by
      intro c member
      exact decide_eq_true fun same => unhyphened (same ▸ member)
    have ended : rest.takeWhile (· ≠ '-') = [] := by
      rcases ends with rfl | hyphen
      · rfl
      · obtain ⟨behind, rfl⟩ := List.head?_eq_some_iff.mp hyphen
        exact List.takeWhile_cons_of_neg (by simp)
    rw [officeName, List.append_assoc, List.dropWhile_append_of_pos separators,
      dropWhile_of_head? begins, List.takeWhile_append_of_pos kept, ended, List.append_nil]
  · rintro rfl
    refine ⟨(path.takeWhile (· = '/')).length, (path.dropWhile (· = '/')).dropWhile (· ≠ '-'), ?_,
      head?_officeName path, hyphen_not_mem_officeName path, ?_⟩
    · have separators : path.takeWhile (· = '/') =
          List.replicate (path.takeWhile (· = '/')).length '/' := by
        refine List.eq_replicate_iff.mpr ⟨rfl, fun c member => ?_⟩
        simpa using List.mem_takeWhile_imp member
      rw [← separators, List.append_assoc, officeName, List.takeWhile_append_dropWhile,
        List.takeWhile_append_dropWhile]
    · have front := List.head?_dropWhile_not (fun c => decide (c ≠ '-')) (path.dropWhile (· = '/'))
      cases rest : (path.dropWhile (· = '/')).dropWhile (· ≠ '-') with
      | nil => exact .inl rfl
      | cons c behind =>
        rw [rest] at front
        have hyphen : c = '-' := by simpa using front
        exact .inr (congrArg some hyphen)

/-- Capitals name the capitals of what is named. -/
theorem officeName_upperChars (path : List Char) :
    officeName (Text.upperChars path) = Text.upperChars (officeName path) := by
  rw [officeName, Text.isMark_separator.dropWhile_upperChars,
    Text.isMark_hyphen.takeWhile_upperChars, officeName]

/-! ## Normal offices -/

/-- What every office of a path is like. -/
structure IsNormalOffice (office : String) : Prop where
  nonempty : office ≠ ""
  unreserved : office ≠ reservedName
  unhyphened : '-' ∉ office.toList
  unseparated : office.toList.head? ≠ some '/'
  capital : Text.upper office = office

/-- Headquarters are a normal office. -/
theorem isNormalOffice_default : IsNormalOffice defaultOffice := by
  constructor <;> decide +kernel

/-- Capitals begin with a separator only if the text does. -/
theorem head?_upperChars {cs : List Char} (named : cs.head? ≠ some '/') :
    (Text.upperChars cs).head? ≠ some '/' := by
  have settled := Text.isMark_separator.dropWhile_upperChars cs
  rw [dropWhile_of_head? named] at settled
  intro begins
  obtain ⟨rest, shape⟩ := List.head?_eq_some_iff.mp begins
  rw [shape, List.dropWhile_cons_of_pos (by simp)] at settled
  -- Dropping would have made the list shorter.
  have shorter := (List.dropWhile_suffix (l := rest) fun c => decide (c = '/')).length_le
  rw [settled, List.length_cons] at shorter
  omega

/-- The office of a path is normal. -/
theorem isNormalOffice_officeOfPath (path : String) : IsNormalOffice (officeOfPath path) := by
  rw [officeOfPath_eq]
  simp only [officeOfName]
  split
  · exact isNormalOffice_default
  · next proper =>
    obtain ⟨nonempty, unreserved⟩ : Text.upperChars (officeName path.toList) ≠ [] ∧
        Text.upperChars (officeName path.toList) ≠ reservedName.toList := by
      simpa using proper
    constructor
    case nonempty => rwa [ne_eq, ← String.toList_inj, String.toList_ofList]
    case unreserved => rwa [ne_eq, ← String.toList_inj, String.toList_ofList]
    case unhyphened =>
      rw [String.toList_ofList, Text.isMark_hyphen.mem_upperChars_iff]
      exact hyphen_not_mem_officeName path.toList
    case unseparated =>
      rw [String.toList_ofList]
      exact head?_upperChars (head?_officeName path.toList)
    case capital => rw [Text.upper, String.toList_ofList, Text.upperChars_upperChars]

/-- A normal office is the office of the path that it is. -/
theorem IsNormalOffice.officeOfPath_self {office : String} (normal : IsNormalOffice office) :
    officeOfPath office = office := by
  have named : officeName office.toList = office.toList := by
    rw [officeName_of_not_hyphen normal.unhyphened, dropWhile_of_head? normal.unseparated]
  have capitals : Text.upperChars office.toList = office.toList := by
    have same := congrArg String.toList normal.capital
    rwa [Text.upper, String.toList_ofList] at same
  have proper : ¬(office.toList.isEmpty || office.toList == reservedName.toList) = true := by
    simpa [String.toList_inj] using ⟨normal.nonempty, normal.unreserved⟩
  rw [officeOfPath_eq, named, officeOfName, capitals, if_neg proper, String.ofList_toList]

/-- The normal offices are those of paths. -/
theorem isNormalOffice_iff {office : String} :
    IsNormalOffice office ↔ ∃ path, officeOfPath path = office := by
  constructor
  · intro normal
    exact ⟨office, normal.officeOfPath_self⟩
  · rintro ⟨path, rfl⟩
    exact isNormalOffice_officeOfPath path

/-! ## Letter case -/

/-- The capitals of a name give the office of the name. -/
theorem officeOfName_upperChars (name : List Char) :
    officeOfName (Text.upperChars name) = officeOfName name := by
  simp only [officeOfName, Text.upperChars_upperChars]

theorem officeOfPath_upper (path : String) : officeOfPath (Text.upper path) = officeOfPath path := by
  rw [officeOfPath_eq, officeOfPath_eq, Text.upper, String.toList_ofList, officeName_upperChars,
    officeOfName_upperChars]

/-- Paths that differ in letter case are of one office. -/
theorem OfficeResolver.resolve_of_upper_eq (resolver : OfficeResolver) {path other : String}
    (alike : Text.upper path = Text.upper other) :
    resolver.resolve path = resolver.resolve other := by
  unfold OfficeResolver.resolve
  split
  · rfl
  · rw [← officeOfPath_upper path, alike, officeOfPath_upper]

/-- Every path has a normal office, and paths have all of these. It is the office of the one name in
the path, whatever else is in it. In other letter case the path is of the same office, with an office
set or not, and an office that is set counts on every path, in capitals. -/
theorem offices_normal (path : String) :
    IsNormalOffice (officeOfPath path) ∧
    (∀ office, IsNormalOffice office ↔ ∃ other, officeOfPath other = office) ∧
    (∃! name, Names path.toList name) ∧
    (∀ name, Names path.toList name → officeOfPath path = officeOfName name) ∧
    officeOfPath (Text.upper path) = officeOfPath path ∧
    (∀ (resolver : OfficeResolver) (other : String), Text.upper path = Text.upper other →
      resolver.resolve path = resolver.resolve other) ∧
    OfficeResolver.derived.resolve path = officeOfPath path ∧
    ∀ office, (OfficeResolver.fixed office).resolve path = Text.upper office := by
  refine ⟨isNormalOffice_officeOfPath path, fun office => isNormalOffice_iff, ?one, ?named,
    officeOfPath_upper path, ?recased, rfl, fun office => rfl⟩
  case one =>
    refine ⟨officeName path.toList, names_iff.mpr rfl, fun name names => ?_⟩
    exact (names_iff.mp names).symm
  case named =>
    intro name names
    rw [officeOfPath_eq, names_iff.mp names]
  case recased =>
    intro resolver other alike
    exact resolver.resolve_of_upper_eq alike

/-- A letter that has two capitals, in a path with separators in front and more behind the name. -/
theorem two_capitals_one_office :
    let path := "//straße-data"
    Names path.toList "straße".toList ∧ Text.upper path = Text.upper "//STRASSE-Data" ∧
      officeOfPath path = "STRASSE" ∧ officeOfPath "//STRASSE-Data" = "STRASSE" := by
  intro path
  obtain ⟨_, _, _, named, _, recased, _, _⟩ := offices_normal path
  have names : Names path.toList "straße".toList := by
    refine ⟨2, "-data".toList, ?_, ?_, ?_, ?_⟩ <;> decide +kernel
  have alike : Text.upper path = Text.upper "//STRASSE-Data" := by decide +kernel
  have office : officeOfPath path = "STRASSE" := by
    rw [named _ names]
    decide +kernel
  exact ⟨names, alike, office, (recased .derived _ alike).symm.trans office⟩

end Sluice.Resource
