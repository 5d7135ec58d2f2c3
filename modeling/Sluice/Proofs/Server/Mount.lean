import Mathlib.Data.List.DropRight
import Sluice.Proofs.Resource.Offices
import Sluice.Proofs.Server.Answers

/-!
# The office of a mount

A server mounts its resources under its context path without the separators at the end, and, where no
office is set, serves the office that the context path names as it is written. The two go together
where a hyphen ends the name of the office, where nothing stands at the end to be left out, and at the
root. Anywhere else separators at the end become part of the office: `officeOfPath_of_trailing`. There
even the reserved name is taken for an office, and every number of separators gives another one.
-/

namespace Sluice.Resource

/-- Separators have no other capital form. -/
theorem upperChars_append_separators (name : List Char) (count : Nat) :
    Text.upperChars (name ++ List.replicate count '/') =
      Text.upperChars name ++ List.replicate count '/' := by
  have settled : Text.upperChars (List.replicate count '/') = List.replicate count '/' := by
    apply Text.upperChars_of_settled
    intro c member
    rw [List.eq_of_mem_replicate member]
    rfl
  rw [Text.upperChars_append, settled]

theorem separator_mem_append (name : List Char) (count : Nat) :
    '/' ∈ name ++ List.replicate (count + 1) '/' :=
  List.mem_append_right _ (List.mem_replicate.mpr ⟨count.succ_ne_zero, rfl⟩)

/-- A name with separators behind it is an office as it is. -/
theorem officeOfName_append_separators (name : List Char) (count : Nat) :
    officeOfName (name ++ List.replicate (count + 1) '/') =
      String.ofList (Text.upperChars name ++ List.replicate (count + 1) '/') := by
  have separator := separator_mem_append (Text.upperChars name) count
  have unreserved : Text.upperChars name ++ List.replicate (count + 1) '/' ≠ reservedName.toList := by
    intro reserved
    rw [reserved] at separator
    revert separator
    decide
  have nonempty := List.ne_nil_of_mem separator
  simp only [officeOfName, upperChars_append_separators, List.isEmpty_eq_false_iff.mpr nonempty,
    beq_eq_false_iff_ne.mpr unreserved, Bool.or_self, Bool.false_eq_true, if_false]

/-- Separators behind a name do not give the office that the name gives. -/
theorem officeOfName_append_separators_ne (name : List Char) (count : Nat) :
    officeOfName (name ++ List.replicate (count + 1) '/') ≠ officeOfName name := by
  rw [officeOfName_append_separators]
  intro same
  simp only [officeOfName] at same
  split at same
  · -- Headquarters have no separator in their name.
    have separator : '/' ∈ defaultOffice.toList := by
      rw [← same, String.toList_ofList]
      exact separator_mem_append ..
    revert separator
    decide
  · have shorter := congrArg List.length (String.ofList_injective same)
    simp at shorter

/-- Behind one name, every number of separators gives an office of its own. -/
theorem officeOfName_separators_inj (name : List Char) (count other : Nat) :
    officeOfName (name ++ List.replicate count '/') =
      officeOfName (name ++ List.replicate other '/') ↔ count = other := by
  constructor
  · intro same
    cases count with
    | zero =>
      cases other with
      | zero => rfl
      | succ other =>
        rw [List.replicate_zero, List.append_nil] at same
        exact absurd same.symm (officeOfName_append_separators_ne name other)
    | succ count =>
      cases other with
      | zero =>
        rw [List.replicate_zero, List.append_nil] at same
        exact absurd same (officeOfName_append_separators_ne name count)
      | succ other =>
        rw [officeOfName_append_separators, officeOfName_append_separators] at same
        have lengths := congrArg List.length (String.ofList_injective same)
        simpa using lengths
  · intro same
    rw [same]

/-- If there is more in it than separators, it names the separators behind it as well. -/
theorem officeName_append_of_not_hyphen {path : List Char} (unhyphened : '-' ∉ path)
    (named : ∃ c ∈ path, c ≠ '/') (count : Nat) :
    officeName (path ++ List.replicate count '/') = officeName path ++ List.replicate count '/' := by
  have behind : '-' ∉ path ++ List.replicate count '/' := by simp [unhyphened]
  rw [officeName_of_not_hyphen behind, officeName_of_not_hyphen unhyphened,
    dropWhile_append_of_named named]

end Sluice.Resource

namespace Sluice.Server

open Resource

variable {σ : Type}

theorem toList_withoutTrailing (path : String) :
    (withoutTrailing path).toList = path.toList.rdropWhile (· = '/') :=
  String.toList_ofList

@[simp] theorem withoutTrailing_withoutTrailing (path : String) :
    withoutTrailing (withoutTrailing path) = withoutTrailing path := by
  simp only [← String.toList_inj, toList_withoutTrailing, List.rdropWhile_idempotent]

/-- A path is its mount with separators behind it. -/
theorem exists_separators (path : String) :
    ∃ count, path.toList = (withoutTrailing path).toList ++ List.replicate count '/' := by
  have separators : path.toList.rtakeWhile (· = '/') =
      List.replicate (path.toList.rtakeWhile (· = '/')).length '/' := by
    refine List.eq_replicate_iff.mpr ⟨rfl, fun c member => ?_⟩
    simpa using List.mem_rtakeWhile_imp member
  refine ⟨(path.toList.rtakeWhile (· = '/')).length, ?_⟩
  rw [← separators, toList_withoutTrailing, List.rdropWhile_append_rtakeWhile]

/-- A mount ends with no separator, so there is more in it than separators, unless it is the root. -/
theorem exists_ne_separator {path : String} (notRoot : withoutTrailing path ≠ "") :
    ∃ c ∈ (withoutTrailing path).toList, c ≠ '/' := by
  have nonempty : path.toList.rdropWhile (· = '/') ≠ [] := by
    rw [← toList_withoutTrailing, ne_eq, String.toList_eq_nil_iff]
    exact notRoot
  rw [toList_withoutTrailing]
  refine ⟨_, List.getLast_mem nonempty, ?_⟩
  simpa using List.rdropWhile_last_not _ _ nonempty

/-- Paths with one mount name one office exactly if they are the same, or a hyphen ends the name, or
the mount is the root. -/
theorem officeOfPath_eq_iff {path other : String}
    (sameMount : withoutTrailing path = withoutTrailing other) :
    officeOfPath path = officeOfPath other ↔
      path = other ∨ '-' ∈ (withoutTrailing path).toList ∨ withoutTrailing path = "" := by
  obtain ⟨count, ofPath⟩ := exists_separators path
  obtain ⟨count', ofOther⟩ := exists_separators other
  rw [← sameMount] at ofOther
  have paths : path = other ↔ path.toList = other.toList := String.toList_inj.symm
  rw [officeOfPath_eq, officeOfPath_eq, paths, ofPath, ofOther]
  -- Two paths with one mount differ in the number of separators behind it alone.
  by_cases root : withoutTrailing path = ""
  · have unnamed (count : Nat) : officeName (List.replicate count '/') = [] := by
      simp [officeName]
    simp only [root, String.toList_empty, List.nil_append, unnamed, or_true]
  by_cases hyphen : '-' ∈ (withoutTrailing path).toList
  · simp only [officeName_append_of_hyphen hyphen, hyphen, or_true, true_or]
  · have named := exists_ne_separator root
    rw [officeName_append_of_not_hyphen hyphen named, officeName_append_of_not_hyphen hyphen named,
      officeOfName_separators_inj]
    simp [root, hyphen]

/-- A path that has separators behind its mount, no hyphen and more than separators names the office
of its capitals, those separators included. -/
theorem officeOfPath_of_trailing {path : String} (trailing : withoutTrailing path ≠ path)
    (unhyphened : '-' ∉ (withoutTrailing path).toList) (notRoot : withoutTrailing path ≠ "") :
    officeOfPath path = String.ofList (Text.upperChars (path.toList.dropWhile (· = '/'))) := by
  obtain ⟨count, ofPath⟩ := exists_separators path
  have named := exists_ne_separator notRoot
  cases count with
  | zero =>
    rw [List.replicate_zero, List.append_nil, String.toList_inj] at ofPath
    exact absurd ofPath.symm trailing
  | succ count =>
    rw [officeOfPath_eq, ofPath, officeName_append_of_not_hyphen unhyphened named,
      officeOfName_append_separators, dropWhile_append_of_named named,
      upperChars_append_separators, officeName_of_not_hyphen unhyphened]

namespace Application

/-- Without an office of its own, a server mounts its resources under the context path less the
separators at its end and serves the office that the context path names. That is the office of the
mount exactly if there are no such separators, or a hyphen ends the name, or the mount is the root; so
it is for any two paths with one mount. Otherwise the separators belong to the office. -/
theorem office_of_mount (path : String) :
    (officeOfPath path = officeOfPath (withoutTrailing path) ↔
      path = withoutTrailing path ∨ '-' ∈ (withoutTrailing path).toList ∨
        withoutTrailing path = "") ∧
    (∀ other, withoutTrailing path = withoutTrailing other →
      (officeOfPath path = officeOfPath other ↔
        path = other ∨ '-' ∈ (withoutTrailing path).toList ∨ withoutTrailing path = "")) ∧
    (path ≠ withoutTrailing path → '-' ∉ (withoutTrailing path).toList →
      withoutTrailing path ≠ "" →
      officeOfPath path = String.ofList (Text.upperChars (path.toList.dropWhile (· = '/')))) ∧
    ∀ (σ : Type) (settings : Settings) (registry : Registry σ) (source : Source σ)
      (application : Application σ),
      assemble? settings registry source = some application → settings.office = none →
      settings.server.contextPath = path →
        Route.Table.build? (destinations registry (withoutTrailing path)) =
            some application.table ∧
          application.engine.office = officeOfPath path := by
  refine ⟨?mount, ?mounts, ?trailing, ?served⟩
  case mount => exact officeOfPath_eq_iff (withoutTrailing_withoutTrailing path).symm
  case mounts =>
    intro other sameMount
    exact officeOfPath_eq_iff sameMount
  case trailing =>
    intro trailing unhyphened notRoot
    exact officeOfPath_of_trailing trailing.symm unhyphened notRoot
  case served =>
    rintro σ settings registry source application assembled derived rfl
    refine ⟨(build?_of_assemble? assembled).1, ?_⟩
    rw [(parts_of_assemble? assembled).1, Engine.office, Settings.offices, derived]
    rfl

/-- Two separators behind a path without a hyphen: the server has neither the office of its mount nor
that of a path with one separator. -/
theorem separators_in_office :
    let settings : Settings := { Settings.standard with server.contextPath := "/lrl//" }
    let source : Source Unit := .checkedByLease fun _ => .ok ()
    let mount := withoutTrailing "/lrl//"
    mount = withoutTrailing "/lrl/" ∧ "/lrl//" ≠ mount ∧ '-' ∉ mount.toList ∧ mount ≠ "" ∧
      officeOfPath "/lrl//" ≠ officeOfPath mount ∧
      officeOfPath "/lrl//" ≠ officeOfPath "/lrl/" ∧
      ∃ application, assemble? settings .empty source = some application ∧
        settings.office = none ∧ application.engine.office = "LRL//" := by
  intro settings source mount
  have mounted : mount = "/lrl" := by decide +kernel
  have sameMount : mount = withoutTrailing "/lrl/" := by decide +kernel
  have trailing : "/lrl//" ≠ mount := by simp [mounted]
  have unhyphened : '-' ∉ mount.toList := by
    rw [mounted]
    decide
  have notRoot : mount ≠ "" := by simp [mounted]
  have builds : (assemble? settings .empty source).isSome = true := by decide +kernel
  obtain ⟨application, assembled⟩ := Option.isSome_iff_exists.mp builds
  obtain ⟨ofMount, ofMounts, named, served⟩ := office_of_mount "/lrl//"
  obtain ⟨_, office⟩ := served Unit settings .empty source application assembled rfl rfl
  have different := ofMounts "/lrl/" sameMount
  refine ⟨sameMount, trailing, unhyphened, notRoot, ?_, ?_, application, assembled, rfl, ?_⟩
  · rw [ne_eq, ofMount]
    simp [trailing, unhyphened, notRoot, mount]
  · rw [ne_eq, different]
    simp [unhyphened, notRoot, mount]
  · rw [office, named trailing unhyphened notRoot]
    decide +kernel

/-- Behind the reserved name a separator makes an office of it, although the resources are mounted
where the name alone would have them, which serves headquarters. -/
theorem reserved_name_escapes :
    let vars : Variables := fun name => [("CDA_CONTEXT_PATH", "/cwms/")].lookup name
    let registry :=
      (Registration.run [⟨"/a/\x7bx\x7d", {}, .writtenBy ["W"]⟩]).registry
    let source : Source Unit := .checkedByLease fun _ => .ok ()
    ∃ settings application, Settings.load vars = .ok (settings, []) ∧ settings.office = none ∧
      assemble? settings registry source = some application ∧
      (application.table.find? "/cwms/a".toList).isSome = true ∧
      application.engine.office = "CWMS/" ∧
      officeOfPath (withoutTrailing settings.server.contextPath) = "HQ" := by
  intro vars registry source
  have serves : (assemble? { Settings.standard with server.contextPath := "/cwms/" } registry
      source).map (fun application =>
        ((application.table.find? "/cwms/a".toList).isSome, application.engine.office)) =
      some (true, "CWMS/") := by
    decide +kernel
  obtain ⟨application, assembled, served⟩ := Option.map_eq_some_iff.mp serves
  obtain ⟨found, office⟩ := Prod.mk.inj served
  exact ⟨_, application, by decide +kernel, rfl, assembled, found, office, by decide +kernel⟩

end Application

end Sluice.Server
