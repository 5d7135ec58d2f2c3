import Sluice.Proofs.Http.Forms
import Sluice.Proofs.Text.Entries
import Sluice.Resource.Filters

/-!
# Filters from queries

The filters in a query are the ones that are collected from the names and values that the query was
written from, whatever texts these are.
-/

namespace Sluice.Resource.Filters

open Http (Uri)
open Http.Form (Writes queryChars writes_queryChars formPairs_of_writes)

variable {pairs : List (String × String)} {name value : String}

/-- A target without a query has the fields of an empty one. -/
theorem pairs_eq_formPairs (uri : Uri) : uri.pairs = Uri.formPairs (uri.query.getD []) := by
  cases shown : uri.query with
  | none => simp only [Uri.pairs, shown, Option.getD_none]; rfl
  | some query => simp only [Uri.pairs, shown, Option.getD_some]

theorem collect_eq_ofPairs (pairs : List (String × String)) : collect pairs = ofPairs pairs := by
  rw [collect, Entries.collect_eq_ofPairs, ofPairs]

/-- Of a repeated name the last value is found, as it was given. -/
theorem get?_collect_eq_some_iff :
    (collect pairs).get? name = some value ↔
      ∃ before after, pairs = before ++ (name, value) :: after ∧ ∀ pair ∈ after, pair.1 ≠ name := by
  rw [collect_eq_ofPairs, get?, ofPairs, Entries.lookup_ofPairs, List.lookup_eq_some_iff]
  constructor
  · rintro ⟨later, earlier, reversed, absent⟩
    refine ⟨earlier.reverse, later.reverse, ?_, fun pair member => ?_⟩
    · rw [← List.reverse_reverse pairs, reversed]
      simp
    · exact (bne_iff_ne.mp (absent pair (List.mem_reverse.mp member))).symm
  · rintro ⟨before, after, rfl, absent⟩
    refine ⟨after.reverse, before.reverse, by simp, fun pair member => ?_⟩
    exact bne_iff_ne.mpr (absent pair (List.mem_reverse.mp member)).symm

theorem isEmpty_collect : (collect pairs).isEmpty = true ↔ pairs = [] := by
  rw [collect_eq_ofPairs, isEmpty, ofPairs, List.isEmpty_iff, Entries.ofPairs_eq_nil_iff]

theorem read_eq_collect (uri : Uri) : read uri = .ok (collect uri.pairs) := by
  rw [read_eq, ofUri, collect_eq_ofPairs]

/-- What was written into a query is what its filters are collected from. -/
theorem read_of_writes {query : List Char} (writes : Writes query pairs) {uri : Uri}
    (shown : uri.query.getD [] = query) : read uri = .ok (collect pairs) := by
  rw [read_eq_collect, pairs_eq_formPairs, shown, formPairs_of_writes writes]

/-- Filters can be read from every query. Names and values of any characters, written into a query as
escapes in either letter case, are read as the filters that are collected from them at once; behind
every path such a query makes a target, up to the greatest size of targets. In the filters of either
kind the last value of a name is found unchanged, and there are none only if there are no pairs. -/
theorem filters_of_query :
    (∀ uri : Uri, read uri = .ok (collect uri.pairs)) ∧
    ∀ pairs : List (String × String),
      Writes (queryChars pairs) pairs ∧
      (∀ query, Writes query pairs →
        (∀ uri : Uri, uri.query.getD [] = query → read uri = .ok (collect pairs)) ∧
        ∀ path : List Char, path.head? = some '/' → path.all Uri.isPathChar = true →
          (String.ofList (path ++ '?' :: query)).utf8ByteSize ≤ Uri.maxBytes →
          ∃ uri, Uri.parse? (String.ofList (path ++ '?' :: query)) = some uri ∧
            uri.path = path ∧ read uri = .ok (collect pairs)) ∧
      (∀ name value, (collect pairs).get? name = some value ↔
        ∃ before after, pairs = before ++ (name, value) :: after ∧
          ∀ pair ∈ after, pair.1 ≠ name) ∧
      ((collect pairs).isEmpty = true ↔ pairs = []) := by
  refine ⟨read_eq_collect, fun pairs => ⟨writes_queryChars pairs, ?_,
    fun _ _ => get?_collect_eq_some_iff, isEmpty_collect⟩⟩
  intro query writes
  refine ⟨fun uri shown => read_of_writes writes shown, ?_⟩
  intro path rooted pathAllowed fits
  exact ⟨⟨path, some query⟩, Uri.parse?_ofList rooted pathAllowed writes.allowed fits, rfl,
    read_of_writes writes rfl⟩

/-- Separators, a name without a value, a value without a name and a repeated name. -/
theorem filters_of_query_repeated :
    let pairs := [("a&b", "1=2"), ("", "+%"), ("\u00df", ""), ("a&b", " ")]
    let query := "%61%26%62=%31%3D%32&=%2B%25&%C3%9F=&%61%26%62=%20"
    String.ofList (queryChars pairs) = query ∧
      (∃ uri, Uri.parse? ("/rows?" ++ query) = some uri ∧ read uri = .ok (collect pairs)) ∧
      (collect pairs).get? "a&b" = some " " ∧ (collect pairs).isEmpty = false := by
  intro pairs query
  have written : queryChars pairs = query.toList := by decide +kernel
  obtain ⟨writes, onWritten, found, empty⟩ := filters_of_query.2 pairs
  rw [written] at writes
  obtain ⟨uri, parsed, _, isRead⟩ :=
    (onWritten _ writes).2 "/rows".toList (by decide) (by decide) (by decide +kernel)
  refine ⟨by rw [written, String.ofList_toList], ⟨uri, ?_, isRead⟩, ?_, ?_⟩
  · rw [← parsed]
    decide +kernel
  · exact (found "a&b" " ").mpr ⟨pairs.take 3, [], by decide, by decide⟩
  · exact Bool.eq_false_iff.mpr fun none => List.cons_ne_nil _ _ (empty.mp none)

end Sluice.Resource.Filters
