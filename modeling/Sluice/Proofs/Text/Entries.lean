import Mathlib.Data.List.Induction
import Mathlib.Data.List.Nodup
import Mathlib.Data.List.Perm.Basic
import Sluice.Text.Entries

/-!
# Ordered entries

Entries in the strict order of their names are determined by what is found in them
(`IsOrdered.eq_of_lookup_eq`). In entries that are set one after another and in entries that are
collected at once the last value of a name is found; so both are the same, `collect_eq_ofPairs`.
-/

namespace Sluice.Entries

variable {α : Type} {entries first second : List (String × α)} {name : String} {value : α}

/-! ## Lookups -/

/-- A value is found at the front, or else behind it. -/
theorem lookup_cons_eq (entry : String × α) (rest : List (String × α)) (name : String) :
    (entry :: rest).lookup name = if name = entry.1 then some entry.2 else rest.lookup name := by
  rw [List.lookup_cons]
  split_ifs with same
  · rw [beq_iff_eq.mpr same]
  · rw [beq_eq_false_iff_ne.mpr same]

/-- Nothing is found under a name that does not occur. -/
theorem lookup_eq_none_of_ne (absent : ∀ entry ∈ entries, entry.1 ≠ name) :
    entries.lookup name = none :=
  List.lookup_eq_none_iff.mpr fun entry member => bne_iff_ne.mpr (absent entry member).symm

/-- Entries of other names do not matter. -/
theorem lookup_filter (entries : List (String × α)) (name : String) :
    (entries.filter fun entry => entry.1 = name).lookup name = entries.lookup name := by
  induction entries with
  | nil => rfl
  | cons entry rest ih =>
    by_cases same : entry.1 = name
    · rw [List.filter_cons_of_pos (by simpa using same), lookup_cons_eq, lookup_cons_eq,
        if_pos same.symm, if_pos same.symm]
    · rw [List.filter_cons_of_neg (by simpa using same), ih, lookup_cons_eq, if_neg (Ne.symm same)]

/-- Where no name occurs twice, an entry is what is found under its name. -/
theorem mem_iff_lookup_of_nodup (distinct : (entries.map (·.1)).Nodup) :
    (name, value) ∈ entries ↔ entries.lookup name = some value := by
  induction entries with
  | nil => simp
  | cons entry rest ih =>
    rw [List.map_cons, List.nodup_cons] at distinct
    rw [List.mem_cons, lookup_cons_eq, ih distinct.2]
    split_ifs with same
    · have absent : rest.lookup name = none :=
        lookup_eq_none_of_ne fun later member equal =>
          distinct.1 (List.mem_map.mpr ⟨later, member, equal.trans same⟩)
      rw [absent]
      simp [Prod.ext_iff, same, eq_comm]
    · simp [Prod.ext_iff, same]

/-! ## Order -/

/-- Entries stand in the order of their names, each name once. -/
def IsOrdered (entries : List (String × α)) : Prop :=
  entries.Pairwise fun first second => first.1 < second.1

/-- No name occurs twice in ordered entries. -/
theorem IsOrdered.nodup (ordered : IsOrdered entries) : (entries.map (·.1)).Nodup := by
  refine List.pairwise_map.mpr (ordered.imp ?_)
  intro first second less same
  exact String.lt_irrefl second.1 (same ▸ less)

/-- Ordered entries in which the same is found are the same. -/
theorem IsOrdered.eq_of_lookup_eq (ordered : IsOrdered first) (ordered' : IsOrdered second)
    (same : ∀ name, first.lookup name = second.lookup name) : first = second := by
  refine List.Perm.eq_of_pairwise
    (fun _ _ _ _ less greater => absurd greater (String.lt_asymm less)) ordered ordered' ?_
  rw [List.perm_ext_iff_of_nodup ordered.nodup.of_map ordered'.nodup.of_map]
  intro entry
  rw [mem_iff_lookup_of_nodup ordered.nodup, same, mem_iff_lookup_of_nodup ordered'.nodup]

/-! ## Setting one name after another -/

/-- What has been set is found. -/
theorem lookup_set_self (name : String) (value : α) (entries : List (String × α)) :
    (set name value entries).lookup name = some value := by
  induction entries with
  | nil => rw [set, lookup_cons_eq, if_pos rfl]
  | cons entry rest ih =>
    obtain ⟨held, kept⟩ := entry
    rw [set]
    split_ifs with less same
    · rw [lookup_cons_eq, if_pos rfl]
    · rw [lookup_cons_eq, if_pos rfl]
    · rw [lookup_cons_eq, if_neg same, ih]

/-- Under other names the same is found as before. -/
theorem lookup_set_of_ne {other : String} (differs : other ≠ name) (value : α)
    (entries : List (String × α)) : (set name value entries).lookup other = entries.lookup other := by
  induction entries with
  | nil => rw [set, lookup_cons_eq, if_neg differs]
  | cons entry rest ih =>
    obtain ⟨held, kept⟩ := entry
    rw [set]
    split_ifs with less same
    · rw [lookup_cons_eq, if_neg differs]
    · subst same
      rw [lookup_cons_eq, lookup_cons_eq, if_neg differs, if_neg differs]
    · rw [lookup_cons_eq, lookup_cons_eq, ih]

/-- Nothing else is there after an entry has been set. -/
theorem mem_of_mem_set {entry : String × α} (member : entry ∈ set name value entries) :
    entry = (name, value) ∨ entry ∈ entries := by
  induction entries with
  | nil => exact .inl (List.mem_singleton.mp member)
  | cons first rest ih =>
    obtain ⟨held, kept⟩ := first
    rw [set] at member
    split_ifs at member with less same
    · exact List.mem_cons.mp member
    · exact (List.mem_cons.mp member).imp_right (List.mem_cons_of_mem _)
    · rcases List.mem_cons.mp member with rfl | later
      · exact .inr List.mem_cons_self
      · exact (ih later).imp_right (List.mem_cons_of_mem _)

/-- Entries stay ordered. -/
theorem IsOrdered.set (ordered : IsOrdered entries) (name : String) (value : α) :
    IsOrdered (set name value entries) := by
  induction entries with
  | nil => exact List.pairwise_singleton _ _
  | cons entry rest ih =>
    obtain ⟨held, kept⟩ := entry
    obtain ⟨least, later⟩ := List.pairwise_cons.mp ordered
    rw [Entries.set]
    split_ifs with less same
    · refine List.pairwise_cons.mpr ⟨fun other member => ?_, ordered⟩
      rcases List.mem_cons.mp member with rfl | member
      · exact less
      · exact String.lt_trans less (least other member)
    · subst same
      exact List.pairwise_cons.mpr ⟨least, later⟩
    · refine List.pairwise_cons.mpr ⟨fun other member => ?_, ih later⟩
      rcases mem_of_mem_set member with rfl | member
      · exact Std.lt_of_le_of_ne (String.not_lt.mp less) (Ne.symm same)
      · exact least other member

theorem ofPairs_concat (pairs : List (String × α)) (pair : String × α) :
    ofPairs (pairs ++ [pair]) = set pair.1 pair.2 (ofPairs pairs) := by
  rw [ofPairs, List.foldl_concat, ofPairs]

theorem isOrdered_ofPairs (pairs : List (String × α)) : IsOrdered (ofPairs pairs) := by
  induction pairs using List.reverseRecOn with
  | nil => exact List.Pairwise.nil
  | append_singleton pairs pair ih =>
    rw [ofPairs_concat]
    exact ih.set pair.1 pair.2

/-- The last value of a name is found. -/
theorem lookup_ofPairs (pairs : List (String × α)) (name : String) :
    (ofPairs pairs).lookup name = pairs.reverse.lookup name := by
  induction pairs using List.reverseRecOn with
  | nil => rfl
  | append_singleton pairs pair ih =>
    rw [ofPairs_concat, List.reverse_concat, lookup_cons_eq]
    split_ifs with found
    · rw [found, lookup_set_self]
    · rw [lookup_set_of_ne found, ih]

/-- There are entries as soon as there are pairs. -/
theorem ofPairs_eq_nil_iff {pairs : List (String × α)} : ofPairs pairs = [] ↔ pairs = [] := by
  constructor
  · intro none
    have absent := fun name => lookup_ofPairs pairs name
    rw [none] at absent
    refine List.reverse_eq_nil_iff.mp (List.eq_nil_iff_forall_not_mem.mpr fun pair member => ?_)
    have differs := List.lookup_eq_none_iff.mp (absent pair.1).symm pair member
    exact absurd rfl (bne_iff_ne.mp differs)
  · rintro rfl
    rfl

/-- Pairs whose names differ are the entries. -/
theorem mem_ofPairs_iff {pairs : List (String × α)} (distinct : (pairs.map (·.1)).Nodup) :
    (name, value) ∈ ofPairs pairs ↔ (name, value) ∈ pairs := by
  have reversed : (pairs.reverse.map (·.1)).Nodup := by
    rw [List.map_reverse]
    exact List.nodup_reverse.mpr distinct
  rw [mem_iff_lookup_of_nodup (isOrdered_ofPairs pairs).nodup, lookup_ofPairs,
    ← mem_iff_lookup_of_nodup reversed, List.mem_reverse]

/-! ## Collecting at once -/

/-- Pairs stand in the order of their names. -/
def IsSorted (pairs : List (String × α)) : Prop :=
  pairs.Pairwise fun first second => first.1 ≤ second.1

theorem mem_of_mem_lastOfEach {pairs : List (String × α)} {entry : String × α}
    (member : entry ∈ lastOfEach pairs) : entry ∈ pairs := by
  fun_induction lastOfEach pairs with
  | case1 => exact member
  | case2 => exact member
  | case3 entry next rest same ih => exact List.mem_cons_of_mem _ (ih member)
  | case4 entry next rest differs ih =>
    rcases List.mem_cons.mp member with rfl | later
    · exact List.mem_cons_self
    · exact List.mem_cons_of_mem _ (ih later)

/-- A name before the next one in sorted pairs is before all others. -/
theorem IsSorted.lt_of_ne {entry next : String × α} {rest : List (String × α)}
    (sorted : IsSorted (entry :: next :: rest)) (differs : entry.1 ≠ next.1) :
    ∀ later ∈ next :: rest, entry.1 < later.1 := by
  obtain ⟨least, sorted⟩ := List.pairwise_cons.mp sorted
  have less : entry.1 < next.1 := Std.lt_of_le_of_ne (least next List.mem_cons_self) differs
  intro later member
  rcases List.mem_cons.mp member with rfl | member
  · exact less
  · exact Std.lt_of_lt_of_le less ((List.pairwise_cons.mp sorted).1 later member)

theorem IsSorted.isOrdered {pairs : List (String × α)} (sorted : IsSorted pairs) :
    IsOrdered (lastOfEach pairs) := by
  fun_induction lastOfEach pairs with
  | case1 => exact List.Pairwise.nil
  | case2 => exact List.pairwise_singleton _ _
  | case3 entry next rest same ih => exact ih (List.pairwise_cons.mp sorted).2
  | case4 entry next rest differs ih =>
    refine List.pairwise_cons.mpr ⟨fun later member => ?_, ih (List.pairwise_cons.mp sorted).2⟩
    exact sorted.lt_of_ne differs later (mem_of_mem_lastOfEach member)

/-- The last value of a name in sorted pairs is kept. -/
theorem IsSorted.lookup_lastOfEach {pairs : List (String × α)} (sorted : IsSorted pairs)
    (name : String) : (lastOfEach pairs).lookup name = pairs.reverse.lookup name := by
  fun_induction lastOfEach pairs with
  | case1 => rfl
  | case2 => rfl
  | case3 entry next rest same ih =>
    -- The value in front is not the last one of its name.
    rw [ih (List.pairwise_cons.mp sorted).2, List.reverse_cons, List.reverse_cons,
      List.reverse_cons, List.lookup_append, List.lookup_append, List.lookup_append, Option.or_assoc,
      lookup_cons_eq, lookup_cons_eq, same]
    split_ifs
    · rw [Option.some_or]
    · rw [List.lookup_nil, Option.none_or]
  | case4 entry next rest differs ih =>
    have reversed : (entry :: next :: rest).reverse = (next :: rest).reverse ++ [entry] :=
      List.reverse_cons
    rw [lookup_cons_eq, ih (List.pairwise_cons.mp sorted).2, reversed, List.lookup_append,
      lookup_cons_eq]
    split_ifs with found
    · have absent : (next :: rest).reverse.lookup name = none :=
        lookup_eq_none_of_ne fun later member equal =>
          String.lt_irrefl name
            (by simpa [← found, equal] using
              sorted.lt_of_ne differs later (List.mem_reverse.mp member))
      rw [absent, Option.none_or]
    · rw [List.lookup_nil, Option.or_none]

/-- Whether the name of a pair is not behind that of another one. -/
private theorem le_trans_names (first second third : String × α)
    (low : decide (first.1 ≤ second.1) = true) (high : decide (second.1 ≤ third.1) = true) :
    decide (first.1 ≤ third.1) = true :=
  decide_eq_true (String.le_trans (of_decide_eq_true low) (of_decide_eq_true high))

private theorem le_total_names (first second : String × α) :
    (decide (first.1 ≤ second.1) || decide (second.1 ≤ first.1)) = true := by
  simpa using String.le_total first.1 second.1

theorem isSorted_mergeSort (pairs : List (String × α)) :
    IsSorted (pairs.mergeSort fun first second => first.1 ≤ second.1) :=
  (List.pairwise_mergeSort le_trans_names le_total_names pairs).imp of_decide_eq_true

/-- Pairs of one name keep their order when pairs are sorted. -/
theorem filter_mergeSort (pairs : List (String × α)) (name : String) :
    ((pairs.mergeSort fun first second => first.1 ≤ second.1).filter fun pair => pair.1 = name) =
      pairs.filter fun pair => pair.1 = name := by
  -- Pairs of one name are sorted already, so they are a part of the sorted pairs in their order.
  have alike : (pairs.filter fun pair => pair.1 = name).Pairwise fun first second =>
      decide (first.1 ≤ second.1) = true := by
    refine List.pairwise_of_forall_mem_list fun first isFirst second isSecond => decide_eq_true ?_
    have same : first.1 = second.1 :=
      (of_decide_eq_true (List.mem_filter.mp isFirst).2).trans
        (of_decide_eq_true (List.mem_filter.mp isSecond).2).symm
    exact same ▸ String.le_refl first.1
  have kept := (List.sublist_mergeSort le_trans_names le_total_names alike
    List.filter_sublist).filter fun pair => decide (pair.1 = name)
  rw [List.filter_filter] at kept
  simp only [Bool.and_self] at kept
  exact (kept.eq_of_length ((List.mergeSort_perm pairs _).filter _).length_eq.symm).symm

/-- Whether entries are set one after another or collected at once does not matter. -/
theorem collect_eq_ofPairs (pairs : List (String × α)) : collect pairs = ofPairs pairs := by
  have sorted := isSorted_mergeSort pairs
  refine sorted.isOrdered.eq_of_lookup_eq (isOrdered_ofPairs pairs) fun name => ?_
  rw [sorted.lookup_lastOfEach, lookup_ofPairs, ← lookup_filter, List.filter_reverse,
    filter_mergeSort, ← List.filter_reverse, lookup_filter]

end Sluice.Entries
