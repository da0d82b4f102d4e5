import SheetEditor.Draft.Completion
import SheetEditor.Proofs.Text.UpperCase

/-!
Contract: which functions are suggested, and in which order.

Owns: that there is one ranking of the functions whose names begin with a query, that it is cut off
at the limit, and what becomes of it with another limit or another query.

Does not own: what is typed of a name (`SheetEditor.Proofs.Draft.NameAtCaret`), and when suggestions
are shown (`SheetEditor.Proofs.Session.AcceptedSuggestion`).

A name that is just what was asked for is the least of the names that begin with it. So an exact match
comes first in the order of the names already, and a longer query ranks what it leaves as before.
-/

namespace SheetEditor.Draft

-- The order of names is the one that they are ranked by, whatever else is imported.
attribute [local instance (2000)] List.instLE List.decidableLE

variable {registry ranking other : List FunctionDefinition} {query : Text}

/-! ## Stable order -/

section Stable

variable {Element Key : Type} {before : Element → Element → Bool} {elements others : List Element}

/-- Sorting keeps the order of elements of which each may stand before each. -/
theorem filter_mergeSort
    (trans : ∀ first second third, before first second → before second third → before first third)
    (total : ∀ first second, before first second || before second first)
    {selected : Element → Bool}
    (tied : ∀ first second, selected first → selected second → before first second)
    (elements : List Element) :
    (elements.mergeSort before).filter selected = elements.filter selected := by
  have ordered : (elements.filter selected).Pairwise (before · ·) :=
    List.pairwise_of_forall_mem_list fun first firstMember second secondMember =>
      tied first second (List.mem_filter.mp firstMember).2 (List.mem_filter.mp secondMember).2
  have kept := (List.sublist_mergeSort trans total ordered List.filter_sublist).filter selected
  simp only [List.filter_filter, Bool.and_self] at kept
  have length := ((List.mergeSort_perm elements before).filter selected).length_eq
  exact (kept.eq_of_length length.symm).symm

variable [DecidableEq Key] {key : Element → Key}

theorem mem_iff_of_filter_key
    (same : ∀ value, elements.filter (key · = value) = others.filter (key · = value))
    (element : Element) : element ∈ elements ↔ element ∈ others := by
  have selected := congrArg (element ∈ ·) (same (key element))
  simpa using selected

/-- That the elements of each key are the same only has to be seen for the keys that there are. -/
theorem filter_key_of_perm (perm : elements.Perm others)
    (same : ∀ element ∈ elements,
      elements.filter (key · = key element) = others.filter (key · = key element)) (value : Key) :
    elements.filter (key · = value) = others.filter (key · = value) := by
  by_cases used : ∃ element ∈ elements, key element = value
  · obtain ⟨element, member, rfl⟩ := used
    exact same element member
  · have unused : ∀ element ∈ elements, ¬decide (key element = value) = true := by
      simpa using used
    rw [List.filter_eq_nil_iff.mpr unused, List.filter_eq_nil_iff.mpr fun element member =>
      unused element (perm.mem_iff.mpr member)]

/-- A list in the order of a key is known from its elements of each key. -/
theorem eq_of_filter_key {below : Key → Key → Prop}
    (antisymm : ∀ {first second}, below first second → below second first → first = second)
    (ordered : elements.Pairwise fun first second => below (key first) (key second))
    (othersOrdered : others.Pairwise fun first second => below (key first) (key second))
    (same : ∀ value, elements.filter (key · = value) = others.filter (key · = value)) :
    elements = others := by
  induction elements generalizing others with
  | nil =>
      cases others with
      | nil => rfl
      | cons first others => cases (mem_iff_of_filter_key same first).mpr List.mem_cons_self
  | cons first elements inductionHypothesis =>
      cases others with
      | nil => cases (mem_iff_of_filter_key same first).mp List.mem_cons_self
      | cons second others =>
          have firstMember := (mem_iff_of_filter_key same first).mp List.mem_cons_self
          have secondMember := (mem_iff_of_filter_key same second).mpr List.mem_cons_self
          -- Neither key is above the other: each is first in a list that has both.
          have sameKey : key first = key second := by
            rcases List.mem_cons.mp firstMember with rfl | firstLater
            · rfl
            rcases List.mem_cons.mp secondMember with rfl | secondLater
            · rfl
            exact antisymm (List.rel_of_pairwise_cons ordered secondLater)
              (List.rel_of_pairwise_cons othersOrdered firstLater)
          have heads := same (key first)
          rw [List.filter_cons_of_pos (by simp), List.filter_cons_of_pos (by simp [sameKey])] at heads
          obtain ⟨rfl, -⟩ := List.cons.inj heads
          congr 1
          refine inductionHypothesis ordered.of_cons othersOrdered.of_cons fun value => ?_
          have tails := same value
          rw [List.filter_cons, List.filter_cons] at tails
          split at tails
          · exact (List.cons.inj tails).2
          · exact tails

end Stable

/-! ## Rankings -/

/-- The functions whose names begin with a query, letter case aside, as they are registered. -/
def matching (registry : List FunctionDefinition) (query : Text) : List FunctionDefinition :=
  registry.filter fun definition => query.upper <+: definition.name.upper

/-- A ranking of the functions that match a query. -/
structure IsRanking (registry : List FunctionDefinition) (query : Text)
    (ranking : List FunctionDefinition) : Prop where
  /-- Each function is in it as often as it is registered. -/
  perm : ranking.Perm (matching registry query)
  exactFirst : ranking.Pairwise fun earlier later =>
    later.name.upper = query.upper → earlier.name.upper = query.upper
  /-- The exact matches are in the order of their names, and the others too. -/
  ordered : ranking.Pairwise fun earlier later =>
    (earlier.name.upper = query.upper ↔ later.name.upper = query.upper) →
      earlier.name.upper ≤ later.name.upper
  /-- Functions of one name keep their order. -/
  stable : ∀ name : Text, ranking.filter (·.name.upper = name) =
    (matching registry query).filter (·.name.upper = name)

/-- Whether a list is a ranking can be computed. -/
instance (registry : List FunctionDefinition) (query : Text) (ranking : List FunctionDefinition) :
    Decidable (IsRanking registry query ranking) :=
  decidable_of_iff (ranking.Perm (matching registry query) ∧
      (ranking.Pairwise fun earlier later =>
        later.name.upper = query.upper → earlier.name.upper = query.upper) ∧
      (ranking.Pairwise fun earlier later =>
        (earlier.name.upper = query.upper ↔ later.name.upper = query.upper) →
          earlier.name.upper ≤ later.name.upper) ∧
      ∀ definition ∈ ranking, ranking.filter (·.name.upper = definition.name.upper) =
        (matching registry query).filter (·.name.upper = definition.name.upper))
    ⟨fun ⟨perm, exactFirst, ordered, stable⟩ =>
        ⟨perm, exactFirst, ordered, filter_key_of_perm perm stable⟩,
      fun ⟨perm, exactFirst, ordered, stable⟩ => ⟨perm, exactFirst, ordered, fun _ _ => stable _⟩⟩

namespace IsRanking

theorem query_prefix_name (isRanking : IsRanking registry query ranking)
    {definition : FunctionDefinition} (member : definition ∈ ranking) :
    query.upper <+: definition.name.upper := by
  have matched := isRanking.perm.mem_iff.mp member
  exact of_decide_eq_true (List.mem_filter.mp matched).2

/-- A ranking is in the order of the names. -/
theorem inOrder (isRanking : IsRanking registry query ranking) :
    ranking.Pairwise fun earlier later => earlier.name.upper ≤ later.name.upper := by
  have both := isRanking.exactFirst.and isRanking.ordered
  refine both.imp_of_mem fun {earlier later} _ laterMember ⟨exactFirst, ordered⟩ => ?_
  by_cases exact : earlier.name.upper = query.upper
  · rw [exact]
    exact (isRanking.query_prefix_name laterMember).le
  · exact ordered ⟨fun same => absurd same exact, exactFirst⟩

/-- Conversely, the order of the names puts exact matches first. -/
theorem of_inOrder (perm : ranking.Perm (matching registry query))
    (inOrder : ranking.Pairwise fun earlier later => earlier.name.upper ≤ later.name.upper)
    (stable : ∀ name : Text, ranking.filter (·.name.upper = name) =
      (matching registry query).filter (·.name.upper = name)) :
    IsRanking registry query ranking where
  perm := perm
  exactFirst := by
    refine inOrder.imp_of_mem fun {earlier later} member _ below exact => ?_
    have begins : query.upper <+: earlier.name.upper :=
      of_decide_eq_true (List.mem_filter.mp (perm.mem_iff.mp member)).2
    exact List.le_antisymm (exact ▸ below) begins.le
  ordered := inOrder.imp fun below => fun _ => below
  stable := stable

/-- There is only one ranking. -/
theorem eq (isRanking : IsRanking registry query ranking)
    (otherRanking : IsRanking registry query other) : other = ranking :=
  eq_of_filter_key List.le_antisymm otherRanking.inOrder isRanking.inOrder fun name =>
    (otherRanking.stable name).trans (isRanking.stable name).symm

/-- The functions of a ranking that match a longer query are the ranking for that query. -/
theorem filter_longer (isRanking : IsRanking registry query ranking) (more : Text) :
    IsRanking registry (query ++ more)
      (ranking.filter fun definition => (query ++ more).upper <+: definition.name.upper) := by
  have rest : (matching registry query).filter
      (fun definition => (query ++ more).upper <+: definition.name.upper) =
      matching registry (query ++ more) := by
    rw [matching, List.filter_filter]
    refine List.filter_congr fun definition _ => ?_
    rw [Bool.and_eq_left_iff_imp]
    simp only [decide_eq_true_eq, Text.upper_append]
    exact (List.prefix_append _ _).trans
  refine of_inOrder (rest ▸ isRanking.perm.filter _) (isRanking.inOrder.filter _) fun name => ?_
  rw [← rest, List.filter_comm, isRanking.stable name, List.filter_comm]

end IsRanking

/-! ## The order of suggestions -/

theorem ranksBefore_iff {left right : FunctionDefinition} : ranksBefore query left right ↔
    (right.name.upper = query → left.name.upper = query) ∧
      ((left.name.upper = query ↔ right.name.upper = query) →
        left.name.upper ≤ right.name.upper) := by
  unfold ranksBefore
  by_cases leftExact : left.name.upper = query <;> by_cases rightExact : right.name.upper = query <;>
    simp [leftExact, rightExact]

theorem ranksBefore_trans (first second third : FunctionDefinition)
    (earlier : ranksBefore query first second) (later : ranksBefore query second third) :
    ranksBefore query first third := by
  rw [ranksBefore_iff] at *
  refine ⟨fun exact => earlier.1 (later.1 exact), fun same => ?_⟩
  have sameEarlier : first.name.upper = query ↔ second.name.upper = query :=
    ⟨fun exact => later.1 (same.mp exact), earlier.1⟩
  exact List.le_trans (earlier.2 sameEarlier) (later.2 (sameEarlier.symm.trans same))

theorem ranksBefore_total (left right : FunctionDefinition) :
    ranksBefore query left right || ranksBefore query right left := by
  rw [Bool.or_eq_true, ranksBefore_iff, ranksBefore_iff]
  have either := List.le_total left.name.upper right.name.upper
  tauto

/-- All suggestions for a query. -/
def ranked (registry : List FunctionDefinition) (query : Text) : List FunctionDefinition :=
  (matching registry query).mergeSort (ranksBefore query.upper)

theorem suggestions_eq (registry : List FunctionDefinition) (query : Text) (limit : Nat) :
    suggestions registry query limit = (ranked registry query).take limit := by
  have same : matchesQuery query.upper = fun definition : FunctionDefinition =>
      decide (query.upper <+: definition.name.upper) := by
    funext definition
    rw [Bool.eq_iff_iff, decide_eq_true_eq]
    exact List.isPrefixOf_iff_prefix
  rw [suggestions, same, ranked, matching]

theorem isRanking_ranked (registry : List FunctionDefinition) (query : Text) :
    IsRanking registry query (ranked registry query) where
  perm := List.mergeSort_perm _ _
  exactFirst := (List.pairwise_mergeSort ranksBefore_trans ranksBefore_total _).imp fun before =>
    (ranksBefore_iff.mp before).1
  ordered := (List.pairwise_mergeSort ranksBefore_trans ranksBefore_total _).imp fun before =>
    (ranksBefore_iff.mp before).2
  stable name := by
    refine filter_mergeSort ranksBefore_trans ranksBefore_total (fun left right => ?_) _
    intro leftNamed rightNamed
    rw [decide_eq_true_eq] at leftNamed rightNamed
    rw [ranksBefore_iff, leftNamed, rightNamed]
    exact ⟨id, fun _ => List.le_refl name⟩

/-- The suggestions for a query are cut off from a ranking of the functions that match it. -/
structure SearchesRanking (registry : List FunctionDefinition) (query : Text)
    (ranking : List FunctionDefinition) : Prop where
  isRanking : ∀ other, IsRanking registry query other ↔ other = ranking
  first : ∀ limit, suggestions registry query limit = ranking.take limit
  length : ∀ limit, (suggestions registry query limit).length =
    min limit (matching registry query).length
  /-- Fewer suggestions are the first of more. -/
  fewer : ∀ limit larger, limit ≤ larger →
    suggestions registry query limit <+: suggestions registry query larger
  /-- The letter case of the query does not matter, for the letters that have one in ASCII. -/
  letterCase : ∀ other : Text, other.upper = query.upper → ∀ limit,
    suggestions registry other limit = suggestions registry query limit
  /-- If all matches are within the limit, a longer query takes away those that do not match it, and
  changes nothing else. -/
  longer : ∀ (more : Text) (limit : Nat), (matching registry query).length ≤ limit →
    suggestions registry (query ++ more) limit = (suggestions registry query limit).filter
      fun definition => (query ++ more).upper <+: definition.name.upper

/-- What is suggested is the stable ranking of the functions whose names begin with the query. -/
theorem suggestions_search_ranking (registry : List FunctionDefinition) (query : Text) :
    ∃ ranking, SearchesRanking registry query ranking := by
  have isRanking := isRanking_ranked registry query
  refine ⟨ranked registry query, ?_⟩
  exact {
    isRanking := fun other =>
      ⟨fun otherRanking => isRanking.eq otherRanking, fun same => same ▸ isRanking⟩
    first := suggestions_eq registry query
    length := fun limit => by
      rw [suggestions_eq, List.length_take, isRanking.perm.length_eq]
    fewer := fun limit larger le => by
      rw [suggestions_eq, suggestions_eq]
      exact List.take_prefix_take_left le
    letterCase := fun other same limit => by
      rw [suggestions, suggestions, same]
    longer := fun more limit fits => by
      have all : (ranked registry query).length ≤ limit := isRanking.perm.length_eq.trans_le fits
      have longer := isRanking.filter_longer more
      rw [suggestions_eq, suggestions_eq, List.take_of_length_le all,
        longer.eq (isRanking_ranked registry (query ++ more)),
        List.take_of_length_le ((List.length_filter_le _ _).trans all)] }

/-- Of four matches three are exact, one of them registered twice. -/
theorem exact_matches_search_ranking :
    SearchesRanking
      [⟨"SumIf".toList, none⟩, ⟨"sum".toList, none⟩, ⟨"ABS".toList, none⟩, ⟨"SUM".toList, some []⟩,
        ⟨"sum".toList, none⟩] "Sum".toList
      [⟨"sum".toList, none⟩, ⟨"SUM".toList, some []⟩, ⟨"sum".toList, none⟩,
        ⟨"SumIf".toList, none⟩] := by
  obtain ⟨ranking, searches⟩ := suggestions_search_ranking
    [⟨"SumIf".toList, none⟩, ⟨"sum".toList, none⟩, ⟨"ABS".toList, none⟩, ⟨"SUM".toList, some []⟩,
      ⟨"sum".toList, none⟩] "Sum".toList
  obtain rfl := (searches.isRanking
    [⟨"sum".toList, none⟩, ⟨"SUM".toList, some []⟩, ⟨"sum".toList, none⟩,
      ⟨"SumIf".toList, none⟩]).mp (by decide +kernel)
  exact searches

end SheetEditor.Draft
