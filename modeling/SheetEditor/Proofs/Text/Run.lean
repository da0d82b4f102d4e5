import Mathlib.Data.List.Infix
import Mathlib.Data.List.TakeWhile
import SheetEditor.Text.Quoted

/-!
Contract: what a scanner finds at the start of a text, when more text follows.

Owns: texts that do not go on with characters of a class, runs of a class in front
of them, and quoted text in front of them.
-/

namespace SheetEditor.Text

variable {continues : Char → Bool} {text rest : Text} {quote : Char}

/-- A text that does not begin with a character of a class. -/
def Stops (continues : Char → Bool) (rest : Text) : Prop :=
  ∀ next ∈ rest.head?, continues next = false

@[simp] theorem stops_nil : Stops continues [] := by
  intro next isHead
  cases isHead

@[simp] theorem stops_cons {next : Char} : Stops continues (next :: rest) ↔ continues next = false := by
  simp [Stops]

theorem Stops.mono {stronger weaker : Char → Bool} (stops : Stops stronger rest)
    (implied : ∀ next, weaker next = true → stronger next = true) : Stops weaker rest := by
  intro next isHead
  have outside := stops next isHead
  cases inside : weaker next with
  | false => rfl
  | true => rw [implied next inside] at outside; cases outside

/-- A text that stops, or one that goes on because something stands in front of it. -/
theorem stops_append {first : Text} (stopsFirst : Stops continues first)
    (stopsRest : first = [] → Stops continues rest) : Stops continues (first ++ rest) := by
  cases first with
  | nil => exact stopsRest rfl
  | cons next others => simpa using stopsFirst

/-! ## Runs -/

/-- A run is not continued by what stops it. -/
theorem takeWhile_append (stops : Stops continues rest) :
    (text ++ rest).takeWhile continues = text.takeWhile continues := by
  induction text with
  | nil =>
      cases rest with
      | nil => rfl
      | cons next others => simp [stops_cons.mp stops]
  | cons first text inductionHypothesis =>
      simp only [List.cons_append, List.takeWhile_cons, inductionHypothesis]

theorem dropWhile_append (stops : Stops continues rest) :
    (text ++ rest).dropWhile continues = text.dropWhile continues ++ rest := by
  induction text with
  | nil =>
      cases rest with
      | nil => rfl
      | cons next others => simp [stops_cons.mp stops]
  | cons first text inductionHypothesis =>
      simp only [List.cons_append, List.dropWhile_cons, inductionHypothesis]
      split <;> rfl

/-- A run of a class is read whole. -/
theorem takeWhile_run (inside : ∀ character ∈ text, continues character = true)
    (stops : Stops continues rest) : (text ++ rest).takeWhile continues = text := by
  rw [takeWhile_append stops]
  exact List.takeWhile_eq_self_iff.mpr inside

theorem takeWhile_take (text : Text) (limit : Nat) :
    (text.take limit).takeWhile continues = (text.takeWhile continues).take limit := by
  induction text generalizing limit with
  | nil => simp
  | cons first text inductionHypothesis =>
      cases limit with
      | zero => simp
      | succ limit =>
          simp only [List.take_succ_cons, List.takeWhile_cons]
          split
          · rw [inductionHypothesis, List.take_succ_cons]
          · rfl

theorem length_takeWhile_le (continues : Char → Bool) (text : Text) :
    (text.takeWhile continues).length ≤ text.length :=
  (List.takeWhile_prefix continues).length_le

theorem dropWhile_eq_drop (text : Text) :
    text.dropWhile continues = text.drop (text.takeWhile continues).length :=
  List.append_cancel_left <| List.takeWhile_append_dropWhile.trans <|
    List.prefix_append_drop (List.takeWhile_prefix continues)

/-- What follows a run stops it. -/
theorem stops_drop_takeWhile (text : Text) :
    Stops continues (text.drop (text.takeWhile continues).length) := by
  induction text with
  | nil => simp
  | cons first text inductionHypothesis =>
      rw [List.takeWhile_cons]
      split
      · simpa using inductionHypothesis
      · next outside => simpa using outside

/-- The first character outside a class, if not all characters are in it. -/
theorem exists_first_outside (notAll : ¬∀ character ∈ text, continues character = true) :
    ∃ run next others, text = run ++ next :: others ∧
      (∀ character ∈ run, continues character = true) ∧ continues next = false := by
  have whole := List.prefix_append_drop (List.takeWhile_prefix (l := text) continues)
  have stops : Stops continues _ := stops_drop_takeWhile text
  cases dropped : text.drop (text.takeWhile continues).length with
  | nil =>
      rw [dropped, List.append_nil] at whole
      exact absurd (List.takeWhile_eq_self_iff.mp whole.symm) notAll
  | cons next others =>
      rw [dropped] at whole stops
      exact ⟨_, next, others, whole, fun character => List.mem_takeWhile_imp, Text.stops_cons.mp stops⟩

/-! ## Quoted text -/

theorem doubleQuotes_append (first second : Text) :
    doubleQuotes quote (first ++ second) = doubleQuotes quote first ++ doubleQuotes quote second := by
  induction first with
  | nil => rfl
  | cons character first inductionHypothesis =>
      simp only [List.cons_append, doubleQuotes, inductionHypothesis]
      split <;> rfl

theorem doubleQuotes_eq_self (absent : quote ∉ text) : doubleQuotes quote text = text := by
  induction text with
  | nil => rfl
  | cons character text inductionHypothesis =>
      have different : character ≠ quote := fun same => absent (same ▸ List.mem_cons_self)
      rw [doubleQuotes, if_neg different,
        inductionHypothesis fun member => absent (List.mem_cons_of_mem _ member)]

theorem length_doubleQuotes_le (quote : Char) (text : Text) :
    (doubleQuotes quote text).length ≤ 2 * text.length := by
  induction text with
  | nil => exact Nat.le_refl 0
  | cons character text inductionHypothesis =>
      rw [doubleQuotes]
      split <;> simp only [List.length_cons] <;> omega

theorem readQuoted?_of_ne {first : Char} (different : first ≠ quote) (text : Text) :
    readQuoted? quote (first :: text) =
      (readQuoted? quote text).map fun (content, count) => (first :: content, count + 1) := by
  cases text with
  | nil => simp [readQuoted?, different]
  | cons next others => rw [readQuoted?, if_neg different]

theorem readQuoted?_pair (text : Text) :
    readQuoted? quote (quote :: quote :: text) =
      (readQuoted? quote text).map fun (content, count) => (quote :: content, count + 2) := by
  rw [readQuoted?, if_pos rfl]
  exact if_pos rfl

theorem readQuoted?_of_stops (stops : Stops (· = quote) rest) :
    readQuoted? quote (quote :: rest) = some ([], 1) := by
  cases rest with
  | nil => simp [readQuoted?]
  | cons next others =>
      have different : next ≠ quote := by simpa using stops
      simp [readQuoted?, different]

/-- Every text after an opening quote is a content with its quotes written twice, and then comes its
end or a quote that closes it. -/
theorem quoted_cases (quote : Char) (text : Text) :
    (∃ content, text = doubleQuotes quote content) ∨
      ∃ content rest, text = doubleQuotes quote content ++ quote :: rest ∧
        Stops (· = quote) rest := by
  induction text using readQuoted?.induct quote with
  | case1 => exact .inl ⟨[], rfl⟩
  | case2 afterNext inductionHypothesis =>
      rcases inductionHypothesis with ⟨content, rfl⟩ | ⟨content, rest, rfl, stops⟩
      · exact .inl ⟨quote :: content, by rw [doubleQuotes, if_pos rfl]⟩
      · exact .inr ⟨quote :: content, rest, by rw [doubleQuotes, if_pos rfl]; rfl, stops⟩
  | case3 next afterNext different =>
      exact .inr ⟨[], next :: afterNext, rfl, by simpa using different⟩
  | case4 => exact .inr ⟨[], [], rfl, stops_nil⟩
  | case5 character rest different inductionHypothesis =>
      rcases inductionHypothesis with ⟨content, rfl⟩ | ⟨content, rest, rfl, stops⟩
      · exact .inl ⟨character :: content, by rw [doubleQuotes, if_neg different]⟩
      · exact .inr ⟨character :: content, rest, by rw [doubleQuotes, if_neg different]; rfl, stops⟩

/-- A quote closes the content before it unless another one follows. -/
theorem readQuoted?_closed (content : Text) (stops : Stops (· = quote) rest) :
    readQuoted? quote (doubleQuotes quote content ++ quote :: rest) =
      some (content, (doubleQuotes quote content).length + 1) := by
  induction content with
  | nil => exact readQuoted?_of_stops stops
  | cons character content inductionHypothesis =>
      by_cases same : character = quote
      · subst same
        simp only [doubleQuotes, if_true, List.cons_append]
        rw [readQuoted?_pair, inductionHypothesis]
        rfl
      · simp only [doubleQuotes, if_neg same, List.cons_append]
        rw [readQuoted?_of_ne same, inductionHypothesis]
        rfl

theorem readQuoted?_open (content : Text) :
    readQuoted? quote (doubleQuotes quote content) = none := by
  induction content with
  | nil => rfl
  | cons character content inductionHypothesis =>
      by_cases same : character = quote
      · subst same
        rw [doubleQuotes, if_pos rfl, readQuoted?_pair, inductionHypothesis]
        rfl
      · rw [doubleQuotes, if_neg same, readQuoted?_of_ne same, inductionHypothesis]
        rfl

/-- Content before a text is content before what is quoted in it. -/
theorem readQuoted?_doubleQuotes_append (quote : Char) (content rest : Text) :
    readQuoted? quote (doubleQuotes quote content ++ rest) =
      (readQuoted? quote rest).map fun (later, count) =>
        (content ++ later, (doubleQuotes quote content).length + count) := by
  rcases quoted_cases quote rest with ⟨later, rfl⟩ | ⟨later, after, rfl, stops⟩
  · rw [← doubleQuotes_append, readQuoted?_open, readQuoted?_open]
    rfl
  · rw [← List.append_assoc, ← doubleQuotes_append, readQuoted?_closed _ stops,
      readQuoted?_closed _ stops, doubleQuotes_append, List.length_append]
    simp [Nat.add_assoc]

/-- Reading finds the content whose written form stands before the first closing quote. -/
theorem readQuoted?_eq_some_iff {content : Text} {count : Nat} :
    readQuoted? quote text = some (content, count) ↔
      count = (doubleQuotes quote content).length + 1 ∧
        ∃ rest, text = doubleQuotes quote content ++ quote :: rest ∧ Stops (· = quote) rest := by
  constructor
  · intro read
    rcases quoted_cases quote text with ⟨other, rfl⟩ | ⟨other, rest, rfl, stops⟩
    · rw [readQuoted?_open] at read
      cases read
    · rw [readQuoted?_closed other stops] at read
      cases read
      exact ⟨rfl, rest, rfl, stops⟩
  · rintro ⟨rfl, rest, rfl, stops⟩
    exact readQuoted?_closed content stops

theorem readQuoted?_eq_none_iff :
    readQuoted? quote text = none ↔ ∃ content, text = doubleQuotes quote content := by
  constructor
  · intro read
    rcases quoted_cases quote text with isOpen | ⟨content, rest, rfl, stops⟩
    · exact isOpen
    · rw [readQuoted?_closed content stops] at read
      cases read
  · rintro ⟨content, rfl⟩
    exact readQuoted?_open content

/-- Closed quoted text stays closed where it is, unless a further quote follows at once. -/
theorem readQuoted?_append {content : Text} {count : Nat}
    (read : readQuoted? quote text = some (content, count)) (stops : Stops (· = quote) rest) :
    readQuoted? quote (text ++ rest) = some (content, count) := by
  obtain ⟨rfl, after, rfl, stopsAfter⟩ := readQuoted?_eq_some_iff.mp read
  rw [List.append_assoc, List.cons_append]
  exact readQuoted?_closed content (stops_append stopsAfter fun _ => stops)

/-- Closed quoted text is read the same in front of any other text without a further quote. -/
theorem readQuoted?_take {content : Text} {count : Nat}
    (read : readQuoted? quote text = some (content, count)) (stops : Stops (· = quote) rest) :
    readQuoted? quote (text.take count ++ rest) = some (content, count) := by
  obtain ⟨rfl, after, rfl, _⟩ := readQuoted?_eq_some_iff.mp read
  rw [List.take_length_add_append, List.take_succ_cons, List.take_zero, List.append_assoc]
  exact readQuoted?_closed content stops

/-- Open quoted text stays open, if no quote follows. -/
theorem readQuoted?_append_eq_none (read : readQuoted? quote text = none) (absent : quote ∉ rest) :
    readQuoted? quote (text ++ rest) = none := by
  obtain ⟨content, rfl⟩ := readQuoted?_eq_none_iff.mp read
  rw [readQuoted?_eq_none_iff]
  exact ⟨content ++ rest, by rw [doubleQuotes_append, doubleQuotes_eq_self absent]⟩

theorem readQuoted?_length_le {content : Text} {count : Nat}
    (read : readQuoted? quote text = some (content, count)) : count ≤ text.length := by
  obtain ⟨rfl, rest, rfl, _⟩ := readQuoted?_eq_some_iff.mp read
  simp

end SheetEditor.Text
