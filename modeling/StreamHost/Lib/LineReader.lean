import Mathlib.Data.List.Basic

/-! An incremental reader of terminated lines. Symbols arrive one at a time or in
chunks of any size; a line is handled when its terminator arrives. -/

universe u v

/-- The state behind the handled lines, and the symbols of the line under way. -/
structure LineReader (α : Type u) (σ : Type v) where
  pending : List α
  state : σ

namespace LineReader
variable {α : Type u} {σ : Type v} [DecidableEq α] (terminator : α) (handle : σ → List α → σ)

def push (reader : LineReader α σ) (symbol : α) : LineReader α σ :=
  if symbol = terminator then ⟨[], handle reader.state reader.pending⟩
  else { reader with pending := reader.pending ++ [symbol] }

def feed (reader : LineReader α σ) (symbols : List α) : LineReader α σ := symbols.foldl (push terminator handle) reader

variable (reader : LineReader α σ)

theorem feed_append (first last : List α) :
    feed terminator handle reader (first ++ last) = feed terminator handle (feed terminator handle reader first) last :=
  List.foldl_append

/-- Where the stream is cut into chunks makes no difference. -/
theorem feed_flatten (chunks : List (List α)) :
    chunks.foldl (feed terminator handle) reader = feed terminator handle reader chunks.flatten := by
  induction chunks generalizing reader with
  | nil => rfl
  | cons chunk rest ih => rw [List.foldl_cons, ih, List.flatten_cons, feed_append]

/-- Symbols without a terminator are kept for later. -/
theorem feed_open {line : List α} (unfinished : terminator ∉ line) :
    feed terminator handle reader line = ⟨reader.pending ++ line, reader.state⟩ := by
  induction line generalizing reader with
  | nil => exact congrArg (LineReader.mk · reader.state) (List.append_nil _).symm
  | cons symbol rest ih =>
    obtain ⟨apart, later⟩ := not_or.mp (mt List.mem_cons.mpr unfinished)
    have kept : push terminator handle reader symbol = ⟨reader.pending ++ [symbol], reader.state⟩ :=
      if_neg (Ne.symm apart)
    have step : feed terminator handle reader (symbol :: rest) =
        feed terminator handle (push terminator handle reader symbol) rest := rfl
    rw [step, kept, ih _ later, List.append_assoc]
    rfl

theorem feed_line {line : List α} (whole : terminator ∉ line) :
    feed terminator handle reader (line ++ [terminator]) = ⟨[], handle reader.state (reader.pending ++ line)⟩ := by
  rw [feed_append, feed_open terminator handle reader whole]
  exact if_pos rfl

/-- A stream of terminated lines is handled line by line. -/
theorem feed_lines {lines : List (List α)} (whole : ∀ line ∈ lines, terminator ∉ line) (state : σ) :
    feed terminator handle ⟨[], state⟩ (lines.flatMap (· ++ [terminator])) = ⟨[], lines.foldl handle state⟩ := by
  induction lines generalizing state with
  | nil => rfl
  | cons line rest ih =>
    obtain ⟨here, later⟩ := List.forall_mem_cons.mp whole
    rw [List.flatMap_cons, feed_append, feed_line terminator handle _ here]
    exact ih later _

/-- A cut anywhere in a stream of terminated lines: the lines before the cut are
handled, and what is pending begins the next line. -/
theorem feed_cut {lines : List (List α)} (whole : ∀ line ∈ lines, terminator ∉ line) (state : σ)
    {early late : List α} (cut : lines.flatMap (· ++ [terminator]) = early ++ late) :
    (feed terminator handle ⟨[], state⟩ early).state = (lines.take (early.count terminator)).foldl handle state := by
  induction lines generalizing state early with
  | nil =>
    obtain ⟨rfl, _⟩ := List.append_eq_nil_iff.mp cut.symm
    rfl
  | cons line rest ih =>
    obtain ⟨here, later⟩ := List.forall_mem_cons.mp whole
    rw [List.flatMap_cons] at cut
    obtain ⟨next, rfl, remaining⟩ | ⟨passed, same, _⟩ := List.append_eq_append_iff.mp cut
    · -- the first line is complete before the cut
      have counted : (line ++ [terminator] ++ next).count terminator = next.count terminator + 1 := by
        rw [List.count_append, List.count_append, List.count_eq_zero_of_not_mem here, List.count_singleton_self]
        omega
      rw [feed_append, feed_line terminator handle _ here, counted, List.take_succ_cons]
      exact ih later _ remaining
    · -- the cut falls into the first line, or right behind its terminator
      obtain rfl | ⟨front, last, rfl⟩ := passed.eq_nil_or_concat'
      · rw [List.append_nil] at same
        have counted : early.count terminator = 1 := by
          rw [← same, List.count_append, List.count_eq_zero_of_not_mem here, List.count_singleton_self]
        rw [counted, ← same, feed_line terminator handle _ here]
        rfl
      · rw [← List.append_assoc] at same
        obtain ⟨inside, _⟩ := List.append_inj' same rfl
        have unfinished : terminator ∉ early := by
          intro member
          apply here
          rw [inside]
          exact List.mem_append_left _ member
        rw [feed_open terminator handle _ unfinished, List.count_eq_zero_of_not_mem unfinished]
        rfl

end LineReader
