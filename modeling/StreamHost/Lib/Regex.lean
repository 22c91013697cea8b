import Mathlib.Data.List.Basic

/-! Regular expressions as text: literals, alternatives in groups, anchors of the whole
text and the empty negative lookahead, read in two passes and matched anywhere in a
text. Any other use of a metacharacter is outside the fragment and does not read. -/

inductive Regex where
  | empty
  | never
  | char (c : Char)
  | start
  | stop
  | seq (first second : Regex)
  | alt (first second : Regex)
deriving DecidableEq, Repr

namespace Regex

/-- The expression matches `text` where it stands between `before` and `after`. -/
def Matches : Regex → List Char → List Char → List Char → Prop
  | empty, _, text, _ => text = []
  | never, _, _, _ => False
  | char c, _, text, _ => text = [c]
  | start, before, text, _ => before = [] ∧ text = []
  | stop, _, text, after => text = [] ∧ after = []
  | seq first second, before, text, after =>
    ∃ left right, text = left ++ right ∧ first.Matches before left (right ++ after) ∧
      second.Matches (before ++ left) right after
  | alt first second, before, text, after => first.Matches before text after ∨ second.Matches before text after

/-- The expression matches some part of the text. -/
def Finds (regex : Regex) (text : List Char) : Prop :=
  ∃ before part after, text = before ++ part ++ after ∧ regex.Matches before part after

def word (text : List Char) : Regex := text.foldr (fun c rest => seq (char c) rest) empty

theorem matches_word (text : List Char) (before part after : List Char) :
    (word text).Matches before part after ↔ part = text := by
  induction text generalizing before part with
  | nil => exact .rfl
  | cons c rest ih =>
    change (∃ left right, part = left ++ right ∧ left = [c] ∧ (word rest).Matches (before ++ left) right after) ↔ _
    constructor
    · rintro ⟨left, right, rfl, rfl, read⟩
      rw [(ih _ _).mp read]
      rfl
    · rintro rfl
      exact ⟨[c], rest, rfl, rfl, (ih _ _).mpr rfl⟩

inductive Token where
  | literal (c : Char)
  | never
  | opening
  | closing
  | bar
  | start
  | stop
deriving DecidableEq, Repr

def metacharacters : List Char := ['\\', '.', '+', '*', '?', '^', '$', '(', ')', '[', ']', '{', '}', '|']

/-- What a character that is no backslash and opens no group stands for. -/
def symbol (c : Char) : Option Token :=
  if c = ')' then some .closing
  else if c = '|' then some .bar
  else if c = '^' then some .start
  else if c = '$' then some .stop
  else if c ∈ metacharacters then none
  else some (.literal c)

def lex : List Char → Option (List Token)
  | [] => some []
  | c :: rest =>
    if c = '\\' then
      match rest with
      | [] => none
      | escaped :: rest => if escaped ∈ metacharacters then (lex rest).map (.literal escaped :: ·) else none
    else if c = '(' then
      match rest with
      | '?' :: ':' :: rest => (lex rest).map (.opening :: ·)
      | '?' :: '!' :: ')' :: rest => (lex rest).map (.never :: ·)
      | _ => none
    else
      match symbol c with
      | some token => (lex rest).map (token :: ·)
      | none => none

/-- A group under construction: the alternatives already closed by a bar, the last first,
and the items of the current one, the last first. -/
structure Group where
  alternatives : List Regex
  items : List Regex

namespace Group

def new : Group := ⟨[], []⟩

def push (item : Regex) (group : Group) : Group := { group with items := item :: group.items }

def current (group : Group) : Regex := group.items.foldl (fun rest item => seq item rest) empty

def bar (group : Group) : Group := ⟨group.current :: group.alternatives, []⟩

def close (group : Group) : Regex := group.alternatives.foldl (fun later earlier => alt earlier later) group.current

end Group

/-- Reads into the innermost group, over the groups around it. -/
def build : List Token → Group → List Group → Option Regex
  | [], group, [] => some group.close
  | [], _, _ :: _ => none
  | .literal c :: rest, group, outer => build rest (group.push (char c)) outer
  | .never :: rest, group, outer => build rest (group.push never) outer
  | .start :: rest, group, outer => build rest (group.push start) outer
  | .stop :: rest, group, outer => build rest (group.push stop) outer
  | .bar :: rest, group, outer => build rest group.bar outer
  | .opening :: rest, group, outer => build rest .new (group :: outer)
  | .closing :: _, _, [] => none
  | .closing :: rest, group, parent :: outer => build rest (parent.push group.close) outer

def parse (text : List Char) : Option Regex := (lex text).bind fun tokens => build tokens .new []

section Quote

def escape (c : Char) : List Char := if c ∈ metacharacters then ['\\', c] else [c]

/-- The text with every metacharacter escaped. -/
def quote (text : List Char) : List Char := text.flatMap escape

theorem lex_plain {c : Char} (plain : c ∉ metacharacters) (rest : List Char) :
    lex (c :: rest) = (lex rest).map (.literal c :: ·) := by
  have letter : symbol c = some (.literal c) := by
    unfold symbol
    repeat rw [if_neg (fun same => plain (by rw [same]; decide))]
    exact if_neg plain
  have noEscape : c ≠ '\\' := fun same => plain (by rw [same]; decide)
  have noGroup : c ≠ '(' := fun same => plain (by rw [same]; decide)
  rw [lex.eq_def]
  simp only [if_neg noEscape, if_neg noGroup, letter]

theorem lex_escaped {c : Char} (special : c ∈ metacharacters) (rest : List Char) :
    lex ('\\' :: c :: rest) = (lex rest).map (.literal c :: ·) := by
  rw [lex.eq_def]
  simp only [if_true, if_pos special]

/-- A quoted text reads as its own characters, whatever follows. -/
theorem lex_quote (text rest : List Char) : lex (quote text ++ rest) = (lex rest).map (text.map .literal ++ ·) := by
  induction text with
  | nil => exact Option.map_id'.symm
  | cons c text ih =>
    have shape : quote (c :: text) ++ rest = escape c ++ (quote text ++ rest) := by
      unfold quote
      rw [List.flatMap_cons, List.append_assoc]
    rw [shape, escape]
    split
    · rename_i special
      change lex ('\\' :: c :: (quote text ++ rest)) = _
      rw [lex_escaped special, ih, Option.map_map]
      rfl
    · rename_i plain
      change lex (c :: (quote text ++ rest)) = _
      rw [lex_plain plain, ih, Option.map_map]
      rfl

end Quote

section Build

theorem current_word (text : List Char) : Group.current ⟨alternatives, (text.map char).reverse⟩ = word text := by
  change (text.map char).reverse.foldl (fun rest item => seq item rest) empty = word text
  rw [List.foldl_reverse, List.foldr_map]
  rfl

theorem matches_close (group : Group) (before part after : List Char) : group.close.Matches before part after ↔
    group.current.Matches before part after ∨ ∃ earlier ∈ group.alternatives, earlier.Matches before part after := by
  unfold Group.close
  generalize group.current = later
  induction group.alternatives generalizing later with
  | nil => simp
  | cons earlier others ih =>
    rw [List.foldl_cons, ih, List.exists_mem_cons_iff]
    change (earlier.Matches before part after ∨ later.Matches before part after) ∨ _ ↔ _
    rw [or_comm (a := earlier.Matches _ _ _), or_assoc]

/-- The group after a bar and the characters of one more word. -/
def Group.barWord (group : Group) (text : List Char) : Group :=
  { group.bar with items := (text.map char).reverse }

theorem build_word (text : List Char) (rest : List Token) (group : Group) (outer : List Group) :
    build (text.map .literal ++ rest) group outer =
      build rest { group with items := (text.map char).reverse ++ group.items } outer := by
  induction text generalizing group with
  | nil => rfl
  | cons c text ih =>
    change build (text.map .literal ++ rest) (group.push (char c)) outer = _
    rw [ih, List.map_cons, List.reverse_cons, List.append_assoc]
    rfl

theorem build_bars (words : List (List Char)) (rest : List Token) (group : Group) (outer : List Group) :
    build (words.flatMap (fun text => .bar :: text.map .literal) ++ rest) group outer =
      build rest (words.foldl Group.barWord group) outer := by
  induction words generalizing group with
  | nil => rfl
  | cons text words ih =>
    rw [List.flatMap_cons, List.append_assoc]
    change build (text.map .literal ++ _) group.bar outer = _
    rw [build_word, List.foldl_cons]
    have word : ({ group.bar with items := (text.map char).reverse ++ group.bar.items } : Group) = group.barWord text := by
      rw [Group.bar, List.append_nil]
      rfl
    rw [word, ih]

theorem matches_barWords (words : List (List Char)) (group : Group) (before part after : List Char) :
    (words.foldl Group.barWord group).close.Matches before part after ↔
      group.close.Matches before part after ∨ part ∈ words := by
  induction words generalizing group with
  | nil => simp
  | cons text words ih =>
    have last : (group.barWord text).current = word text := current_word text
    have step : (group.barWord text).close.Matches before part after ↔
        part = text ∨ group.close.Matches before part after := by
      rw [matches_close, matches_close group, last, matches_word]
      apply or_congr_right
      exact List.exists_mem_cons_iff ..
    rw [List.foldl_cons, ih, step, List.mem_cons, or_comm (a := part = text), or_assoc]

end Build

section Alternatives

/-- The words between bars, as one anchored group. -/
def alternatives (words : List (List Char)) : List Char :=
  ['^', '(', '?', ':'] ++ ['|'].intercalate (words.map quote) ++ [')', '$']

theorem intercalate_bars (first : List Char) (words : List (List Char)) :
    ['|'].intercalate ((first :: words).map quote) = quote first ++ words.flatMap fun text => '|' :: quote text := by
  induction words generalizing first with
  | nil => rw [List.map_singleton, List.intercalate_singleton, List.flatMap_nil, List.append_nil]
  | cons second words ih =>
    have rest := ih second
    rw [List.map_cons] at rest
    rw [List.map_cons, List.map_cons, List.intercalate_cons_cons, rest, List.flatMap_cons, List.append_assoc]
    rfl

theorem lex_bar (rest : List Char) : lex ('|' :: rest) = (lex rest).map (.bar :: ·) := by
  rw [lex.eq_def]
  rfl

theorem lex_bars (words : List (List Char)) (rest : List Char) :
    lex (words.flatMap (fun text => '|' :: quote text) ++ rest) =
      (lex rest).map (words.flatMap (fun text => .bar :: text.map .literal) ++ ·) := by
  induction words with
  | nil => exact Option.map_id'.symm
  | cons text words ih =>
    rw [List.flatMap_cons, List.append_assoc, List.cons_append, lex_bar, lex_quote, ih, Option.map_map, Option.map_map]
    congr 1
    funext tokens
    rw [List.flatMap_cons, List.append_assoc]
    rfl

theorem lex_alternatives (first : List Char) (words : List (List Char)) :
    lex (alternatives (first :: words)) = some (.start :: .opening :: (first.map .literal ++
      (words.flatMap (fun text => .bar :: text.map .literal) ++ [.closing, .stop]))) := by
  have shape : alternatives (first :: words) = '^' :: '(' :: '?' :: ':' ::
      (quote first ++ (words.flatMap (fun text => '|' :: quote text) ++ [')', '$'])) := by
    unfold alternatives
    rw [intercalate_bars, List.append_assoc, List.append_assoc]
    rfl
  rw [shape]
  change ((lex (quote first ++ _)).map (.opening :: ·)).map (.start :: ·) = _
  rw [lex_quote, lex_bars]
  rfl

/-- The anchored group reads, and finds exactly its words. -/
theorem parse_alternatives {words : List (List Char)} (some_word : words ≠ []) :
    ∃ regex, parse (alternatives words) = some regex ∧ ∀ text, regex.Finds text ↔ text ∈ words := by
  obtain ⟨first, rest, rfl⟩ := List.exists_cons_of_ne_nil some_word
  let group := rest.foldl Group.barWord ⟨[], (first.map char).reverse⟩
  have accepted : ∀ before part after, group.close.Matches before part after ↔ part ∈ first :: rest := by
    intro before part after
    have single : Group.close ⟨[], (first.map char).reverse⟩ = word first := current_word first
    rw [matches_barWords, single, matches_word, List.mem_cons]
  refine ⟨seq start (seq group.close (seq stop empty)), ?_, ?_⟩
  · unfold parse
    rw [lex_alternatives, Option.bind_some]
    change build (first.map .literal ++ _) .new [⟨[], [start]⟩] = _
    rw [build_word, build_bars]
    change build [.closing, .stop] (rest.foldl Group.barWord ⟨[], (first.map char).reverse ++ []⟩) _ = _
    rw [List.append_nil]
    rfl
  · intro text
    constructor
    · rintro ⟨before, _, after, rfl, _, _, rfl, ⟨rfl, rfl⟩, part, _, rfl, read, _, _, rfl, ⟨rfl, ended⟩, rfl⟩
      have stopped : after = [] := ended
      rw [stopped]
      simpa using (accepted _ _ _).mp read
    · intro member
      exact ⟨[], text, [], by simp, [], text, rfl, ⟨rfl, rfl⟩, text, [], by simp, (accepted _ _ _).mpr member,
        [], [], rfl, ⟨rfl, rfl⟩, rfl⟩

theorem parse_never : ∃ regex, parse ['(', '?', '!', ')'] = some regex ∧ ∀ text, ¬ regex.Finds text := by
  refine ⟨seq never empty, rfl, ?_⟩
  rintro text ⟨before, part, after, _, left, right, _, impossible, _⟩
  exact impossible

end Alternatives

end Regex
