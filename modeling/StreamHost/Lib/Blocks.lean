import Mathlib.Data.List.Basic

/-! Blocks of a list: a first item that starts the block, and a body of items
that start none. Joined blocks are read back in one way. -/

universe u

namespace Blocks
variable {α : Type u} (starts : α → Bool)

/-- What stands before the first block, and the blocks. -/
def split : List α → List α × List (α × List α)
  | [] => ([], [])
  | item :: rest =>
    let later := split rest
    if starts item then ([], (item, later.1) :: later.2) else (item :: later.1, later.2)

def join (blocks : List (α × List α)) : List α := blocks.flatMap fun block => block.1 :: block.2

structure Formed (block : α × List α) : Prop where
  first : starts block.1
  body : ∀ item ∈ block.2, ¬ starts item

variable {starts}

theorem split_start {item : α} (first : starts item) (rest : List α) :
    split starts (item :: rest) = ([], (item, (split starts rest).1) :: (split starts rest).2) :=
  if_pos first

theorem split_plain {item : α} (plain : ¬ starts item) (rest : List α) :
    split starts (item :: rest) = (item :: (split starts rest).1, (split starts rest).2) :=
  if_neg plain

theorem split_append {body : List α} (plain : ∀ item ∈ body, ¬ starts item) (rest : List α) :
    split starts (body ++ rest) = (body ++ (split starts rest).1, (split starts rest).2) := by
  induction body with
  | nil => rfl
  | cons item body ih =>
    have later := ih fun other member => plain other (List.mem_cons_of_mem _ member)
    rw [List.cons_append, split_plain (plain item List.mem_cons_self), later]
    rfl

theorem split_join {blocks : List (α × List α)} (formed : ∀ block ∈ blocks, Formed starts block) :
    split starts (join blocks) = ([], blocks) := by
  induction blocks with
  | nil => rfl
  | cons block blocks ih =>
    have this := formed block List.mem_cons_self
    have later := ih fun other member => formed other (List.mem_cons_of_mem _ member)
    have joined : join (block :: blocks) = block.1 :: (block.2 ++ join blocks) := rfl
    rw [joined, split_start this.first, split_append this.body, later, List.append_nil]

theorem join_inj {first second : List (α × List α)} (left : ∀ block ∈ first, Formed starts block)
    (right : ∀ block ∈ second, Formed starts block) : join first = join second ↔ first = second := by
  refine ⟨fun same => ?_, congrArg join⟩
  have read := split_join left
  rw [same, split_join right] at read
  exact (congrArg Prod.snd read).symm

/-- Two parts of different kinds are told apart when they are appended. -/
theorem append_inj_of_kind {kind : α → Bool} {first rest other otherRest : List α}
    (left : ∀ item ∈ first, kind item) (right : ∀ item ∈ rest, ¬ kind item)
    (otherLeft : ∀ item ∈ other, kind item) (otherRight : ∀ item ∈ otherRest, ¬ kind item) :
    first ++ rest = other ++ otherRest ↔ first = other ∧ rest = otherRest := by
  refine ⟨fun same => ?_, fun ⟨parts, rests⟩ => by rw [parts, rests]⟩
  have kept := congrArg (List.filter kind) same
  rw [List.filter_append, List.filter_append, List.filter_eq_self.mpr left, List.filter_eq_self.mpr otherLeft,
    List.filter_eq_nil_iff.mpr right, List.filter_eq_nil_iff.mpr otherRight, List.append_nil, List.append_nil] at kept
  subst kept
  exact ⟨rfl, List.append_cancel_left same⟩

end Blocks
