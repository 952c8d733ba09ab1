import Declarations.Inference.Session

/-!
# The table of open questions

Whether a question is open, and where it stands, is read off a table that is kept beside the stack.
A question enters both when it is opened, and leaves both when it is settled.  So the table always
leads to the place of each open question, and knows no other one.
-/

namespace Declarations.FrameStack

variable {stack : FrameStack} {frame : Frame} {below group : List Frame}

/-- The table leads from each question on the stack to the place where it stands, and from nothing
else. -/
def Indexed (stack : FrameStack) : Prop :=
  ∀ frame place, stack.place? frame = some place ↔ stack.frames[place]? = some frame

@[simp]
theorem frames_push : (stack.push frame).frames = stack.frames ++ [frame] :=
  rfl

theorem above_of_append (hframes : stack.frames = below ++ group) :
    stack.above below.length = group := by
  rw [above, hframes]
  exact List.drop_left' rfl

theorem frames_cut_of_append (hframes : stack.frames = below ++ group) :
    (stack.cut below.length).frames = below := by
  rw [cut, hframes]
  exact List.take_left' rfl

theorem place?_push (other : Frame) : (stack.push frame).place? other =
    if other = frame then some stack.depth else stack.place? other := by
  rw [place?, push, List.lookup_cons]
  by_cases hother : other = frame
  · simp [hother]
  · have hskip : (other == frame) = false := by simpa using hother
    rw [hskip, if_neg hother]
    rfl

/-- What is taken out of a table is not found any more, and all else is found as before. -/
theorem lookup_filter (removed : List Frame) (places : List (Frame × Nat)) (frame : Frame) :
    (places.filter fun entry => entry.1 ∉ removed).lookup frame =
      if frame ∈ removed then none else places.lookup frame := by
  induction places with
  | nil => simp
  | cons entry rest ih =>
    obtain ⟨first, place⟩ := entry
    rw [List.lookup_cons]
    by_cases hremoved : first ∈ removed
    · rw [List.filter_cons_of_neg (by simpa using hremoved), ih]
      by_cases hsame : frame = first
      · rw [hsame, if_pos hremoved, if_pos hremoved]
      · have hskip : (frame == first) = false := by simpa using hsame
        rw [hskip]
    · rw [List.filter_cons_of_pos (by simpa using hremoved), List.lookup_cons, ih]
      by_cases hsame : frame = first
      · simp [hsame, hremoved]
      · have hskip : (frame == first) = false := by simpa using hsame
        rw [hskip]

theorem indexed_empty : Indexed {} := by
  intro frame place
  simp [place?]

namespace Indexed

variable (hindexed : stack.Indexed)
include hindexed

theorem place?_eq_none_iff : stack.place? frame = none ↔ frame ∉ stack.frames := by
  rw [Option.eq_none_iff_forall_ne_some, List.mem_iff_getElem?, not_exists]
  apply forall_congr'
  intro place
  exact not_congr (hindexed frame place)

/-- Without open questions the table is empty. -/
theorem eq_empty (hframes : stack.frames = []) : stack = {} := by
  obtain ⟨frames, places⟩ := stack
  obtain rfl : frames = [] := hframes
  cases places with
  | nil => rfl
  | cons entry rest =>
    have hfound : place? ⟨[], entry :: rest⟩ entry.1 = some entry.2 :=
      List.lookup_cons_self
    rw [hindexed] at hfound
    contradiction

/-- A question that was not open is found on top of the others. -/
theorem push (hnew : frame ∉ stack.frames) : (stack.push frame).Indexed := by
  intro other place
  rw [place?_push, frames_push]
  by_cases hother : other = frame
  · -- Below the top there is no other place for the new question.
    have hnone : stack.frames[place]? ≠ some frame := by
      intro hplace
      exact hnew (List.mem_of_getElem? hplace)
    rw [if_pos hother, hother, depth]
    grind
  · rw [if_neg hother, hindexed]
    grind

/-- What is left of the stack is found as before. -/
theorem cut (depth : Nat) : (stack.cut depth).Indexed := by
  intro frame place
  have hlookup : (stack.cut depth).place? frame =
      if frame ∈ stack.above depth then none else stack.place? frame :=
    lookup_filter (stack.above depth) stack.places frame
  have hframes : (stack.cut depth).frames[place]? = some frame ↔
      place < depth ∧ stack.frames[place]? = some frame := by
    rw [FrameStack.cut, List.getElem?_take]
    by_cases hbelow : place < depth <;> simp [hbelow]
  rw [hlookup, hframes]
  by_cases habove : frame ∈ stack.above depth
  · -- The question stands at one place only, and that is among those that are left out.
    obtain ⟨offset, hoffset⟩ := List.mem_iff_getElem?.mp habove
    rw [above, List.getElem?_drop, ← hindexed] at hoffset
    rw [if_pos habove]
    constructor
    · intro hfound
      contradiction
    · rintro ⟨hbelow, hplace⟩
      rw [← hindexed, hoffset, Option.some.injEq] at hplace
      omega
  · rw [if_neg habove, hindexed]
    constructor
    · intro hplace
      have hbelow : place < depth := by
        apply Nat.lt_of_not_le
        intro hle
        apply habove
        apply List.mem_iff_getElem?.mpr
        refine ⟨place - depth, ?_⟩
        rw [above, List.getElem?_drop, Nat.add_sub_of_le hle, hplace]
      exact ⟨hbelow, hplace⟩
    · exact And.right

end Indexed

end Declarations.FrameStack
