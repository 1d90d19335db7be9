import Transclusion.Proofs.Assembly.Segment

/-!
# Layouts

Which blocks a document has and what text stands between them, whatever pieces that text has been
cut into on the way. Nothing else about the segments of a document shows in what it is assembled to.

## Main results

`render_layout`: a document is assembled to what its layout is rendered to.
-/

namespace Transclusion

/-- A document as its blocks in order, each with the text before it, and the text after the last. -/
structure Layout where
  blocks : List (String × Segment)
  tail : String

namespace Layout

/-- Put text in front. -/
def extend (text : String) (l : Layout) : Layout :=
  match l.blocks with
  | [] => ⟨[], text ++ l.tail⟩
  | (gap, seg) :: blocks => ⟨(text ++ gap, seg) :: blocks, l.tail⟩

/-- Put a block in front. -/
def cons (seg : Segment) (l : Layout) : Layout := ⟨("", seg) :: l.blocks, l.tail⟩

/-- One document and then another. -/
def append (l more : Layout) : Layout :=
  ⟨l.blocks ++ (more.extend l.tail).blocks, (more.extend l.tail).tail⟩

theorem extend_empty (l : Layout) : l.extend "" = l := by
  obtain ⟨blocks, tail⟩ := l
  cases blocks <;> simp [extend]

theorem extend_extend (a b : String) (l : Layout) : (l.extend b).extend a = l.extend (a ++ b) := by
  obtain ⟨blocks, tail⟩ := l
  cases blocks <;> simp [extend, String.append_assoc]

theorem extend_append (text : String) (l more : Layout) :
    (l.append more).extend text = (l.extend text).append more := by
  obtain ⟨blocks, tail⟩ := l
  cases blocks with
  | nil =>
    change (more.extend tail).extend text = more.extend (text ++ tail)
    exact extend_extend text tail more
  | cons block blocks => rfl

theorem cons_append (seg : Segment) (l more : Layout) :
    (l.append more).cons seg = (l.cons seg).append more := rfl

end Layout

namespace Segment

/-- The layout of a document that is cut into segments. -/
def layout : List Segment → Layout
  | [] => ⟨[], ""⟩
  | kept text :: segs => (layout segs).extend text
  | seg :: segs => (layout segs).cons seg

theorem layout_append (xs ys : List Segment) :
    layout (xs ++ ys) = (layout xs).append (layout ys) := by
  induction xs with
  | nil => exact (Layout.extend_empty _).symm
  | cons seg xs ih =>
    cases seg with
    | kept text => rw [List.cons_append, layout, layout, ih, Layout.extend_append]
    | dropped => rw [List.cons_append, layout, layout, ih, Layout.cons_append] <;> nofun
    | replaced => rw [List.cons_append, layout, layout, ih, Layout.cons_append] <;> nofun

end Segment

namespace Layout

variable {σ : Type}

/-- The text that blocks come to, each with the text before it, and a text after the last. -/
def renderBlocks (expansion : Assembly.Expansion σ) (tail : String) :
    List (String × Segment) → Run σ String
  | [] => return tail
  | (gap, seg) :: blocks => do
    let here ← seg.run expansion
    return gap ++ (String.join here ++ (← renderBlocks expansion tail blocks))

def render (expansion : Assembly.Expansion σ) (l : Layout) : Run σ String :=
  renderBlocks expansion l.tail l.blocks

theorem render_extend (expansion : Assembly.Expansion σ) (text : String) (l : Layout) :
    (l.extend text).render expansion = (do return text ++ (← l.render expansion)) := by
  obtain ⟨blocks, tail⟩ := l
  cases blocks <;> simp [render, extend, renderBlocks, String.append_assoc]

theorem render_cons (expansion : Assembly.Expansion σ) (seg : Segment) (l : Layout) :
    (l.cons seg).render expansion = (do
      let here ← seg.run expansion
      return String.join here ++ (← l.render expansion)) := by
  simp [render, cons, renderBlocks]

/-- A document is assembled to what its layout is rendered to. -/
theorem render_layout (expansion : Assembly.Expansion σ) (segs : List Segment) :
    (Segment.layout segs).render expansion =
      (do return String.join (← Run.gather (Segment.run expansion) segs)) := by
  induction segs with
  | nil => rfl
  | cons seg segs ih =>
    have first : (do return String.join (← Run.gather (Segment.run expansion) (seg :: segs))) = (do
        let here ← seg.run expansion
        return String.join here ++ String.join (← Run.gather (Segment.run expansion) segs)) := by
      simp [Run.gather]
    rw [first]
    cases seg with
    | kept text =>
      rw [Segment.layout, render_extend, ih]
      simp [Segment.run]
    | dropped place matcher m =>
      change ((Segment.layout segs).cons _).render expansion = _
      rw [render_cons, ih]
      simp
    | replaced place matcher names m =>
      change ((Segment.layout segs).cons _).render expansion = _
      rw [render_cons, ih]
      simp

end Layout

end Transclusion
