import Transclusion.Url.Basic

/-!
# Walking paths

A reference may go up again by as many segments as it has gone down before without leaving the
directory that it is resolved in. Then the segments of the directory have no part in the walk, and
the path of the result starts with them.

## Main results

`walk_append`: a walk that never climbs above its start does not touch what lies above.
`render_append`: a path into a directory is written after the path of the directory.
`walk_plain`, `render_rooted`: a path of plain pieces is written as these pieces between slashes.
-/

namespace Transclusion.Url

theorem pieces_ne_nil (special : Bool) (cs : List Char) : pieces special cs ≠ [] := by
  cases cs with
  | nil => exact List.cons_ne_nil _ _
  | cons c cs =>
    unfold pieces
    split
    · exact List.cons_ne_nil _ _
    · split <;> exact List.cons_ne_nil _ _

theorem pieces_eq_splitChars (special : Bool) {cs : List Char} (plain : '\\' ∉ cs) :
    pieces special cs = Text.splitChars '/' cs := by
  induction cs with
  | nil => rfl
  | cons c cs ih =>
    rw [List.mem_cons, not_or] at plain
    have slash : isSlash special c = true ↔ c = '/' := by simp [isSlash, Ne.symm plain.1]
    simp only [pieces, Text.splitChars, ih plain.2]
    cases Text.splitChars '/' cs <;> simp only [slash]

theorem shorten_eq_dropLast (segments : List String) :
    shorten false segments = segments.dropLast := by
  unfold shorten
  split <;> simp

/-! ### The steps of a walk -/

section

variable {p : List Char} (segments : List String) (ps : List (List Char))

theorem walk_up (up : isDoubleDot p = true) :
    walk false segments (p :: ps) =
      walk false (if ps.isEmpty then segments.dropLast ++ [""] else segments.dropLast) ps := by
  rw [walk, if_pos up, shorten_eq_dropLast]

theorem walk_stay (up : isDoubleDot p = false) (stay : isSingleDot p = true) :
    walk false segments (p :: ps) =
      walk false (if ps.isEmpty then segments ++ [""] else segments) ps := by
  rw [walk, if_neg (Bool.not_eq_true _ ▸ up), if_pos stay]

theorem walk_down (up : isDoubleDot p = false) (stay : isSingleDot p = false) :
    walk false segments (p :: ps) =
      walk false (segments ++ [String.ofList (Percent.encode Percent.inPath p)]) ps := by
  rw [walk, if_neg (Bool.not_eq_true _ ▸ up), if_neg (Bool.not_eq_true _ ▸ stay), Bool.false_and,
    Bool.false_and, if_neg Bool.false_ne_true]

end

/-! ### Plain pieces -/

theorem plainDots_of_not_mem {p : List Char} (plain : '%' ∉ p) : plainDots p = p := by
  induction p with
  | nil => rfl
  | cons c p ih =>
    rw [List.mem_cons, not_or] at plain
    rw [plainDots.eq_def]
    split
    next sign => exact absurd (List.cons.inj sign).1.symm plain.1
    next sign => exact absurd (List.cons.inj sign).1.symm plain.1
    next same =>
      obtain ⟨rfl, rfl⟩ := List.cons.inj same
      rw [ih plain.2]
    next empty => cases empty

/-- A piece that a walk goes down by, and that is its own code. -/
structure IsPlainPiece (p : List Char) : Prop where
  notHere : p ≠ ['.']
  notAbove : p ≠ ['.', '.']
  undotted : '%' ∉ p
  uncoded : Percent.encode Percent.inPath p = p

theorem walk_plain (segments : List String) {ps : List (List Char)}
    (plain : ∀ p ∈ ps, IsPlainPiece p) :
    walk false segments ps = segments ++ ps.map String.ofList := by
  induction ps generalizing segments with
  | nil => simp [walk]
  | cons p ps ih =>
    obtain ⟨here, rest⟩ := List.forall_mem_cons.1 plain
    -- Without a percent sign a piece is the dots that it shows.
    have up : isDoubleDot p = false := by
      simp [isDoubleDot, plainDots_of_not_mem here.undotted, here.notAbove]
    have stay : isSingleDot p = false := by
      simp [isSingleDot, plainDots_of_not_mem here.undotted, here.notHere]
    simp [walk_down segments ps up stay, here.uncoded, ih _ rest]

/-- Whether pieces never lead above the segment that they start `depth` segments below. -/
def descends : Nat → List (List Char) → Bool
  | _, [] => true
  | depth, p :: ps =>
    if isDoubleDot p then
      match depth with
      | 0 => false
      | depth + 1 => descends depth ps
    else if isSingleDot p then descends depth ps
    else descends (depth + 1) ps

theorem walk_append (dir segments : List String) (ps : List (List Char))
    (descending : descends segments.length ps = true) :
    walk false (dir ++ segments) ps = dir ++ walk false segments ps := by
  induction ps generalizing segments with
  | nil => rfl
  | cons p ps ih =>
    unfold descends at descending
    cases up : isDoubleDot p with
    | true =>
      rw [walk_up _ _ up, walk_up _ _ up]
      rw [if_pos up] at descending
      -- What a climb takes away has been added by the walk.
      rcases List.eq_nil_or_concat segments with rfl | ⟨above, last, rfl⟩
      · cases descending
      · rw [List.length_concat] at descending
        rw [List.concat_eq_append, ← List.append_assoc, List.dropLast_concat, List.dropLast_concat]
        cases ps with
        | nil => simp only [List.isEmpty_nil, if_true, walk, List.append_assoc]
        | cons p' ps => exact ih above descending
    | false =>
      rw [if_neg (Bool.not_eq_true _ ▸ up)] at descending
      cases stay : isSingleDot p with
      | true =>
        rw [walk_stay _ _ up stay, walk_stay _ _ up stay]
        rw [if_pos stay] at descending
        cases ps with
        | nil => simp only [List.isEmpty_nil, if_true, walk, List.append_assoc]
        | cons p' ps => exact ih segments descending
      | false =>
        rw [walk_down _ _ up stay, walk_down _ _ up stay, List.append_assoc]
        rw [if_neg (Bool.not_eq_true _ ▸ stay)] at descending
        exact ih _ (by rwa [List.length_append, List.length_singleton])

theorem walk_ne_nil (segments : List String) {ps : List (List Char)} (nonempty : ps ≠ []) :
    walk false segments ps ≠ [] := by
  induction ps generalizing segments with
  | nil => exact absurd rfl nonempty
  | cons p ps ih =>
    cases ps with
    | cons p' ps => exact ih _ (List.cons_ne_nil _ _)
    | nil =>
      have grown (before : List String) (last : String) : walk false (before ++ [last]) [] ≠ [] :=
        List.append_ne_nil_of_right_ne_nil _ (List.cons_ne_nil _ _)
      cases up : isDoubleDot p with
      | true => exact walk_up _ _ up ▸ grown _ _
      | false =>
        cases stay : isSingleDot p with
        | true => exact walk_stay _ _ up stay ▸ grown _ _
        | false => exact walk_down _ _ up stay ▸ grown _ _

theorem render_rooted {segments : List String} (nonempty : segments ≠ []) :
    (UrlPath.rooted segments).render = "/" ++ String.intercalate "/" segments := by
  simp only [UrlPath.render]
  induction segments with
  | nil => exact absurd rfl nonempty
  | cons segment segments ih =>
    rw [List.map_cons, String.join_cons]
    cases segments with
    | nil => simp
    | cons next segments =>
      rw [ih (List.cons_ne_nil _ _), String.intercalate_cons_cons, String.append_assoc,
        String.append_assoc]

theorem render_append (dir : List String) {segments : List String} (nonempty : segments ≠ []) :
    ∃ rest, (UrlPath.rooted (dir ++ segments)).render =
      (UrlPath.rooted (dir ++ [""])).render ++ rest := by
  cases segments with
  | nil => exact absurd rfl nonempty
  | cons segment segments =>
    refine ⟨segment ++ String.join (segments.map ("/" ++ ·)), ?_⟩
    simp only [UrlPath.render, List.map_append, List.map_cons, List.map_nil, String.join_append,
      String.join_cons, String.join_nil, String.append_empty, String.append_assoc]

end Transclusion.Url
